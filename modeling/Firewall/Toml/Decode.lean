/-
Taking TOML values apart.

A structure is given as a table, whose keys that are no fields are passed over if
their values can be read at all, or as an array with the fields in their order,
whose further elements are not looked at.  A date has parts too, none of which is
ever a field, so it is a structure in which nothing is given.  A word out of a
fixed list may also be given as a table with that word as its one key and nothing
in it.
-/
import Firewall.Address.Endpoint
import Firewall.Toml.Value

namespace Firewall.Toml

/-- The fields of a structure, by name. -/
abbrev Fields := List (String × Value)

/-- A string. -/
def string? : Value → Option String
  | .string s => some s
  | _ => none

/-- A truth value. -/
def boolean? : Value → Option Bool
  | .boolean b => some b
  | _ => none

/-- A natural number below a bound. -/
def natural? (bound : Nat) : Value → Option Nat
  | .integer n => if 0 ≤ n ∧ n < bound then some n.toNat else none
  | _ => none

/-- A port number. -/
def port? : Value → Option PortNumber
  | .integer n => if h : n.toNat < 65536 then if 0 ≤ n then some ⟨n.toNat, h⟩ else none else none
  | _ => none

/-- An array, each element of which is read. -/
def list? {α : Type} (read : Value → Option α) : Value → Option (List α)
  | .array _ items => items.mapM read
  | _ => none

/-- A string that is read further. -/
def read? {α : Type} (read : String → Option α) (v : Value) : Option α := (string? v).bind read

/-- A word that is read further. -/
def word? {α : Type} (read : String → Option α) : Value → Option α
  | .string s => read s
  | .table _ [(key, .table _ [])] => read key
  | .table _ [(key, .array _ [])] => read key
  | _ => none

/-- The fields of a structure with the given names. -/
def fields? (names : List String) : Value → Option Fields
  | .table _ entries =>
    if entries.all fun (key, v) => names.contains key || v.isReadable then some entries else none
  | .array _ items => some (names.zip items)
  | .dateTime => some []
  | _ => none

namespace Fields

/-- A field that must be there. -/
def required? {α : Type} (fs : Fields) (key : String) (read : Value → Option α) : Option α :=
  (lookup? fs key).bind read

/-- A field that stands for something when it is missing. -/
def getD? {α : Type} (fs : Fields) (key : String) (default : α) (read : Value → Option α) :
    Option α :=
  match lookup? fs key with
  | none => some default
  | some v => read v

/-- A field that may be missing. -/
def optional? {α : Type} (fs : Fields) (key : String) (read : Value → Option α) :
    Option (Option α) :=
  fs.getD? key none fun v => (read v).map some

end Fields

end Firewall.Toml
