/-
The saved state: the sets behind the selectors of each policy, from run to run.

The state is saved as JSON, an object of objects of lists of sets, keys in
ascending order.  Read back, a set may also be given as a list of its five fields,
members of an object that are not fields are passed over, and of repeated keys of
the two outer objects the last counts, though every one has to be right.
-/
import Firewall.Address.Printer
import Firewall.Address.Reader
import Firewall.Json.Reader
import Firewall.Policy.Compile
import Firewall.Time.Text

namespace Firewall.Saved

open Json (Value)

/-! ### Writing -/

/-- A set as a value. -/
def ofSet (s : NamedSet) : Value := .ofMembers [
  ("fqdn", .ofString s.fqdn),
  ("setName", .ofString s.setName),
  ("ips", .array (s.addresses.map fun a => .ofString a.text)),
  ("expirationTime", .ofString s.expiration.text),
  ("version", .ofString s.family.keyword)]

/-- A state as a value. -/
def ofStates (states : PolicyStates) : Value :=
  .ofMembers (states.entries.map fun (policy, state) =>
    (policy, .ofMembers
      (state.entries.map fun (selector, sets) => (selector, .array (sets.map ofSet)))))

/-- The text of a state. -/
def text (states : PolicyStates) : String := (ofStates states).text

/-! ### Reading -/

/-- A string that is a text. -/
def string? : Value → Option String
  | .string text => text
  | _ => none

/-- A list, each element of which is read. -/
def list? {α : Type} (read : Value → Option α) : Value → Option (List α)
  | .array items => items.mapM read
  | _ => none

/-- An address. -/
def address? (v : Value) : Option Address := (string? v).bind Address.ofText?

/-- A point in time. -/
def instant? (v : Value) : Option Instant := (string? v).bind Instant.ofText?

/-- A family: its keyword, or an object with the keyword as its one key and nothing under it. -/
def family? : Value → Option Family
  | .string text => text.bind Family.ofKeyword?
  | .object [(key, .null)] => key.bind Family.ofKeyword?
  | _ => none

/-- The values under a key. -/
def under (members : List (Option String × Value)) (key : String) : List Value :=
  (members.filter fun m => m.1 == some key).map (·.2)

/-- The one value under a key. -/
def field? (members : List (Option String × Value)) (key : String) : Option Value :=
  match under members key with
  | [v] => some v
  | _ => none

/-- A set given by its five fields. -/
def setOfFields? (fqdn setName ips expiration version : Value) : Option NamedSet := do
  return ⟨← string? fqdn, ← string? setName, ← list? address? ips, ← instant? expiration,
    ← family? version⟩

/-- A set. -/
def set? : Value → Option NamedSet
  | .array [fqdn, setName, ips, expiration, version] =>
    setOfFields? fqdn setName ips expiration version
  | .object members =>
    if members.all (·.1.isSome) then do
      setOfFields? (← field? members "fqdn") (← field? members "setName") (← field? members "ips")
        (← field? members "expirationTime") (← field? members "version")
    else none
  | _ => none

/-- A member whose key is a text and whose value is read. -/
def member? {α : Type} (read : Value → Option α) (m : Option String × Value) :
    Option (String × α) := do
  return (← m.1, ← read m.2)

/-- A dictionary, each value of which is read; of repeated keys the last counts. -/
def dictionary? {α : Type} (read : Value → Option α) : Value → Option (Dictionary String α)
  | .object members => (members.mapM (member? read)).map .ofList
  | _ => none

/-- A state. -/
def states? (v : Value) : Option PolicyStates := dictionary? (dictionary? (list? set?)) v

/-- Reads the text of a state. -/
def ofText? (text : String) : Option PolicyStates := (Json.ofText? text).bind states?

/-- Every set of every policy, in the order of policies and selectors. -/
def allSets (states : PolicyStates) : List NamedSet :=
  states.values.flatMap fun state => state.values.flatten

end Firewall.Saved
