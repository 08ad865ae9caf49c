/-
Prefixes as text.

An entry is `address/length`, or a bare address that stands for itself alone,
with any white space around it.  Bits beyond the length are dropped.  What is
refused says why: the reason looks at the part behind the first slash, so a
length that is no number of one byte is told from one that is out of range.
-/
import Firewall.Address.Printer
import Firewall.Address.Reader
import Firewall.Prefix.Basic
import Firewall.Text.Blank

namespace Firewall

namespace Prefix

open Text (cut join)

/-- The text of a prefix, character by character. -/
def chars (p : Prefix) : List Char := p.base.chars ++ '/' :: Text.decimal p.length

/-- The text of a prefix: its first address, a slash and its length. -/
def text (p : Prefix) : String := String.ofList p.chars

/-- The texts of prefixes, with a comma between each two. -/
def joinedText (ps : List Prefix) : String := String.intercalate ", " (ps.map text)

/-- How many digits the length of a prefix may be written with. -/
def lengthDigits : Family → Nat
  | .v4 => 2
  | .v6 => 3

/-- Reads a length for prefixes of a family; zeros in front are allowed
within the digits it may have. -/
def readLength? (family : Family) (cs : List Char) : Option { n : Nat // n ≤ family.width } := do
  let n ← Text.readDecimal? cs
  if h : n ≤ family.width then
    if cs.length ≤ lengthDigits family then some ⟨n, h⟩ else none
  else none

/-- Reads `address/length`. -/
def readSlashed? (cs : List Char) : Option Prefix := do
  let (before, after) ← cut '/' cs
  let a ← Address.read? .lenient before
  let ⟨length, h⟩ ← readLength? a.family after
  return ofAddress a length h

/-- Reads `address/length` or a bare address. -/
def read? (cs : List Char) : Option Prefix :=
  readSlashed? cs <|> (Address.read? .strict cs).map host

/-- Why an entry is not a prefix. -/
inductive Fault where
  | empty
  /-- What follows the slash is not a number of one byte. -/
  | badLength
  /-- The length is a number, so the address is wrong or the length too large for it. -/
  | outOfRange
  /-- There is no slash, and the entry is not an address either. -/
  | notAnAddress
  deriving DecidableEq, Repr

namespace Fault

/-- The words for a fault. -/
def reason : Fault → String
  | empty => "empty value"
  | badLength => "invalid prefix length"
  | outOfRange => "invalid address or prefix length out of range"
  | notAnAddress => "not an IP address or CIDR"

end Fault

/-- An entry that is not a prefix, with the reason. -/
structure Invalid where
  entry : String
  fault : Fault
  deriving DecidableEq, Repr

/-- The message for an entry that is not a prefix. -/
def Invalid.message (i : Invalid) : String :=
  "invalid CIDR '" ++ i.entry ++ "': " ++ i.fault.reason

/-- Whether a text is a number of one byte, with a plus sign in front or without. -/
def isByteNumber (cs : List Char) : Bool :=
  let digits := match cs with
    | '+' :: rest => rest
    | cs => cs
  match Text.readDecimal? digits with
  | some n => n ≤ 255
  | none => false

/-- What is wrong with a text that is not a prefix. -/
def faultOf (cs : List Char) : Fault :=
  if cs.isEmpty then .empty
  else match cut '/' cs with
    | none => .notAnAddress
    | some (_, after) => if isByteNumber after then .outOfRange else .badLength

/-- Reads an entry: a prefix with or without a length, and white space around it. -/
def parse (entry : String) : Except Invalid Prefix :=
  let cs := Text.trim entry.toList
  match read? cs with
  | some p => .ok p
  | none => .error ⟨entry, faultOf cs⟩

/-- Reads a list of entries up to the first that is not a prefix. -/
def parseAll (entries : List String) : Except Invalid (List Prefix) := entries.mapM parse

end Prefix

end Firewall
