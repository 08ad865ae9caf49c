/-
Numbers, bytes and names on the wire.

Numbers are big-endian.  A name is a run of labels, each behind its length, that
ends in an empty label or in a pointer to labels further up; a pointer must lead
to before the name that it ends, and the labels that it leads to must end before
that name begins, so following pointers comes to an end.
-/
import Firewall.Name.Basic
import Firewall.Text.Numeral

namespace Firewall.Dns.Wire

/-! ### Numbers and bytes -/

/-- Reads one byte. -/
def byte? (m : Array UInt8) (pos : Nat) : Option (Nat × Nat) :=
  (m[pos]?).map fun b => (b.toNat, pos + 1)

/-- Reads a number of a given count of bytes. -/
def number? (m : Array UInt8) (count pos : Nat) : Option (Nat × Nat) :=
  if pos + count ≤ m.size then
    some ((m.extract pos (pos + count)).foldl (fun n b => n * 256 + b.toNat) 0, pos + count)
  else none

/-- Reads a given count of bytes. -/
def bytes? (m : Array UInt8) (count pos : Nat) : Option (List UInt8 × Nat) :=
  if pos + count ≤ m.size then some ((m.extract pos (pos + count)).toList, pos + count) else none

/-- The number that bytes stand for. -/
def ofBytes (bytes : List UInt8) : Nat := bytes.foldl (fun n b => n * 256 + b.toNat) 0

/-- Reads bytes behind a byte that says how many they are. -/
def counted? (m : Array UInt8) (pos : Nat) : Option (List UInt8 × Nat) := do
  let (n, pos) ← byte? m pos
  bytes? m n pos

/-! ### Names -/

/-- Reads labels up to their end.  The name begins at `start`; when it was reached by a pointer,
every label and the end must come before `limit`. -/
def labels? (m : Array UInt8) (start limit pos : Nat) : Option (List (List UInt8) × Nat) :=
  if pos < limit then
    if h : pos < m.size then
      let n := (m[pos]).toNat
      if n = 0 then some ([], pos + 1)
      else if n < 64 then
        match bytes? m n (pos + 1) with
        | none => none
        | some (label, _) =>
          (labels? m start limit (pos + 1 + n)).map fun (rest, pos) => (label :: rest, pos)
      else if n < 192 then none
      else match m[pos + 1]? with
        | none => none
        | some low =>
          let target := (n - 192) * 256 + low.toNat
          if target < start then
            (labels? m target start target).map fun (rest, _) => (rest, pos + 2)
          else none
    else none
  else none
termination_by (start, m.size - pos)

/-- Reads a name of at most 255 bytes. -/
def name? (m : Array UInt8) (pos : Nat) : Option (List (List UInt8) × Nat) := do
  let (labels, next) ← labels? m pos (m.size + 1) pos
  if Name.wireLength labels ≤ 255 then some (labels, next) else none

/-- Whether a byte of a label is written as it is. -/
def isPlain (first : Bool) (c : Char) : Bool :=
  Text.isAlphanumeric c || c == '_' || (if first then c == '*' else c == '-')

/-- A byte of a label as text: as it is, behind a backslash, or as a
backslash and three octal digits. -/
def byteChars (first : Bool) (b : UInt8) : List Char :=
  let c := Char.ofNat b.toNat
  if isPlain first c then [c]
  else if 0x20 < b.toNat ∧ b.toNat < 0x7F then ['\\', c]
  else '\\' :: [b.toNat / 64, b.toNat / 8 % 8, b.toNat % 8].map Nat.digitChar

/-- A label as text. -/
def labelChars : List UInt8 → List Char
  | [] => []
  | b :: rest => byteChars true b ++ rest.flatMap (byteChars false)

/-- A name as text, each label with a dot behind it; a dot alone for the root. -/
def nameText (labels : List (List UInt8)) : String :=
  if labels.isEmpty then "."
  else String.ofList (labels.flatMap fun l => labelChars l ++ ['.'])

end Firewall.Dns.Wire
