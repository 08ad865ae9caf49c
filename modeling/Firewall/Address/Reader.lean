/-
Reading addresses.

Two grammars are in use.  A bare address is read strictly: an octet has no
leading zeros, and `::` stands for at least one group.  The address of a prefix
is read leniently: an octet may be filled up with zeros to three digits, and
`::` may stand for no group at all.  In both, an IPv6 address may end in four
octets where two groups are still missing.
-/
import Firewall.Address.Basic
import Firewall.Text.Numeral
import Firewall.Text.Split

namespace Firewall.Address

open Text (pieces isDigitOf ofDigits)

/-- How an address is read. -/
inductive Reading where
  /-- An octet has no leading zeros, and `::` stands for one group or more. -/
  | strict
  /-- An octet may have leading zeros, and `::` may stand for no group. -/
  | lenient
  deriving DecidableEq

namespace Reading

/-- Whether an octet may be written with these digits, their value aside. -/
def admitsDigits (r : Reading) (cs : List Char) : Bool :=
  1 ≤ cs.length && cs.length ≤ 3 && cs.all Char.isDigit
    && (r == .lenient || cs.length == 1 || cs.head? != some '0')

/-- Whether `::` may stand between this many groups before it and after it. -/
def admitsGap (r : Reading) (before after : Nat) : Bool :=
  match r with
  | .strict => before + after ≤ 7
  | .lenient => before ≤ 7 && before + after ≤ 8

end Reading

/-- Reads one octet. -/
def readOctet? (r : Reading) (cs : List Char) : Option Nat :=
  let n := Nat.ofDigitChars 10 cs 0
  if r.admitsDigits cs && n ≤ 255 then some n else none

/-- Reads four octets with dots between them, as one number. -/
def readQuad? (r : Reading) (cs : List Char) : Option Nat :=
  match (pieces '.' cs).mapM (readOctet? r) with
  | some [a, b, c, d] => some (((a * 256 + b) * 256 + c) * 256 + d)
  | _ => none

/-- Reads one group: one to four hexadecimal digits. -/
def readGroup? (cs : List Char) : Option Nat :=
  if 1 ≤ cs.length && cs.length ≤ 4 && cs.all (isDigitOf 16) then some (ofDigits 16 cs) else none

/-- Reads groups, the last of which may be four octets that count as two groups. -/
def readGroups? (r : Reading) : List (List Char) → Option (List Nat)
  | [] => some []
  | [last] =>
    match readGroup? last with
    | some g => some [g]
    | none => (readQuad? r last).map fun q => [q / 0x10000, q % 0x10000]
  | piece :: more => do
    let g ← readGroup? piece
    let rest ← readGroups? r more
    return g :: rest

/-- The pieces between colons; a text without characters has none. -/
def colonPieces (cs : List Char) : List (List Char) := if cs.isEmpty then [] else pieces ':' cs

/-- The parts before and after the first `::`. -/
def cutGap : List Char → Option (List Char × List Char)
  | ':' :: ':' :: rest => some ([], rest)
  | c :: rest => (cutGap rest).map fun (before, after) => (c :: before, after)
  | [] => none

/-- The eight groups of an IPv6 address. -/
def readAllGroups? (r : Reading) (cs : List Char) : Option (List Nat) := do
  match cutGap cs with
  | none =>
    let groups ← readGroups? r (colonPieces cs)
    if groups.length = 8 then some groups else none
  | some (before, after) =>
    let front ← (colonPieces before).mapM readGroup?
    let back ← readGroups? r (colonPieces after)
    if r.admitsGap front.length back.length then
      some (front ++ List.replicate (8 - (front.length + back.length)) 0 ++ back)
    else none

/-- The number whose digits, to the base 65536, are the given groups. -/
def ofGroups (groups : List Nat) : Nat := groups.foldl (fun n g => n * 0x10000 + g) 0

/-- Reads an IPv4 address. -/
def readV4? (r : Reading) (cs : List Char) : Option Address := (readQuad? r cs).bind (ofNat? .v4)

/-- Reads an IPv6 address. -/
def readV6? (r : Reading) (cs : List Char) : Option Address :=
  (readAllGroups? r cs).bind fun groups => ofNat? .v6 (ofGroups groups)

/-- Reads an address of either family. -/
def read? (r : Reading) (cs : List Char) : Option Address := readV4? r cs <|> readV6? r cs

/-- Reads the text of a bare address. -/
def ofText? (s : String) : Option Address := read? .strict s.toList

end Firewall.Address
