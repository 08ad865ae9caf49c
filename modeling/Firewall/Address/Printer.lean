/-
Addresses as text.

IPv4 addresses are written as four decimal octets.  IPv6 addresses are written
as RFC 5952 asks: groups in small hexadecimal letters without leading zeros, and
`::` in place of the longest run of two or more zero groups, the first of equal
ones.  IPv4-mapped addresses end in the four octets.
-/
import Firewall.Address.Basic
import Firewall.Text.Numeral
import Firewall.Text.Split

namespace Firewall.Address

open Text (decimal hexadecimal join)

/-- Four octets with dots between them. -/
def quadChars (octets : List Nat) : List Char := join ['.'] (octets.map decimal)

/-- Groups with colons between them. -/
def groupChars (groups : List Nat) : List Char := join [':'] (groups.map hexadecimal)

/-- How many zero groups stand in front. -/
def zeroRun (groups : List Nat) : Nat := (groups.takeWhile (· == 0)).length

/-- Where the longest run of zero groups begins and how long it is; of
equally long runs the first. -/
def longestZeroRun (groups : List Nat) : Nat × Nat :=
  (List.range groups.length).foldl
    (fun best i => let n := zeroRun (groups.drop i); if best.2 < n then (i, n) else best) (0, 0)

/-- Whether eight groups are those of an IPv4-mapped address, `::ffff:a.b.c.d`. -/
def isMapped (groups : List Nat) : Bool := groups.take 6 == [0, 0, 0, 0, 0, 0xffff]

/-- The eight groups of an IPv6 address with the longest run of zeros left out. -/
def compressedChars (groups : List Nat) : List Char :=
  let (start, length) := longestZeroRun groups
  if length < 2 then groupChars groups
  else groupChars (groups.take start) ++ [':', ':'] ++ groupChars (groups.drop (start + length))

/-- The text of an address, character by character. -/
def chars (a : Address) : List Char :=
  match a.family with
  | .v4 => quadChars a.octets
  | .v6 =>
    if isMapped a.groups then "::ffff:".toList ++ quadChars a.octets else compressedChars a.groups

/-- The text of an address. -/
def text (a : Address) : String := String.ofList a.chars

end Firewall.Address
