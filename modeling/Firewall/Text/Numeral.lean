/-
Numbers as text.

Writing is the usual decimal form without leading zeros, or the hexadecimal one
in small letters.  Reading is in two steps, so that each format can put its own
limits between them: a run of digits first, the number it stands for second.
-/
namespace Firewall.Text

/-- What a digit counts for in a base up to 36, capital letters counting like small ones. -/
def digitValue (c : Char) : Nat :=
  if c.isDigit then c.toNat - '0'.toNat
  else if 'a' ≤ c ∧ c ≤ 'z' then c.toNat - 'a'.toNat + 10
  else if 'A' ≤ c ∧ c ≤ 'Z' then c.toNat - 'A'.toNat + 10
  else 36

/-- Whether a character is a digit of the base. -/
def isDigitOf (base : Nat) (c : Char) : Bool := digitValue c < base

/-- The number that a run of digits stands for. -/
def ofDigits (base : Nat) (cs : List Char) : Nat :=
  cs.foldl (fun n c => n * base + digitValue c) 0

/-- Reads a text that is a nonempty run of decimal digits and nothing else. -/
def readDecimal? (cs : List Char) : Option Nat :=
  if cs ≠ [] ∧ cs.all Char.isDigit then some (Nat.ofDigitChars 10 cs 0) else none

/-- The decimal form of a number. -/
def decimal (n : Nat) : List Char := Nat.toDigits 10 n

/-- The decimal form, filled up with zeros in front to at least a given width. -/
def padded (width n : Nat) : List Char :=
  List.replicate (width - (decimal n).length) '0' ++ decimal n

/-- The hexadecimal form of a number, in small letters. -/
def hexadecimal (n : Nat) : List Char := Nat.toDigits 16 n

/-- The digit for a number below sixteen, in small letters. -/
def hexDigit (n : Nat) : Char := Nat.digitChar n

/-- **A number written is the number read.** -/
@[simp] theorem readDecimal?_decimal (n : Nat) : readDecimal? (decimal n) = some n := by
  have digits : ∀ c ∈ Nat.toDigits 10 n, c.isDigit = true := fun c hc =>
    Nat.isDigit_of_mem_toDigits (by decide) (by decide) hc
  simpa [readDecimal?, decimal, Nat.toDigits_ne_nil, Nat.ofDigitChars_ten_toDigits] using digits

end Firewall.Text
