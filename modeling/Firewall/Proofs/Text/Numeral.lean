/-
Digits.

A number is written with digits below its base and nothing else, so none of the
characters that stand between numbers — colon, dot, slash, comma, dash, blank — can
be mistaken for a part of one.  The hexadecimal form is read back here; for the
decimal form `readDecimal?_decimal` does that.
-/
import Firewall.Text.Blank
import Firewall.Text.Numeral
import Mathlib.Algebra.Group.Nat.Defs

namespace Firewall.Text

/-- **A number is written with the digits of its base.** -/
theorem mem_toDigits {base n : Nat} (hb : 1 < base) {c : Char} (h : c ∈ Nat.toDigits base n) :
    ∃ d, d < base ∧ c = Nat.digitChar d := by
  induction n using Nat.strongRecOn with
  | ind n ih =>
    rw [Nat.toDigits_eq_if hb] at h
    split at h
    · rename_i hn
      exact ⟨n, hn, by simpa using h⟩
    · rename_i hn
      rcases List.mem_append.1 h with h | h
      · exact ih (n / base) (Nat.div_lt_self (by omega) hb) h
      · exact ⟨n % base, Nat.mod_lt n (by omega), by simpa using h⟩

/-- What is known of every digit up to sixteen holds of every character of a hexadecimal number. -/
theorem of_mem_hexadecimal {P : Char → Prop} (hP : ∀ d < 16, P (Nat.digitChar d)) {n : Nat}
    {c : Char}
    (h : c ∈ hexadecimal n) : P c := by
  obtain ⟨d, hd, rfl⟩ := mem_toDigits (by decide) h
  exact hP d hd

/-- What is known of every digit up to ten holds of every character of a decimal number. -/
theorem of_mem_decimal {P : Char → Prop} (hP : ∀ d < 10, P (Nat.digitChar d)) {n : Nat} {c : Char}
    (h : c ∈ decimal n) : P c := by
  obtain ⟨d, hd, rfl⟩ := mem_toDigits (by decide) h
  exact hP d hd

theorem hexadecimal_ne_nil (n : Nat) : hexadecimal n ≠ [] := Nat.toDigits_ne_nil

theorem toList_toString (n : Nat) : (toString n).toList = decimal n := by
  rw [Nat.toString_eq_ofList_toDigits, String.toList_ofList]
  rfl

/-! ### Reading hexadecimal numbers -/

private theorem ofDigits_append_singleton (base : Nat) (cs : List Char) (c : Char) :
    ofDigits base (cs ++ [c]) = ofDigits base cs * base + digitValue c := by
  simp [ofDigits]

private theorem digitValue_digitChar : ∀ d < 16, digitValue (Nat.digitChar d) = d := by decide

/-- **A hexadecimal number written is the number read.** -/
theorem ofDigits_hexadecimal (n : Nat) : ofDigits 16 (hexadecimal n) = n := by
  unfold hexadecimal
  induction n using Nat.strongRecOn with
  | ind n ih =>
    rw [Nat.toDigits_eq_if (by decide)]
    split
    · rename_i hn
      simp [ofDigits, digitValue_digitChar n hn]
    · rename_i hn
      rw [ofDigits_append_singleton, ih (n / 16) (Nat.div_lt_self (by omega) (by decide)),
        digitValue_digitChar _ (Nat.mod_lt n (by decide))]
      omega

/-! ### Numbers with zeros in front -/

theorem isDigit_of_mem_decimal {n : Nat} {c : Char} (h : c ∈ decimal n) : c.isDigit = true :=
  Nat.isDigit_of_mem_toDigits (by decide) (by decide) h

theorem isDigit_of_mem_padded {width n : Nat} {c : Char} (h : c ∈ padded width n) :
    c.isDigit = true := by
  rcases List.mem_append.1 h with h | h
  · rw [List.eq_of_mem_replicate h]
    decide
  · exact isDigit_of_mem_decimal h

theorem padded_ne_nil (width n : Nat) : padded width n ≠ [] :=
  List.append_ne_nil_of_right_ne_nil _ Nat.toDigits_ne_nil

theorem length_padded {width n : Nat} (hpos : 0 < width) (h : n < 10 ^ width) :
    (padded width n).length = width := by
  have hlength : (decimal n).length ≤ width := (Nat.length_toDigits_le_iff (by decide) hpos).2 h
  unfold padded
  rw [List.length_append, List.length_replicate]
  omega

/-- **Zeros in front change nothing.** -/
theorem ofDigitChars_padded (width n : Nat) : Nat.ofDigitChars 10 (padded width n) 0 = n := by
  unfold padded
  rw [Nat.ofDigitChars_append, Nat.ofDigitChars_replicate_zero, Nat.mul_zero]
  exact Nat.ofDigitChars_ten_toDigits

end Firewall.Text
