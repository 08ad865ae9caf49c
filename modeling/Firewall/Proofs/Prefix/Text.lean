/-
A prefix that is written is the prefix that is read.

The text of a prefix is its first address, a slash and its length.  Neither part
holds a slash of its own, so the text is cut where it was put together
(`read?_slashed`, for any address with a length), and the first address with a length
gives the prefix back, because it has no bits beyond that length.
-/
import Firewall.Prefix.Text
import Firewall.Proofs.Address.Text

namespace Firewall.Prefix

/-! ### What a prefix is written with -/

theorem isPrinted_of_mem_chars {p : Prefix} {c : Char} (h : c ∈ p.chars) :
    Address.IsPrinted c ∨ c = '/' := by
  rcases List.mem_append.1 h with h | h
  · exact .inl (Address.isPrinted_of_mem_chars h)
  · rcases List.mem_cons.1 h with h | h
    · exact .inr h
    · obtain ⟨d, hd, rfl⟩ := Text.mem_toDigits (by decide) h
      exact .inl (.inl ⟨d, by omega, rfl⟩)

/-- What holds of every digit, and of the dot, the colon and the slash, holds
of every character of a prefix. -/
theorem of_mem_chars {P : Char → Prop} (hdigit : ∀ d < 16, P (Nat.digitChar d))
    (hrest : P '.' ∧ P ':' ∧ P '/') {p : Prefix} {c : Char}
    (h : c ∈ p.chars) : P c := by
  rcases isPrinted_of_mem_chars h with (⟨d, hd, rfl⟩ | rfl | rfl) | rfl
  · exact hdigit d hd
  · exact hrest.1
  · exact hrest.2.1
  · exact hrest.2.2

theorem notMem_chars {c : Char} (hdigit : ∀ d < 16, Nat.digitChar d ≠ c)
    (hrest : c ≠ '.' ∧ c ≠ ':' ∧ c ≠ '/') (p : Prefix) : c ∉ p.chars :=
  fun h => of_mem_chars (P := (· ≠ c)) hdigit ⟨hrest.1.symm, hrest.2.1.symm, hrest.2.2.symm⟩ h rfl

private theorem slash_notMem_chars (a : Address) : '/' ∉ a.chars :=
  Address.notMem_chars (by decide) (by decide) a

/-! ### Reading -/

theorem ofAddress_base (p : Prefix) : ofAddress p.base p.length p.length_le = p :=
  ext rfl rfl (Nat.mul_div_cancel p.bits (Nat.two_pow_pos _))

private theorem readLength?_decimal (family : Family) {n : Nat} (h : n ≤ family.width) :
    readLength? family (Text.decimal n) = some ⟨n, h⟩ := by
  have hdigits : (Text.decimal n).length ≤ lengthDigits family := by
    unfold Text.decimal
    cases family with
    | v4 =>
      exact (Nat.length_toDigits_le_iff (by decide) (by decide)).2
        (Nat.lt_of_le_of_lt h (by decide))
    | v6 =>
      exact (Nat.length_toDigits_le_iff (by decide) (by decide)).2
        (Nat.lt_of_le_of_lt h (by decide))
  simp [readLength?, h, hdigits]

/-- **An address with a length is read as the prefix of that length.** -/
theorem read?_slashed (a : Address) {length : Nat} (h : length ≤ a.family.width) :
    read? (a.chars ++ '/' :: Text.decimal length) = some (ofAddress a length h) := by
  have hslashed :
      readSlashed? (a.chars ++ '/' :: Text.decimal length) = some (ofAddress a length h) := by
    have hlength := readLength?_decimal a.family h
    unfold readSlashed?
    rw [Text.cut_append_cons (slash_notMem_chars a)]
    simp only [Option.bind_eq_bind, Option.bind_some, Address.read?_chars, hlength, Option.pure_def]
  simp [read?, hslashed]

theorem read?_bare (a : Address) : read? a.chars = some (host a) := by
  have hslashed : readSlashed? a.chars = none := by
    unfold readSlashed?
    rw [Text.cut_eq_none_iff.2 (slash_notMem_chars a)]
    rfl
  simp [read?, hslashed, Address.read?_chars]

/-- **A prefix that is written is the prefix that is read.** -/
theorem read?_chars (p : Prefix) : read? p.chars = some p := by
  rw [← congrArg some (ofAddress_base p)]
  exact read?_slashed p.base p.length_le

theorem chars_injective {p q : Prefix} (h : p.chars = q.chars) : p = q := by
  have hread := read?_chars q
  rw [← h, read?_chars] at hread
  exact Option.some.inj hread

end Firewall.Prefix
