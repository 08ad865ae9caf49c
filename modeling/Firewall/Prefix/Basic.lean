/-
Address prefixes.

A prefix is given by its leading bits alone, so it has no host bits that could be
set: two prefixes with the same addresses are the same value.  What lies in a
prefix is decided by dividing the remaining bits away, and a prefix `covers`
another when every address of the other lies in it.
-/
import Firewall.Address.Basic

namespace Firewall

/-- A prefix of an address family: a length and that many leading bits. -/
structure Prefix where
  family : Family
  length : Nat
  /-- The leading bits, read as a number. -/
  bits : Nat
  length_le : length ≤ family.width
  bits_lt : bits < Nat.pow 2 length
  deriving DecidableEq

namespace Prefix

instance : Inhabited Prefix := ⟨.v4, 0, 0, Nat.zero_le _, Nat.zero_lt_one⟩

theorem ext {p q : Prefix} (hf : p.family = q.family) (hl : p.length = q.length)
    (hb : p.bits = q.bits) : p = q := by
  cases p; cases q; cases hf; cases hl; cases hb; rfl

/-- The first `length` bits of an address. -/
def ofAddress (a : Address) (length : Nat) (h : length ≤ a.family.width) : Prefix where
  family := a.family
  length := length
  bits := a.value / Nat.pow 2 (a.family.width - length)
  length_le := h
  bits_lt := by
    show a.value / 2 ^ (a.family.width - length) < 2 ^ length
    rw [Nat.div_lt_iff_lt_mul (Nat.two_pow_pos _), ← Nat.pow_add, Nat.add_sub_cancel' h]
    exact a.value_lt

/-- The prefix that holds one address. -/
def host (a : Address) : Prefix := ofAddress a a.family.width (Nat.le_refl _)

/-- The first address of a prefix: its bits, and zeros after them. -/
def base (p : Prefix) : Address where
  family := p.family
  value := p.bits * Nat.pow 2 (p.family.width - p.length)
  value_lt :=
    calc p.bits * 2 ^ (p.family.width - p.length)
        < 2 ^ p.length * 2 ^ (p.family.width - p.length) :=
          Nat.mul_lt_mul_of_pos_right p.bits_lt (Nat.two_pow_pos _)
      _ = 2 ^ p.family.width := by rw [← Nat.pow_add, Nat.add_sub_cancel' p.length_le]

/-- An address lies in a prefix when its leading bits are those of the prefix. -/
instance : Membership Address Prefix :=
  ⟨fun p a => a.family = p.family ∧ a.value / Nat.pow 2 (p.family.width - p.length) = p.bits⟩

theorem mem_def {a : Address} {p : Prefix} :
    a ∈ p ↔ a.family = p.family ∧ a.value / Nat.pow 2 (p.family.width - p.length) = p.bits :=
      Iff.rfl

instance (a : Address) (p : Prefix) : Decidable (a ∈ p) := decidable_of_iff _ mem_def.symm

/-- Whether every address of the second prefix lies in the first. -/
def covers (p q : Prefix) : Bool :=
  p.family == q.family && p.length ≤ q.length && q.bits / Nat.pow 2 (q.length - p.length) == p.bits

/-- Prefixes are ordered by family, then first address, then length. -/
instance : Ord Prefix :=
  ⟨compareLex (compareOn family) (compareLex (compareOn fun p => p.base.value) (compareOn length))⟩

instance : Std.TransOrd Prefix :=
  inferInstanceAs (Std.TransCmp
    (compareLex (compareOn family)
      (compareLex (compareOn fun p => p.base.value) (compareOn length))))

instance : Std.LawfulEqOrd Prefix where
  compare_self {p} := by
    show compareLex (compareOn family)
      (compareLex (compareOn fun p => p.base.value) (compareOn length)) p p = .eq
    exact Std.ReflCmp.compare_self
  eq_of_compare {p q} h := by
    obtain ⟨hf, h⟩ := compareLex_eq_eq.1 (show compareLex (compareOn family)
      (compareLex (compareOn fun p => p.base.value) (compareOn length)) p q = .eq from h)
    obtain ⟨hb, hl⟩ := compareLex_eq_eq.1 h
    have hf : p.family = q.family := Std.LawfulEqOrd.eq_of_compare hf
    have hl : p.length = q.length := Std.LawfulEqOrd.eq_of_compare hl
    have hb : p.bits * 2 ^ (p.family.width - p.length) = q.bits * 2 ^ (q.family.width - q.length) :=
      Std.LawfulEqOrd.eq_of_compare hb
    rw [hf, hl] at hb
    exact ext hf hl (Nat.eq_of_mul_eq_mul_right (Nat.two_pow_pos _) hb)

theorem mem_ofAddress (a : Address) (length : Nat) (h : length ≤ a.family.width) :
    a ∈ ofAddress a length h := ⟨rfl, rfl⟩

theorem base_mem (p : Prefix) : p.base ∈ p :=
  ⟨rfl, Nat.mul_div_cancel _ (Nat.two_pow_pos _)⟩

end Prefix

end Firewall
