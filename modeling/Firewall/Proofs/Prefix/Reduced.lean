/-
What a reduced trie is determined by.

A trie can be asked about the beginning of a string, and then says whether every string that begins
so is in it.  A trie that is not reduced may fail to know: two full halves side by side hold every
string, but no single leaf does.  In a reduced trie there are no such halves, so it answers for a
beginning exactly if it holds all the strings (`covers_iff_forall`), and two reduced tries with the
same strings are equal (`eq_of_covers`).  Both come down to the two tries without a choice: what
holds nothing is `none`, and what holds everything is `all`.

The leaves of a trie are prefixes.  No two of them share an address (`disjoint_prefixesBelow`), and
what the trie answers for lies in one of them (`exists_prefix_iff_covers`).
-/
import Firewall.Proofs.Prefix.Set

namespace Firewall

namespace Prefix

theorem bitPath_snoc (length bits : Nat) (b : Bool) :
    bitPath (length + 1) (2 * bits + b.toNat) = bitPath length bits ++ [b] := by
  have hupper : (2 * bits + b.toNat) / Nat.pow 2 1 = bits := by
    have hb : b.toNat < 2 := b.toNat_lt
    show (2 * bits + b.toNat) / 2 = bits
    omega
  have hlower : bitPath 1 (2 * bits + b.toNat) = [b] := by
    cases b <;> simp [bitPath, Nat.add_mod]
  rw [bitPath_add, hupper, hlower]

theorem exists_bitPath (s : List Bool) : ∃ v, v < Nat.pow 2 s.length ∧ bitPath s.length v = s := by
  induction s with
  | nil => exact ⟨0, Nat.zero_lt_one, rfl⟩
  | cons b s ih =>
    obtain ⟨v, hv, hpath⟩ := ih
    have hpow : Nat.pow 2 (s.length + 1) = Nat.pow 2 s.length * 2 := rfl
    have hpos : 0 < Nat.pow 2 s.length := Nat.two_pow_pos _
    refine ⟨b.toNat * Nat.pow 2 s.length + v, ?_, ?_⟩
    · rw [List.length_cons, hpow]
      cases b with
      | false => rw [Bool.toNat_false]; omega
      | true => rw [Bool.toNat_true]; omega
    · have hfirst : (b.toNat * Nat.pow 2 s.length + v) / Nat.pow 2 s.length = b.toNat := by
        rw [Nat.mul_comm, Nat.mul_add_div hpos, Nat.div_eq_of_lt hv, Nat.add_zero]
      have hrest : bitPath s.length (b.toNat * Nat.pow 2 s.length + v) = s := by
        rw [← hpath, length_bitPath, bitPath_eq_iff, Nat.mul_comm, Nat.mul_add_mod]
      rw [List.length_cons, bitPath, hfirst, hrest]
      cases b <;> rfl

/-- Every string of as many bits as a family has is that of an address. -/
theorem exists_address (family : Family) {s : List Bool} (h : s.length = family.width) :
    ∃ a : Address, a.family = family ∧ a.path = s := by
  obtain ⟨v, hv, hpath⟩ := exists_bitPath s
  rw [h] at hv hpath
  exact ⟨⟨family, v, hv⟩, rfl, hpath⟩

theorem length_path_le (p : Prefix) : p.path.length ≤ p.family.width := by
  rw [path, length_bitPath]
  exact p.length_le

/-- **A prefix covers another of its family exactly if its bits begin those of the other.** -/
theorem covers_iff {p q : Prefix} :
    p.covers q = true ↔ p.family = q.family ∧ p.path <+: q.path := by
  have hbits : p.length ≤ q.length →
      (q.bits / Nat.pow 2 (q.length - p.length) = p.bits ↔ p.path <+: q.path) := by
    intro hle
    have hq : q.bits < Nat.pow 2 (p.length + (q.length - p.length)) := by
      rw [Nat.add_sub_cancel' hle]
      exact q.bits_lt
    have hiff := (bitPath_prefix_iff p.bits_lt hq).symm
    rwa [Nat.add_sub_cancel' hle] at hiff
  unfold covers
  rw [Bool.and_eq_true, Bool.and_eq_true, beq_iff_eq, decide_eq_true_eq, beq_iff_eq, and_assoc]
  refine and_congr_right fun _ => ⟨fun ⟨hle, h⟩ => (hbits hle).1 h, fun h => ?_⟩
  have hle : p.length ≤ q.length := by
    simpa only [path, length_bitPath] using h.length_le
  exact ⟨hle, (hbits hle).2 h⟩

end Prefix

namespace Cover

variable {n : Nat} {c d : Cover n}

/-! ### What a reduced trie holds -/

theorem eq_none_of_forall (hc : c.Reduced)
    (h : ∀ s : List Bool, s.length = n → c.covers s = false) : c = none := by
  induction c with
  | none => rfl
  | @all n =>
    have hall := h (List.replicate n false) List.length_replicate
    exact absurd hall (by simp [covers])
  | split low high ihl ihh =>
    have hlow := ihl hc.1 fun s hs => h (false :: s) (congrArg Nat.succ hs)
    have hhigh := ihh hc.2.1 fun s hs => h (true :: s) (congrArg Nat.succ hs)
    exact absurd ⟨hlow, hhigh⟩ hc.2.2.1

theorem eq_all_of_forall (hc : c.Reduced) (h : ∀ s : List Bool, s.length = n → c.covers s = true) :
    c = all := by
  induction c with
  | @none n =>
    have hnone := h (List.replicate n false) List.length_replicate
    exact absurd hnone (by simp [covers])
  | all => rfl
  | split low high ihl ihh =>
    have hlow := ihl hc.1 fun s hs => h (false :: s) (congrArg Nat.succ hs)
    have hhigh := ihh hc.2.1 fun s hs => h (true :: s) (congrArg Nat.succ hs)
    exact absurd ⟨hlow, hhigh⟩ hc.2.2.2

/-- **A reduced trie is the only one for the strings it holds.** -/
theorem eq_of_covers (hc : c.Reduced) (hd : d.Reduced)
    (h : ∀ s : List Bool, s.length = n → c.covers s = d.covers s) : c = d := by
  induction c with
  | none => exact (eq_none_of_forall hd fun s hs => (h s hs).symm).symm
  | all => exact (eq_all_of_forall hd fun s hs => (h s hs).symm).symm
  | split low high ihl ihh =>
    cases d with
    | none => exact eq_none_of_forall hc h
    | all => exact eq_all_of_forall hc h
    | split low' high' =>
      have hlow := ihl hc.1 hd.1 fun s hs => h (false :: s) (congrArg Nat.succ hs)
      have hhigh := ihh hc.2.1 hd.2.1 fun s hs => h (true :: s) (congrArg Nat.succ hs)
      rw [hlow, hhigh]

/-- **A reduced trie answers for a beginning exactly if it holds every string that begins so.** -/
theorem covers_iff_forall (hc : c.Reduced) {path : List Bool} (hpath : path.length ≤ n) :
    c.covers path = true ↔ ∀ rest, (path ++ rest).length = n → c.covers (path ++ rest) = true := by
  refine ⟨fun h rest _ => covers_append h rest, fun h => ?_⟩
  induction c generalizing path with
  | @none n =>
    have hlength : (path ++ List.replicate (n - path.length) false).length = n := by
      rw [List.length_append, List.length_replicate]
      omega
    exact absurd (h _ hlength) (by simp [covers])
  | all => rfl
  | @split n low high ihl ihh =>
    cases path with
    | nil => exact absurd (eq_all_of_forall hc h) (by simp)
    | cons b path =>
      have hshorter : path.length ≤ n := Nat.le_of_succ_le_succ hpath
      have hrest : ∀ rest, (path ++ rest).length = n →
          (split low high).covers (b :: (path ++ rest)) = true :=
        fun rest hlength => h rest (congrArg Nat.succ hlength)
      cases b with
      | false => exact ihl hc.1 hshorter hrest
      | true => exact ihh hc.2.1 hshorter hrest

/-! ### The leaves of a trie -/

section Leaves

variable {family : Family} {length bits : Nat} {h : length + n = family.width}
  {hb : bits < Nat.pow 2 length}

theorem bitPath_prefix_of_mem {p : Prefix} (hp : p ∈ c.prefixesBelow family length bits h hb) :
    Prefix.bitPath length bits <+: p.path := by
  induction c generalizing length bits with
  | none => exact absurd hp List.not_mem_nil
  | all =>
    rw [prefixesBelow, List.mem_singleton] at hp
    rw [hp]
    exact List.prefix_rfl
  | split low high ihl ihh =>
    have hstep : ∀ b : Bool,
        Prefix.bitPath length bits <+: Prefix.bitPath (length + 1) (2 * bits + b.toNat) :=
      fun b => ⟨[b], (Prefix.bitPath_snoc length bits b).symm⟩
    rcases List.mem_append.1 hp with hp | hp
    · exact (hstep false).trans (ihl hp)
    · exact (hstep true).trans (ihh hp)

/-- **What a trie answers for lies in one of its prefixes.** -/
theorem exists_prefix_iff_covers (c : Cover n) {h : length + n = family.width} {path : List Bool} :
    (∃ p ∈ c.prefixesBelow family length bits h hb, p.path <+: Prefix.bitPath length bits ++ path) ↔
      c.covers path = true := by
  induction c generalizing length bits path with
  | none => simp [prefixesBelow, covers]
  | all => simp [prefixesBelow, covers, Prefix.path]
  | @split n low high ihl ihh =>
    cases path with
    | nil =>
      refine iff_of_false ?_ (by simp [covers])
      rintro ⟨p, hp, hprefix⟩
      -- a prefix of either half has one bit more
      have hlong : length + 1 ≤ p.path.length := by
        rcases List.mem_append.1 hp with hp | hp
        · simpa only [Prefix.length_bitPath] using (bitPath_prefix_of_mem hp).length_le
        · simpa only [Prefix.length_bitPath] using (bitPath_prefix_of_mem hp).length_le
      have hshort := hprefix.length_le
      rw [List.append_nil, Prefix.length_bitPath] at hshort
      omega
    | cons b path =>
      have hbit : Prefix.bitPath length bits ++ b :: path
          = Prefix.bitPath (length + 1) (2 * bits + b.toNat) ++ path := by
        rw [Prefix.bitPath_snoc, List.append_assoc, List.singleton_append]
      -- the prefixes of the other half differ in the first bit of the rest
      have hother : ∀ (e : Cover n) (b' : Bool) (h : length + 1 + n = family.width)
          (hb : 2 * bits + b'.toNat < Nat.pow 2 (length + 1)), b' ≠ b →
          ¬ ∃ p ∈ e.prefixesBelow family (length + 1) (2 * bits + b'.toNat) h hb,
            p.path <+: Prefix.bitPath length bits ++ b :: path := by
        rintro e b' h hb hne ⟨p, hp, hprefix⟩
        have hbegin := (bitPath_prefix_of_mem hp).trans hprefix
        rw [Prefix.bitPath_snoc, List.prefix_append_right_inj, List.cons_prefix_cons] at hbegin
        exact hne hbegin.1
      simp only [prefixesBelow, List.mem_append, or_and_right, exists_or]
      cases b with
      | false =>
        refine (or_iff_left (hother high true (by omega) (two_mul_add_one_lt hb) (by decide))).trans
          ?_
        rw [hbit]
        exact ihl
      | true =>
        refine (or_iff_right (hother low false (by omega) (two_mul_lt hb) (by decide))).trans ?_
        rw [hbit]
        exact ihh

theorem disjoint_prefixesBelow (c : Cover n) (h : length + n = family.width)
    (hb : bits < Nat.pow 2 length) :
    (c.prefixesBelow family length bits h hb).Pairwise fun p q => ∀ a : Address, a ∈ p → a ∉ q := by
  induction c generalizing length bits with
  | none => exact .nil
  | all => exact List.pairwise_singleton _ _
  | @split n low high ihl ihh =>
    refine List.pairwise_append.2 ⟨ihl _ _, ihh _ _, fun p hp q hq a hap haq => ?_⟩
    obtain ⟨-, hlow, -⟩ := (exists_mem_prefixesBelow low _ _ a).1 ⟨p, hp, hap⟩
    obtain ⟨-, hhigh, -⟩ := (exists_mem_prefixesBelow high _ _ a).1 ⟨q, hq, haq⟩
    omega

end Leaves

end Cover

end Firewall
