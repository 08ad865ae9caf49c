/-
What is in a set of addresses.

A set is asked about a whole prefix by one walk down a trie, and it is read as the list of the
prefixes that make it up.  The two meet in the single addresses.  An address is the string of all
its bits, which the bits of a prefix begin (`Prefix.mem_iff`), and a trie that holds the beginning
of a string holds the string (`Cover.covers_append`).  So a set that answers for a prefix has every
address of it among its own prefixes (`PrefixSet.mem_of_contains`).

What was put into a set is in it and nothing else is, however prefixes were merged on the way
(`PrefixSet.mem_ofList`).
-/
import Firewall.Prefix.Set
import Firewall.Proofs.Rule.Packet

namespace Firewall

/-! ### Addresses as strings of bits -/

/-- All bits of an address, the most significant first. -/
def Address.path (a : Address) : List Bool := Prefix.bitPath a.family.width a.value

namespace Prefix

theorem length_bitPath (n v : Nat) : (bitPath n v).length = n := by
  induction n with
  | zero => rfl
  | succ n ih => rw [bitPath, List.length_cons, ih]

/-- The bits of a number are those of its upper part and then those of its lower part. -/
theorem bitPath_add (m n v : Nat) :
    bitPath (m + n) v = bitPath m (v / Nat.pow 2 n) ++ bitPath n v := by
  induction m with
  | zero => rw [Nat.zero_add, bitPath, List.nil_append]
  | succ m ih =>
    have hdiv : v / Nat.pow 2 n / Nat.pow 2 m = v / Nat.pow 2 (m + n) := by
      rw [Nat.div_div_eq_div_mul, Nat.add_comm m n]
      exact congrArg (v / ·) (Nat.pow_add 2 n m).symm
    rw [Nat.succ_add, bitPath, bitPath, ih, hdiv, List.cons_append]

/-- Two numbers with the same lowest bits are the same as far as these go. -/
theorem bitPath_eq_iff {n v w : Nat} :
    bitPath n v = bitPath n w ↔ v % Nat.pow 2 n = w % Nat.pow 2 n := by
  induction n with
  | zero =>
    have hone : ∀ x, x % Nat.pow 2 0 = 0 := Nat.mod_one
    exact iff_of_true rfl ((hone v).trans (hone w).symm)
  | succ n ih =>
    have hpos : 0 < Nat.pow 2 n := Nat.two_pow_pos n
    have hsplit : ∀ x,
        x % Nat.pow 2 (n + 1) = x % Nat.pow 2 n + Nat.pow 2 n * (x / Nat.pow 2 n % 2) :=
      fun x => Nat.mod_mul
    have hlow : ∀ x, x % Nat.pow 2 (n + 1) % Nat.pow 2 n = x % Nat.pow 2 n := by
      intro x
      rw [hsplit, Nat.add_mul_mod_self_left, Nat.mod_mod]
    have hhigh : ∀ x, x % Nat.pow 2 (n + 1) / Nat.pow 2 n = x / Nat.pow 2 n % 2 := by
      intro x
      rw [hsplit, Nat.add_mul_div_left _ _ hpos, Nat.div_eq_of_lt (Nat.mod_lt x hpos), Nat.zero_add]
    have hbit : ∀ x y : Nat, (x % 2 == 1) = (y % 2 == 1) ↔ x % 2 = y % 2 := by
      intro x y
      rcases Nat.mod_two_eq_zero_or_one x with hx | hx
      all_goals
        rcases Nat.mod_two_eq_zero_or_one y with hy | hy
        all_goals simp [hx, hy]
    rw [bitPath, bitPath, List.cons.injEq, ih, hbit]
    constructor
    · rintro ⟨hb, hl⟩
      rw [hsplit, hsplit, hb, hl]
    · intro h
      rw [← hhigh v, ← hhigh w, ← hlow v, ← hlow w, h]
      exact ⟨rfl, rfl⟩

/-- The bits of a number begin with those of its upper part, and with those of no other number. -/
theorem bitPath_prefix_iff {m n v w : Nat} (hv : v < Nat.pow 2 m) (hw : w < Nat.pow 2 (m + n)) :
    bitPath m v <+: bitPath (m + n) w ↔ w / Nat.pow 2 n = v := by
  have hupper : w / Nat.pow 2 n < Nat.pow 2 m :=
    (Nat.div_lt_iff_lt_mul (Nat.two_pow_pos _)).2 (Nat.lt_of_lt_of_eq hw (Nat.pow_add 2 m n))
  rw [bitPath_add]
  constructor
  · intro h
    have hlength : (bitPath m v).length = (bitPath m (w / Nat.pow 2 n)).length := by
      rw [length_bitPath, length_bitPath]
    have heq := (List.prefix_of_prefix_length_le h (List.prefix_append _ _)
      (Nat.le_of_eq hlength)).eq_of_length hlength
    rw [bitPath_eq_iff, Nat.mod_eq_of_lt hv, Nat.mod_eq_of_lt hupper] at heq
    exact heq.symm
  · rintro rfl
    exact List.prefix_append _ _

/-- **An address lies in a prefix of its family exactly if its bits
begin with those of the prefix.** -/
theorem mem_iff {p : Prefix} {a : Address} : a ∈ p ↔ a.family = p.family ∧ p.path <+: a.path := by
  rw [mem_def]
  refine and_congr_right fun hfamily => ?_
  have hwidth : a.family.width = p.length + (p.family.width - p.length) := by
    rw [hfamily, Nat.add_sub_cancel' p.length_le]
  have hvalue : a.value < Nat.pow 2 a.family.width := a.value_lt
  unfold Address.path path
  rw [hwidth] at hvalue ⊢
  exact (bitPath_prefix_iff p.bits_lt hvalue).symm

end Prefix

/-! ### Tries -/

namespace Cover

variable {n : Nat}

theorem covers_append {c : Cover n} {path : List Bool} (h : c.covers path = true)
    (rest : List Bool) :
    c.covers (path ++ rest) = true := by
  induction c generalizing path with
  | none => exact absurd h (by simp [covers])
  | all => rfl
  | split low high ihl ihh =>
    cases path with
    | nil => exact absurd h (by simp [covers])
    | cons b path =>
      rw [covers] at h
      rw [List.cons_append, covers]
      cases b with
      | false => exact ihl h
      | true => exact ihh h

theorem covers_node (low high : Cover n) (b : Bool) (path : List Bool) :
    (node low high).covers (b :: path) = if b then high.covers path else low.covers path := by
  unfold node
  split
  · simp [covers]
  · simp [covers]
  · rfl

theorem covers_union {c d : Cover n} {s : List Bool} (h : s.length = n) :
    (c.union d).covers s = (c.covers s || d.covers s) := by
  induction c generalizing s with
  | none => simp [union, covers]
  | all => simp [union, covers]
  | split low high ihl ihh =>
    cases d with
    | none => simp [union, covers]
    | all => simp [union, covers]
    | split low' high' =>
      cases s with
      | nil => exact absurd h (by simp)
      | cons b s =>
        have hs : s.length = _ := Nat.succ.inj h
        rw [union, covers_node, covers, covers, ihl hs, ihh hs]
        cases b <;> rfl

theorem covers_ofPath {path s : List Bool} (hpath : path.length ≤ n) (h : s.length = n) :
    (ofPath path : Cover n).covers s = true ↔ path <+: s := by
  induction path generalizing n s with
  | nil => cases n <;> simp [ofPath, covers]
  | cons b path ih =>
    cases n with
    | zero => exact absurd hpath (by simp)
    | succ n =>
      cases s with
      | nil => exact absurd h (by simp)
      | cons x s =>
        have hrest := ih (Nat.le_of_succ_le_succ hpath) (Nat.succ.inj h)
        rw [ofPath, List.cons_prefix_cons]
        cases b <;> cases x <;> simp [covers_node, covers, hrest]

/-- The prefixes below some bits hold the addresses that begin with
these bits and go on in the trie. -/
theorem exists_mem_prefixesBelow {family : Family} (c : Cover n) {length bits : Nat}
    (h : length + n = family.width) (hb : bits < Nat.pow 2 length) (a : Address) :
    (∃ p ∈ c.prefixesBelow family length bits h hb, a ∈ p) ↔
      a.family = family ∧ a.value / Nat.pow 2 n = bits ∧
      c.covers (Prefix.bitPath n a.value) = true := by
  induction c generalizing length bits with
  | none => simp [prefixesBelow, covers]
  | @all n =>
    have hwidth : family.width - length = n := by omega
    simp [prefixesBelow, covers, Prefix.mem_def, hwidth]
  | @split n low high ihl ihh =>
    have hdiv : a.value / Nat.pow 2 (n + 1) = a.value / Nat.pow 2 n / 2 :=
      (Nat.div_div_eq_div_mul _ _ _).symm
    simp only [prefixesBelow, List.mem_append, or_and_right, exists_or, ihl, ihh,
      Prefix.bitPath, covers, hdiv]
    rw [← and_or_left]
    refine and_congr_right fun _ => ?_
    generalize a.value / Nat.pow 2 n = w
    by_cases hw : w % 2 = 1
    · have hlow : w ≠ 2 * bits := by omega
      have hhigh : w = 2 * bits + 1 ↔ w / 2 = bits := by omega
      simp [hw, hlow, hhigh]
    · have hlow : w = 2 * bits ↔ w / 2 = bits := by omega
      have hhigh : w ≠ 2 * bits + 1 := by omega
      simp [hw, hlow, hhigh]

theorem base_of_mem_prefixesBelow {family : Family} {c : Cover n} {length bits : Nat}
    {h : length + n = family.width} {hb : bits < Nat.pow 2 length} {p : Prefix}
    (hp : p ∈ c.prefixesBelow family length bits h hb) :
    p.family = family ∧ p.base.value / Nat.pow 2 n = bits := by
  obtain ⟨hfamily, hbits, -⟩ := (exists_mem_prefixesBelow c h hb p.base).1 ⟨p, hp, p.base_mem⟩
  exact ⟨hfamily, hbits⟩

/-- **The prefixes of a trie come in the order of their first addresses.** -/
theorem pairwise_prefixesBelow {family : Family} (c : Cover n) {length bits : Nat}
    (h : length + n = family.width) (hb : bits < Nat.pow 2 length) :
    (c.prefixesBelow family length bits h hb).Pairwise fun p q => p.base.value < q.base.value := by
  induction c generalizing length bits with
  | none => exact .nil
  | all => exact List.pairwise_singleton _ _
  | @split n low high ihl ihh =>
    refine List.pairwise_append.2 ⟨ihl _ _, ihh _ _, fun p hp q hq => ?_⟩
    obtain ⟨-, hlow⟩ := base_of_mem_prefixesBelow hp
    obtain ⟨-, hhigh⟩ := base_of_mem_prefixesBelow hq
    refine Nat.lt_of_not_le fun hle => ?_
    have hdiv := Nat.div_le_div_right (c := Nat.pow 2 n) hle
    omega

end Cover

/-! ### Sets -/

namespace PrefixSet

/-- **An address is in a set exactly if the trie of its family holds its bits.** -/
theorem mem_iff {s : PrefixSet} {a : Address} :
    a ∈ s ↔ (s.cover a.family).covers a.path = true := by
  have hfamily : ∀ family, (∃ p ∈ s.ofFamily family, a ∈ p) ↔
      a.family = family ∧ (s.cover family).covers (Prefix.bitPath family.width a.value) = true := by
    intro family
    refine (Cover.exists_mem_prefixesBelow _ _ _ a).trans (and_congr_right fun heq => ?_)
    have hzero : a.value / Nat.pow 2 family.width = 0 := Nat.div_eq_of_lt (heq ▸ a.value_lt)
    exact and_iff_right hzero
  have hlist : a ∈ s ↔ ∃ p ∈ s.prefixes, a ∈ p := Iff.rfl
  simp only [hlist, prefixes, List.mem_append, or_and_right, exists_or, hfamily]
  unfold Address.path
  obtain ⟨family, value, hvalue⟩ := a
  cases family <;> simp

/-- **Every address of a prefix that a set contains is in the set.** -/
theorem mem_of_contains {s : PrefixSet} {p : Prefix} {a : Address} (h : s.contains p = true)
    (ha : a ∈ p) : a ∈ s := by
  obtain ⟨hfamily, rest, hrest⟩ := Prefix.mem_iff.1 ha
  rw [mem_iff, ← hrest, hfamily]
  exact Cover.covers_append h rest

theorem mem_ofFamily {s : PrefixSet} {family : Family} {p : Prefix} :
    p ∈ s.ofFamily family ↔ p ∈ s.prefixes ∧ p.family = family := by
  have hfamily : ∀ f, p ∈ s.ofFamily f → p.family = f :=
    fun f hp => (Cover.base_of_mem_prefixesBelow hp).1
  unfold prefixes
  rw [List.mem_append]
  constructor
  · intro hp
    refine ⟨?_, hfamily family hp⟩
    cases family with
    | v4 => exact .inl hp
    | v6 => exact .inr hp
  · rintro ⟨hp | hp, rfl⟩
    · rw [hfamily .v4 hp]
      exact hp
    · rw [hfamily .v6 hp]
      exact hp

/-- An address is in one of the prefixes of its family or not in the set at all. -/
theorem exists_mem_ofFamily_iff {s : PrefixSet} {a : Address} :
    (∃ p ∈ s.ofFamily a.family, a ∈ p) ↔ a ∈ s := by
  constructor
  · rintro ⟨p, hp, ha⟩
    exact ⟨p, (mem_ofFamily.1 hp).1, ha⟩
  · rintro ⟨p, hp, ha⟩
    exact ⟨p, mem_ofFamily.2 ⟨hp, ha.1.symm⟩, ha⟩

/-- **Sets with the same prefixes list them the same way.** -/
theorem ofFamily_congr {s t : PrefixSet} (h : ∀ p, p ∈ s.prefixes ↔ p ∈ t.prefixes)
    (family : Family) :
    s.ofFamily family = t.ofFamily family := by
  refine eq_of_mem_iff_of_pairwise (R := fun p q : Prefix => p.base.value < q.base.value)
    (fun p => Nat.lt_irrefl _)
    Nat.lt_trans (Cover.pairwise_prefixesBelow _ _ _)
      (Cover.pairwise_prefixesBelow _ _ _) fun p => ?_
  rw [mem_ofFamily, mem_ofFamily, h]

theorem mem_union {s t : PrefixSet} {a : Address} : a ∈ s.union t ↔ a ∈ s ∨ a ∈ t := by
  have hcover : (s.union t).cover a.family = (s.cover a.family).union (t.cover a.family) := by
    cases a.family <;> rfl
  have hlength : a.path.length = a.family.width := Prefix.length_bitPath _ _
  rw [mem_iff, mem_iff, mem_iff, hcover, Cover.covers_union hlength, Bool.or_eq_true]

theorem not_mem_empty (a : Address) : a ∉ empty := by
  rw [mem_iff]
  cases a.family <;> simp [cover, empty, Cover.covers]

theorem mem_single {p : Prefix} {a : Address} : a ∈ single p ↔ a ∈ p := by
  have hown : (single p).cover p.family = .ofPath p.path := by
    obtain ⟨family, length, bits, hl, hb⟩ := p
    cases family <;> rfl
  have hother : ∀ {family}, family ≠ p.family → (single p).cover family = .none := by
    obtain ⟨family, length, bits, hl, hb⟩ := p
    intro family' hne
    cases family with
    | v4 =>
      cases family' with
      | v4 => exact absurd rfl hne
      | v6 => rfl
    | v6 =>
      cases family' with
      | v4 => rfl
      | v6 => exact absurd rfl hne
  have hpath : p.path.length ≤ p.family.width := by
    rw [Prefix.path, Prefix.length_bitPath]
    exact p.length_le
  rw [mem_iff, Prefix.mem_iff]
  by_cases hfamily : a.family = p.family
  · have hlength : a.path.length = p.family.width := hfamily ▸ Prefix.length_bitPath _ _
    rw [hfamily, hown, Cover.covers_ofPath hpath hlength]
    exact (and_iff_right rfl).symm
  · rw [hother hfamily]
    simp [hfamily, Cover.covers]

/-- **A set has the addresses of the prefixes that it was made from.** -/
theorem mem_ofList {ps : List Prefix} {a : Address} : a ∈ ofList ps ↔ ∃ p ∈ ps, a ∈ p := by
  have hfold : ∀ s : PrefixSet, a ∈ ps.foldl (fun s p => s.union (single p)) s ↔
      a ∈ s ∨ ∃ p ∈ ps, a ∈ p := by
    induction ps with
    | nil => simp
    | cons p rest ih =>
      intro s
      rw [List.foldl_cons, ih, mem_union, mem_single, or_assoc]
      simp
  rw [ofList, hfold]
  simp [not_mem_empty]

end PrefixSet

end Firewall
