/-
Sets of addresses have one form.

A set is read from entries and merged with others, and on the way prefixes are put together.
How it was made leaves no trace: the tries of a set are reduced, so the addresses in a set
determine it (`eq_iff`), and everything else follows.  Sets merge like the lists of entries that
they were read from, in any order and any number of times (`parse_append`).  A prefix is
contained in a set exactly if each of its addresses is (`contains_iff`), whether they come from
one entry or from several side by side.

The list of prefixes says the same.  Whatever a set contains lies in one prefix of the list
(`contains_iff_exists`), and the prefixes have no address in common, so there are no two of them
that could be written as one (`not_halves`).
-/
import Firewall.Proofs.Policy.Peers
import Firewall.Proofs.Prefix.Reduced
import Mathlib.Data.List.Pairwise

namespace Firewall

namespace Prefix

variable {p q r : Prefix} {a : Address}

theorem mem_of_covers (h : p.covers q = true) (ha : a ∈ q) : a ∈ p := by
  obtain ⟨hfamily, hprefix⟩ := covers_iff.1 h
  obtain ⟨haddress, hpath⟩ := mem_iff.1 ha
  exact mem_iff.2 ⟨haddress.trans hfamily.symm, hprefix.trans hpath⟩

/-- Two prefixes are the halves of a third: they go on from its bits with one
bit more, in which they differ. -/
structure Halves (r p q : Prefix) : Prop where
  family : p.family = r.family ∧ q.family = r.family
  low : p.path = r.path ++ [false]
  high : q.path = r.path ++ [true]

theorem Halves.covers_low (h : r.Halves p q) : r.covers p = true :=
  covers_iff.2 ⟨h.family.1.symm, [false], h.low.symm⟩

theorem Halves.mem_or_mem (h : r.Halves p q) (ha : a ∈ r) : a ∈ p ∨ a ∈ q := by
  obtain ⟨hfamily, rest, hrest⟩ := mem_iff.1 ha
  cases rest with
  | nil =>
    -- an address is longer than `r`, whose halves have a bit more
    have hlength : a.path.length = a.family.width := length_bitPath _ _
    have hlong := p.length_path_le
    rw [List.append_nil] at hrest
    rw [h.low, h.family.1, ← hfamily, List.length_append, hrest, hlength] at hlong
    exact absurd hlong (Nat.not_succ_le_self _)
  | cons b rest =>
    have hbit : r.path ++ [b] <+: a.path :=
      ⟨rest, by rw [List.append_assoc, List.singleton_append, hrest]⟩
    cases b with
    | false => exact .inl (mem_iff.2 ⟨hfamily.trans h.family.1.symm, h.low ▸ hbit⟩)
    | true => exact .inr (mem_iff.2 ⟨hfamily.trans h.family.2.symm, h.high ▸ hbit⟩)

end Prefix

namespace PrefixSet

variable {s t : PrefixSet} {entries : List String} {p q : Prefix} {a : Address}

/-! ### What is in a set determines it -/

theorem reduced_cover (s : PrefixSet) (family : Family) : (s.cover family).Reduced := by
  cases family with
  | v4 => exact s.v4_reduced
  | v6 => exact s.v6_reduced

/-- **A set contains a prefix exactly if it has every address of the prefix.** -/
theorem contains_iff : s.contains p = true ↔ ∀ a ∈ p, a ∈ s := by
  refine ⟨fun h a ha => mem_of_contains h ha, fun h => ?_⟩
  refine (Cover.covers_iff_forall (s.reduced_cover p.family) p.length_path_le).2
    fun rest hlength => ?_
  obtain ⟨a, hfamily, hpath⟩ := Prefix.exists_address p.family hlength
  have ha : a ∈ p := Prefix.mem_iff.2 ⟨hfamily, rest, hpath.symm⟩
  have hmem := mem_iff.1 (h a ha)
  rwa [hfamily, hpath] at hmem

/-- **Sets with the same addresses are equal.** -/
theorem eq_iff : s = t ↔ ∀ a, a ∈ s ↔ a ∈ t := by
  constructor
  · rintro rfl a
    rfl
  · intro h
    have hcover : ∀ family, s.cover family = t.cover family := by
      intro family
      refine Cover.eq_of_covers (s.reduced_cover family) (t.reduced_cover family)
        fun path hlength => ?_
      obtain ⟨a, hfamily, hpath⟩ := Prefix.exists_address family hlength
      have ha := h a
      rw [mem_iff, mem_iff, hfamily, hpath] at ha
      exact Bool.eq_iff_iff.2 ha
    exact ext (hcover .v4) (hcover .v6)

/-! ### Sets that are read and merged -/

theorem parse_eq_ok :
    parse entries = .ok s ↔ ∃ ps, Prefix.parseAll entries = .ok ps ∧ ofList ps = s := by
  unfold parse
  cases Prefix.parseAll entries with
  | error e => exact iff_of_false (fun h => nomatch h) fun ⟨_, h, _⟩ => nomatch h
  | ok ps =>
    exact ⟨fun h => ⟨ps, rfl, Except.ok.inj h⟩,
      fun ⟨qs, hqs, hs⟩ => by cases hqs; exact congrArg Except.ok hs⟩

/-- **A set that is read has the addresses of its entries.** -/
theorem mem_of_parse (h : parse entries = .ok s) :
    a ∈ s ↔ ∃ entry ∈ entries, Prefix.InEntry entry a := by
  obtain ⟨ps, hps, rfl⟩ := parse_eq_ok.1 h
  rw [mem_ofList]
  exact Attempt.exists_mem_iff_of_mapM_eq_ok hps (a ∈ ·)

/-- A set is built from entries by reading lists of them and merging what was read. -/
inductive BuiltFrom : List String → PrefixSet → Prop
  | parse {entries : List String} {s : PrefixSet} (h : parse entries = .ok s) : BuiltFrom entries s
  | merge {xs ys : List String} {s t : PrefixSet} (hs : BuiltFrom xs s) (ht : BuiltFrom ys t) :
    BuiltFrom (xs ++ ys) (s.union t)

theorem BuiltFrom.mem_iff (h : BuiltFrom entries s) :
    a ∈ s ↔ ∃ entry ∈ entries, Prefix.InEntry entry a := by
  induction h with
  | parse h => exact mem_of_parse h
  | merge _ _ hs ht =>
    rw [mem_union, hs, ht]
    simp only [List.mem_append, or_and_right, exists_or]

/-- Lists of entries that are read one after the other give the merged set. -/
theorem parse_append {xs ys : List String} (hs : parse xs = .ok s) (ht : parse ys = .ok t) :
    parse (xs ++ ys) = .ok (s.union t) := by
  obtain ⟨ps, hps, -⟩ := parse_eq_ok.1 hs
  obtain ⟨qs, hqs, -⟩ := parse_eq_ok.1 ht
  have happend : Prefix.parseAll (xs ++ ys) = .ok (ps ++ qs) := by
    unfold Prefix.parseAll at hps hqs ⊢
    rw [List.mapM_append, hps, hqs]
    rfl
  have hall := parse_eq_ok.2 ⟨_, happend, rfl⟩
  rw [hall]
  refine congrArg Except.ok (eq_iff.2 fun a => ?_)
  rw [mem_of_parse hall, (BuiltFrom.merge (.parse hs) (.parse ht)).mem_iff]

/-! ### The list of prefixes -/

/-- **What a set contains lies in one of its prefixes.** -/
theorem contains_iff_exists : s.contains p = true ↔ ∃ q ∈ s.prefixes, q.covers p = true := by
  have htrie : s.contains p = true ↔ ∃ q ∈ s.ofFamily p.family, q.path <+: p.path :=
    (Cover.exists_prefix_iff_covers (s.cover p.family)).symm
  rw [htrie]
  refine exists_congr fun q => ?_
  rw [mem_ofFamily, Prefix.covers_iff, and_assoc]

theorem disjoint_prefixes (s : PrefixSet) :
    s.prefixes.Pairwise fun p q => ∀ a : Address, a ∈ p → a ∉ q := by
  refine List.pairwise_append.2
    ⟨Cover.disjoint_prefixesBelow _ _ _, Cover.disjoint_prefixesBelow _ _ _, ?_⟩
  intro p hp q hq a hap haq
  have hv4 : p.family = .v4 := (mem_ofFamily.1 hp).2
  have hv6 : q.family = .v6 := (mem_ofFamily.1 hq).2
  rw [← hap.1, haq.1, hv6] at hv4
  exact nomatch hv4

theorem eq_of_mem_of_mem (hp : p ∈ s.prefixes) (hq : q ∈ s.prefixes) (hap : a ∈ p) (haq : a ∈ q) :
    p = q := by
  have _ : Std.Symm fun p q : Prefix => ∀ a : Address, a ∈ p → a ∉ q :=
    ⟨fun _ _ h a hq hp => h a hp hq⟩
  exact Decidable.byContradiction fun hne => s.disjoint_prefixes.forall hp hq hne a hap haq

theorem ofFamily_eq_filter (s : PrefixSet) (family : Family) :
    s.ofFamily family = s.prefixes.filter (·.family = family) := by
  have hfilter : ∀ f, (s.ofFamily f).filter (·.family = family) = if f = family then s.ofFamily f
      else [] := by
    intro f
    have hf : ∀ p ∈ s.ofFamily f, p.family = f := fun p hp => (mem_ofFamily.1 hp).2
    split
    · rename_i heq
      exact List.filter_eq_self.2 fun p hp => by simp [hf p hp, heq]
    · rename_i hne
      exact List.filter_eq_nil_iff.2 fun p hp => by simp [hf p hp, hne]
  rw [prefixes, List.filter_append, hfilter, hfilter]
  cases family <;> simp

/-- The prefixes of a set are listed with those of IPv4 first, and those of a
family by their first addresses. -/
theorem ascending_prefixes (s : PrefixSet) : s.prefixes.Pairwise fun p q =>
    p.family = .v4 ∧ q.family = .v6 ∨ p.family = q.family ∧ p.base.value < q.base.value := by
  have hpart : ∀ family, (s.ofFamily family).Pairwise fun p q =>
      p.family = .v4 ∧ q.family = .v6 ∨ p.family = q.family ∧ p.base.value < q.base.value := by
    intro family
    refine (Cover.pairwise_prefixesBelow (s.cover family) _ _).imp_of_mem fun hp hq hlt =>
      .inr ⟨?_, hlt⟩
    exact (mem_ofFamily.1 hp).2.trans (mem_ofFamily.1 hq).2.symm
  refine List.pairwise_append.2 ⟨hpart .v4, hpart .v6, fun p hp q hq => .inl ?_⟩
  exact ⟨(mem_ofFamily.1 hp).2, (mem_ofFamily.1 hq).2⟩

/-- **No two prefixes of a set are the halves of a larger one.**  The set would contain the larger
one, and a prefix of the list that covers it would share addresses with its halves. -/
theorem not_halves (hp : p ∈ s.prefixes) (hq : q ∈ s.prefixes) {r : Prefix} : ¬ r.Halves p q := by
  intro h
  have hcontains : s.contains r = true := contains_iff.2 fun a ha => by
    rcases h.mem_or_mem ha with ha | ha
    · exact ⟨p, hp, ha⟩
    · exact ⟨q, hq, ha⟩
  obtain ⟨whole, hwhole, hcovers⟩ := contains_iff_exists.1 hcontains
  have hbase : p.base ∈ whole :=
    Prefix.mem_of_covers hcovers (Prefix.mem_of_covers h.covers_low p.base_mem)
  obtain ⟨-, hprefix⟩ := Prefix.covers_iff.1 hcovers
  rw [eq_of_mem_of_mem hwhole hp hbase p.base_mem, h.low] at hprefix
  have hlength := hprefix.length_le
  rw [List.length_append, List.length_singleton] at hlength
  omega

theorem prefixes_inj : s.prefixes = t.prefixes ↔ s = t := by
  refine ⟨fun h => eq_iff.2 fun a => ?_, congrArg prefixes⟩
  show (∃ p ∈ s.prefixes, a ∈ p) ↔ ∃ p ∈ t.prefixes, a ∈ p
  rw [h]

/-! ### Merging -/

theorem ofList_prefixes_append (s t : PrefixSet) :
    ofList (s.prefixes ++ t.prefixes) = s.union t := by
  refine eq_iff.2 fun a => ?_
  rw [mem_ofList, mem_union]
  simp only [List.mem_append, or_and_right, exists_or]
  rfl

theorem union_comm (s t : PrefixSet) : s.union t = t.union s := by
  refine eq_iff.2 fun a => ?_
  rw [mem_union, mem_union, or_comm]

theorem union_assoc (s t u : PrefixSet) : (s.union t).union u = s.union (t.union u) := by
  refine eq_iff.2 fun a => ?_
  rw [mem_union, mem_union, mem_union, mem_union, or_assoc]

theorem union_self (s : PrefixSet) : s.union s = s := by
  refine eq_iff.2 fun a => ?_
  rw [mem_union, or_self]

/-! ### What reading and merging come to -/

/--
**A set contains a prefix exactly if it has one prefix that covers it, and exactly if its
entries cover it.**  The entries may overlap, repeat one another and lie side by side, and may
have been merged in any order: each address of the prefix has to be in one of those of its
family, and they need not be the same for all.
-/
theorem contains_built_iff (h : BuiltFrom entries s) (p : Prefix) :
    (s.contains p = true ↔ ∃ q ∈ s.prefixes, q.covers p = true) ∧
    (s.contains p = true ↔ ∀ a ∈ p, ∃ entry ∈ entries, ∃ q,
      Prefix.parse entry = .ok q ∧ q.family = p.family ∧ a ∈ q) := by
  refine ⟨contains_iff_exists,
    contains_iff.trans (forall_congr' fun a => forall_congr' fun ha => ?_)⟩
  have hfamily : ∀ q : Prefix, a ∈ q → q.family = p.family := fun q hq => hq.1.symm.trans ha.1
  rw [h.mem_iff]
  refine exists_congr fun entry => and_congr_right fun _ => exists_congr fun q =>
    and_congr_right fun _ => ?_
  exact ⟨fun hq => ⟨hfamily q hq, hq⟩, And.right⟩

/-- The two halves of 10.0.0.0/8. -/
def sampleHalves : List String := ["10.128.0.0/9", "10.0.0.0/9"]

/-- 10.0.0.0/8. -/
def sampleWhole : Prefix := ⟨.v4, 8, 10, by decide, by decide⟩

theorem sampleHalves_contain_whole :
    ∃ s t, parse sampleHalves = .ok s ∧ parse ["2001:db8::/32"] = .ok t ∧
    (t.union s).contains sampleWhole = true ∧
      ∀ a ∈ sampleWhole, ∃ entry ∈ ["2001:db8::/32"] ++ sampleHalves, Prefix.InEntry entry a := by
  obtain ⟨s, hs⟩ := Attempt.isOk_iff.1 (show (parse sampleHalves).isOk by decide)
  obtain ⟨t, ht⟩ := Attempt.isOk_iff.1 (show (parse ["2001:db8::/32"]).isOk by decide)
  have hown : (parse sampleHalves).toOption.any (·.contains sampleWhole) = true := by decide
  have hcontains : (t.union s).contains sampleWhole = true := by
    rw [hs] at hown
    exact contains_iff.2 fun a ha => mem_union.2 (.inr (contains_iff.1 hown a ha))
  obtain ⟨-, hentries⟩ := contains_built_iff (.merge (.parse ht) (.parse hs)) sampleWhole
  refine ⟨s, t, hs, ht, hcontains, fun a ha => ?_⟩
  obtain ⟨entry, hentry, q, hq, -, hmem⟩ := hentries.1 hcontains a ha
  exact ⟨entry, hentry, q, hq, hmem⟩

/-- A list of prefixes has the form in which sets are listed: no address is listed
twice, no two prefixes could be written as one, and those of IPv4 come first, each
family in the order of its addresses. -/
structure Canonical (ps : List Prefix) : Prop where
  disjoint : ps.Pairwise fun p q => ∀ a : Address, a ∈ p → a ∉ q
  not_halves : ∀ p ∈ ps, ∀ q ∈ ps, ∀ r : Prefix, ¬ r.Halves p q
  ascending : ps.Pairwise fun p q =>
    p.family = .v4 ∧ q.family = .v6 ∨ p.family = q.family ∧ p.base.value < q.base.value

theorem canonical_prefixes (s : PrefixSet) : Canonical s.prefixes :=
  ⟨s.disjoint_prefixes, fun _ hp _ hq _ => not_halves hp hq, s.ascending_prefixes⟩

/--
**Sets have one form, whatever they were read from.**  Their prefixes are listed without overlap,
without halves of a larger prefix and in ascending order, the list is made up of its parts of each
family, and two sets, or their lists, are equal exactly if their entries cover the same addresses.
Merging what was read is collecting the prefixes of both, and is reading both lists of entries, so
neither the order nor the number of merges matters.
-/
theorem canonical_form {xs ys : List String} {s t : PrefixSet} (hs : parse xs = .ok s)
    (ht : parse ys = .ok t) (u : PrefixSet) :
    Canonical s.prefixes ∧
    (s.ofFamily .v4 ++ s.ofFamily .v6 = s.prefixes ∧
      ∀ family, s.ofFamily family = s.prefixes.filter (·.family = family)) ∧
    (s = t ↔ s.prefixes = t.prefixes) ∧
    (s = t ↔ ∀ a, (∃ entry ∈ xs, Prefix.InEntry entry a) ↔ ∃ entry ∈ ys, Prefix.InEntry entry a) ∧
    (s.union t = ofList (s.prefixes ++ t.prefixes) ∧ parse (xs ++ ys) = .ok (s.union t)) ∧
    s.union t = t.union s ∧ (s.union t).union u = s.union (t.union u) ∧ s.union s = s := by
  refine ⟨s.canonical_prefixes, ⟨rfl, s.ofFamily_eq_filter⟩, prefixes_inj.symm, ?_,
    ⟨(ofList_prefixes_append s t).symm, parse_append hs ht⟩, union_comm s t,
    union_assoc s t u, union_self s⟩
  simp only [eq_iff, mem_of_parse hs, mem_of_parse ht]

theorem sampleHalves_canonical :
    ∃ s t, parse sampleHalves = .ok s ∧ parse ["2001:db8::/32"] = .ok t ∧
    Canonical s.prefixes ∧ s ≠ t ∧ parse (sampleHalves ++ ["2001:db8::/32"]) = .ok (t.union s) := by
  obtain ⟨s, hs⟩ := Attempt.isOk_iff.1 (show (parse sampleHalves).isOk by decide)
  obtain ⟨t, ht⟩ := Attempt.isOk_iff.1 (show (parse ["2001:db8::/32"]).isOk by decide)
  obtain ⟨hcanonical, -, -, heq, ⟨-, hparse⟩, hcomm, -⟩ := canonical_form hs ht ∅
  refine ⟨s, t, hs, ht, hcanonical, fun h => ?_, hcomm ▸ hparse⟩
  have hwhole : ∃ entry ∈ sampleHalves, Prefix.InEntry entry sampleWhole.base := by decide
  exact absurd ((heq.1 h _).1 hwhole) (by decide)

/-- Two halves that were read are one prefix. -/
example : (parse sampleHalves).toOption.map prefixes = some [sampleWhole] := by decide

end PrefixSet

end Firewall
