/-
The two ways of reading the cache agree.

A look-up goes through the sets by owner, and rendering goes through them by set name; either keeps
the first that it meets under a key.  A record and a restored set of one owner have one name, and
what has one name has one owner, so the two meet the same first ones: a set is found by a selector
exactly if it is rendered and selected (`mem_setsFor_iff`).  What is left is the order.
-/
import Mathlib.Data.List.Find
import Firewall.Proofs.Cache.Consistent
import Firewall.Proofs.Cache.Lookup

namespace Firewall

/-- Sets in the order of their owners. -/
def NamedSet.byOwner (sets : List NamedSet) : List NamedSet :=
  sets.mergeSort fun s t => (compare s.owner t.owner).isLE

/-- Sorting sets of different owners leaves each behind those of smaller owners. -/
theorem NamedSet.pairwise_byOwner {sets : List NamedSet}
    (h : sets.Pairwise fun s t => s.owner ≠ t.owner) :
    (byOwner sets).Pairwise fun s t => compare s.owner t.owner = .lt := by
  have hsorted : (byOwner sets).Pairwise fun s t => (compare s.owner t.owner).isLE = true := by
    refine List.pairwise_mergeSort (fun _ _ _ => Std.TransCmp.isLE_trans) (fun s t => ?_) sets
    have hswap : compare t.owner s.owner = (compare s.owner t.owner).swap := Std.OrientedCmp.eq_swap
    rw [Bool.or_eq_true, hswap]
    cases compare s.owner t.owner <;> decide
  have hdistinct : (byOwner sets).Pairwise fun s t => s.owner ≠ t.owner :=
    ((List.mergeSort_perm _ _).pairwise_iff Ne.symm).2 h
  refine (hsorted.and hdistinct).imp ?_
  rintro s t ⟨hle, hne⟩
  cases hcompare : compare s.owner t.owner with
  | lt => rfl
  | eq => exact absurd (Std.LawfulEqOrd.eq_of_compare hcompare) hne
  | gt =>
    rw [hcompare] at hle
    exact nomatch hle

namespace Cache

variable {c : Cache} {now : Instant} {s t : NamedSet}

/-- What counts at a time, records first. -/
def counting (c : Cache) (now : Instant) : List NamedSet := c.liveSets now ++ c.liveRestored now

theorem mem_counting (h : s ∈ c.counting now) :
    c.Pins s.owner s.setName s.expiration ∧ now < s.expiration := by
  rcases List.mem_append.1 h with h | h
  · obtain ⟨o, r, hr, hlive, rfl⟩ := mem_liveSets.1 h
    exact ⟨.inl ⟨r, hr, rfl, rfl⟩, of_decide_eq_true hlive⟩
  · obtain ⟨hs, hlive⟩ := List.mem_filter.1 h
    exact ⟨.inr ⟨s, hs, rfl, rfl, rfl⟩, of_decide_eq_true hlive⟩

theorem exists_mem_counting {o : Owner} {name : String} {expiration : Instant}
    (h : c.Pins o name expiration) (hnow : now < expiration) :
    ∃ s ∈ c.counting now, s.owner = o ∧ s.setName = name := by
  rcases h with ⟨r, hr, hname, rfl⟩ | ⟨s, hs, ho, hname, rfl⟩
  · exact ⟨r.toNamedSet o,
      List.mem_append_left _ (mem_liveSets.2 ⟨o, r, hr, decide_eq_true hnow, rfl⟩), rfl, hname⟩
  · exact ⟨s, List.mem_append_right _ (List.mem_filter.2 ⟨hs, decide_eq_true hnow⟩), ho, hname⟩

/-- **Of what counts, those have one name that have one owner.** -/
theorem Coherent.setName_eq_iff (hc : c.Coherent) (hs : s ∈ c.counting now)
    (ht : t ∈ c.counting now) :
    s.setName = t.setName ↔ s.owner = t.owner := by
  have hsname := hc.named (mem_counting hs).1
  have htname := hc.named (mem_counting ht).1
  constructor
  · intro h
    rw [← h] at htname
    exact hc.injective hsname htname
  · intro h
    rw [h, htname] at hsname
    exact (Option.some.inj hsname).symm

/-! ### Rendering -/

theorem mem_counting_of_mem_setsForRendering (h : s ∈ c.setsForRendering now) :
    s ∈ c.counting now :=
  List.mem_of_find?_eq_some (Dictionary.mem_values_foldl_insertNew_iff.1 h)

/-- **A name is rendered exactly if something that counts carries it.** -/
theorem exists_setName_rendered_iff {name : String} :
    (∃ s ∈ c.setsForRendering now, s.setName = name) ↔
    ∃ o expiration, c.Pins o name expiration ∧ now < expiration := by
  have hkeys : (∃ s ∈ c.setsForRendering now, s.setName = name) ↔
      ∃ s ∈ c.counting now, s.setName = name :=
    Dictionary.exists_mem_values_foldl_insertNew
  rw [hkeys]
  constructor
  · rintro ⟨s, hs, rfl⟩
    exact ⟨s.owner, s.expiration, mem_counting hs⟩
  · rintro ⟨o, expiration, hpins, hnow⟩
    obtain ⟨s, hs, -, hname⟩ := exists_mem_counting hpins hnow
    exact ⟨s, hs, hname⟩

/-- Sets are rendered in the order of their names, and no two have one name. -/
theorem pairwise_setsForRendering (c : Cache) (now : Instant) :
    (c.setsForRendering now).Pairwise fun s t => compare s.setName t.setName = .lt :=
  Dictionary.pairwise_values_foldl_insertNew

theorem Coherent.distinct_setsForRendering (hc : c.Coherent) (now : Instant) :
    (c.setsForRendering now).Pairwise fun s t => s.owner ≠ t.owner := by
  refine (c.pairwise_setsForRendering now).imp_of_mem ?_
  intro s t hs ht hlt howner
  have hname := (hc.setName_eq_iff (mem_counting_of_mem_setsForRendering hs)
    (mem_counting_of_mem_setsForRendering ht)).2 howner
  simp [hname] at hlt

theorem filter_setName_rendered (h : s ∈ c.setsForRendering now) :
    (c.setsForRendering now).filter (fun t => t.setName = s.setName) = [s] := by
  refine eq_of_mem_iff_of_pairwise (R := fun s t : NamedSet => compare s.setName t.setName = .lt) ?_
    Std.TransCmp.lt_trans ((c.pairwise_setsForRendering now).filter _)
      (List.pairwise_singleton _ s) ?_
  · intro t ht
    simp at ht
  · intro t
    rw [List.mem_filter, List.mem_singleton, decide_eq_true_eq]
    constructor
    · rintro ⟨ht, hname⟩
      have hs := Dictionary.mem_values_foldl_insertNew_iff.1 h
      have ht := Dictionary.mem_values_foldl_insertNew_iff.1 ht
      rw [hname, hs] at ht
      exact (Option.some.inj ht).symm
    · rintro rfl
      exact ⟨h, rfl⟩

theorem eq_of_setName_rendered (hs : s ∈ c.setsForRendering now) (ht : t ∈ c.setsForRendering now)
    (h : s.setName = t.setName) : s = t := by
  have honly : s ∈ (c.setsForRendering now).filter fun u => u.setName = t.setName :=
    List.mem_filter.2 ⟨hs, decide_eq_true h⟩
  rw [filter_setName_rendered ht] at honly
  exact List.mem_singleton.1 honly

/-- **What is rendered is the first of its owner**: it is the first of its
name, and these are the same sets. -/
theorem Coherent.mem_setsForRendering_iff_find? (hc : c.Coherent) :
    s ∈ c.setsForRendering now ↔ (c.counting now).find? (fun t => t.owner = s.owner) = some s := by
  have hrender : s ∈ c.setsForRendering now ↔
      (c.counting now).find? (fun t => compare t.setName s.setName == .eq) = some s :=
    Dictionary.mem_values_foldl_insertNew_iff
  have hsame : s ∈ c.counting now → (c.counting now).find? (fun t => t.owner = s.owner)
      = (c.counting now).find? (fun t => compare t.setName s.setName == .eq) := by
    intro hs
    refine List.find?_congr fun t ht => ?_
    by_cases howner : t.owner = s.owner
    · have hname : t.setName = s.setName := (hc.setName_eq_iff ht hs).2 howner
      simp [howner, hname]
    · have hname : t.setName ≠ s.setName := fun h => howner ((hc.setName_eq_iff ht hs).1 h)
      simp [howner, hname]
  rw [hrender]
  constructor
  · intro h
    rwa [hsame (List.mem_of_find?_eq_some h)]
  · intro h
    rwa [← hsame (List.mem_of_find?_eq_some h)]

/-! ### Look-ups -/

/-- **A selector finds the sets that are rendered and that it selects.** -/
theorem Coherent.mem_setsFor_iff (hc : c.Coherent) {selector : Selector} :
    s ∈ c.setsFor selector true now ↔
      s ∈ c.setsForRendering now ∧ selector.selects s.fqdn = true := by
  rw [hc.mem_setsForRendering_iff_find?]
  exact mem_setsFor_iff_find?

/-- **A look-up lists the rendered sets that it selects, in the order of their owners.** -/
theorem Coherent.setsFor_eq (hc : c.Coherent) (selector : Selector) (now : Instant) :
    c.setsFor selector true now
      = NamedSet.byOwner ((c.setsForRendering now).filter fun s => selector.selects s.fqdn) := by
  refine eq_of_mem_iff_of_pairwise (R := fun s t : NamedSet => compare s.owner t.owner = .lt) ?_
    Std.TransCmp.lt_trans Dictionary.pairwise_values_foldl_insertNew
    (NamedSet.pairwise_byOwner ((hc.distinct_setsForRendering now).filter _)) ?_
  · intro s hs
    simp at hs
  · intro s
    rw [hc.mem_setsFor_iff, NamedSet.byOwner, List.mem_mergeSort, List.mem_filter]

end Cache

end Firewall
