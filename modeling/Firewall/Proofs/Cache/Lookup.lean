/-
What is looked up in the cache.

Look-ups list the records that count.  They go through dictionaries, by owner or by set
name, and would lose a set whose key had come before; but an owner has one record, and
where names are coherent a name has one owner.
-/
import Firewall.Proofs.Cache.Run

namespace Firewall.Cache

theorem mem_liveSets {c : Cache} {now : Instant} {s : NamedSet} : s ∈ c.liveSets now ↔
    ∃ o r, c.records.get? o = some r ∧ r.isLive now = true ∧ s = r.toNamedSet o := by
  unfold liveSets
  simp only [List.mem_map, List.mem_filter, Dictionary.get?_eq_some_iff]
  constructor
  · rintro ⟨⟨o, r⟩, ⟨hmem, hlive⟩, rfl⟩
    exact ⟨o, r, hmem, hlive, rfl⟩
  · rintro ⟨o, r, hmem, hlive, rfl⟩
    exact ⟨(o, r), ⟨hmem, hlive⟩, rfl⟩

theorem eq_of_owner_eq {c : Cache} {now : Instant} {s t : NamedSet} (hs : s ∈ c.liveSets now)
    (ht : t ∈ c.liveSets now) (h : s.owner = t.owner) : s = t := by
  obtain ⟨o, r, hr, -, rfl⟩ := mem_liveSets.1 hs
  obtain ⟨o', r', hr', -, rfl⟩ := mem_liveSets.1 ht
  have howner : o = o' := h
  rw [← howner, hr] at hr'
  rw [← howner, Option.some.inj hr']

theorem eq_of_setName_eq {c : Cache} (hc : c.Coherent) {now : Instant} {s t : NamedSet}
    (hs : s ∈ c.liveSets now) (ht : t ∈ c.liveSets now) (h : s.setName = t.setName) : s = t := by
  refine eq_of_owner_eq hs ht ?_
  obtain ⟨o, r, hr, -, rfl⟩ := mem_liveSets.1 hs
  obtain ⟨o', r', hr', -, rfl⟩ := mem_liveSets.1 ht
  have hname : r.setName = r'.setName := h
  refine hc.injective (hc.recorded hr) ?_
  rw [hname]
  exact hc.recorded hr'

variable {c : Cache} {now : Instant}

/-- An owner's set is found among those that count by looking for the owner. -/
theorem find?_owner_liveSets {o : Owner} {s : NamedSet} :
    (c.liveSets now).find? (fun t => t.owner = o) = some s ↔ s ∈ c.liveSets now ∧ s.owner = o := by
  have howner : ∀ {t}, (c.liveSets now).find? (fun t => t.owner = o) = some t → t.owner = o := by
    intro t ht
    have hfound := List.find?_some ht
    exact of_decide_eq_true hfound
  constructor
  · intro h
    exact ⟨List.mem_of_find?_eq_some h, howner h⟩
  · rintro ⟨hs, ho⟩
    have hsome : ((c.liveSets now).find? fun t => t.owner = o).isSome = true := by
      rw [List.find?_isSome]
      exact ⟨s, hs, decide_eq_true ho⟩
    obtain ⟨t, ht⟩ := Option.isSome_iff_exists.1 hsome
    rw [ht, eq_of_owner_eq (List.mem_of_find?_eq_some ht) hs ((howner ht).trans ho.symm)]

/-- **A selector finds the first set of each owner, if it selects it.** -/
theorem mem_setsFor_iff_find? {selector : Selector} {forPersist : Bool} {s : NamedSet} :
    s ∈ c.setsFor selector forPersist now ↔
      (c.liveSets now ++ if forPersist then c.liveRestored now else []).find?
        (fun t => t.owner = s.owner) = some s ∧
        selector.selects s.fqdn = true := by
  have hfirst : s ∈ c.setsFor selector forPersist now ↔
      ((c.liveSets now ++ if forPersist then c.liveRestored now else []).filter fun t =>
        selector.selects t.fqdn).find?
        (fun t => compare t.owner s.owner == .eq) = some s :=
    Dictionary.mem_values_foldl_insertNew_iff
  -- the sets of one owner are of one name, so they are all selected or none of them is
  have hselected : selector.selects s.fqdn = true →
      (fun t : NamedSet =>
        decide (selector.selects t.fqdn = true ∧ (compare t.owner s.owner == .eq) = true))
        = fun t => decide (t.owner = s.owner) := by
    intro hs
    funext t
    by_cases howner : t.owner = s.owner
    · have hfqdn : t.fqdn = s.fqdn := congrArg Owner.fqdn howner
      simp [howner, hfqdn, hs, Std.ReflCmp.compare_self]
    · simp [howner]
  rw [hfirst, List.find?_filter]
  constructor
  · intro h
    have hfound := List.find?_some h
    have hs := (of_decide_eq_true hfound).1
    rw [hselected hs] at h
    exact ⟨h, hs⟩
  · rintro ⟨h, hs⟩
    rw [hselected hs]
    exact h

/-- Without restored sets a selector finds the sets that count and that it selects. -/
theorem mem_setsFor (hrestored : c.restored = []) {selector : Selector} {forPersist : Bool}
    {s : NamedSet} :
    s ∈ c.setsFor selector forPersist now ↔
      s ∈ c.liveSets now ∧ selector.selects s.fqdn = true := by
  have hsets : c.liveSets now ++ (if forPersist then c.liveRestored now else []) =
      c.liveSets now := by
    unfold liveRestored
    rw [hrestored, List.filter_nil, ite_self, List.append_nil]
  rw [mem_setsFor_iff_find?, hsets, find?_owner_liveSets, and_iff_left rfl]

theorem mem_setsForRendering (hrestored : c.restored = []) (hc : c.Coherent) {s : NamedSet} :
    s ∈ c.setsForRendering now ↔ s ∈ c.liveSets now := by
  have hsets : c.liveSets now ++ c.liveRestored now = c.liveSets now := by
    unfold liveRestored
    rw [hrestored, List.filter_nil, List.append_nil]
  show s ∈ (List.foldl (fun d (s : NamedSet) => d.insertNew s.setName s)
    (∅ : Dictionary String NamedSet)
    (c.liveSets now ++ c.liveRestored now)).values ↔ _
  rw [hsets, Dictionary.mem_values_foldl_insertNew]
  intro v hv w hw
  exact eq_of_setName_eq hc hv hw

end Firewall.Cache
