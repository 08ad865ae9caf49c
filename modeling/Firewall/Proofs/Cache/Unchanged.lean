/-
What a response that changed nothing leaves.

A response says whether the addresses of some record changed.  Where it says that none did,
each record has the name and the addresses that it had, and all that can be different is until
when it counts (`get?_observe_of_unchanged`).  So at its own time the same sets are found as
before, their times apart, with one exception: an answer that is given for no time at all is
over at once.  Its record has the addresses that it had, so nothing changed, but it does not
count any more, and its set is gone.
-/
import Firewall.Proofs.Cache.Response

namespace Firewall

/-- The set without its time. -/
def NamedSet.undated (s : NamedSet) : NamedSet := { s with expiration := default }

namespace Cache

variable {c d : Cache} {seen now : Instant} {o : Dns.Observation} {m : Dns.Message}
  {family : Family} {u : NamedSet}

/-! ### Sets without their times -/

/-- What is rendered, times apart, is what is found under the owners, times apart. -/
theorem Coherent.mem_undated_iff (hc : c.Coherent) :
    u ∈ (c.setsForRendering now).map NamedSet.undated ↔
    (c.setOf? true now u.owner).map NamedSet.undated = some u := by
  simp only [List.mem_map, hc.mem_setsForRendering_iff, Option.map_eq_some_iff]
  constructor
  · rintro ⟨s, hs, rfl⟩
    exact ⟨s, hs, rfl⟩
  · rintro ⟨s, hs, rfl⟩
    exact ⟨s, hs, rfl⟩

/-- **The same is rendered, times apart, exactly if the same is found of each owner.** -/
theorem Coherent.undated_setsForRendering_eq_iff (hc : c.Coherent) (hd : d.Coherent) :
    (c.setsForRendering now).map NamedSet.undated = (d.setsForRendering now).map NamedSet.undated ↔
      ∀ owner, (c.setOf? true now owner).map NamedSet.undated =
        (d.setOf? true now owner).map NamedSet.undated := by
  constructor
  · intro h owner
    have howner : ∀ {e : Cache} {u}, (e.setOf? true now owner).map NamedSet.undated = some u →
        u.owner = owner := by
      intro e u hu
      obtain ⟨s, hs, rfl⟩ := Option.map_eq_some_iff.1 hu
      have hsame := owner_of_setOf? hs
      exact hsame
    refine Option.ext fun u => ?_
    constructor
    · intro hu
      have hmem := hc.mem_undated_iff.2 ((howner hu).symm ▸ hu)
      rw [h, hd.mem_undated_iff, howner hu] at hmem
      exact hmem
    · intro hu
      have hmem := hd.mem_undated_iff.2 ((howner hu).symm ▸ hu)
      rw [← h, hc.mem_undated_iff, howner hu] at hmem
      exact hmem
  · intro h
    have hordered : ∀ e : Cache, ((e.setsForRendering now).map NamedSet.undated).Pairwise
        fun s t => compare s.setName t.setName = .lt :=
          fun e => List.pairwise_map.2 (e.pairwise_setsForRendering now)
    refine eq_of_mem_iff_of_pairwise
      (R := fun s t : NamedSet => compare s.setName t.setName = .lt) ?_
      Std.TransCmp.lt_trans (hordered c) (hordered d) ?_
    · intro s hs
      simp at hs
    · intro u
      rw [hc.mem_undated_iff, hd.mem_undated_iff, h]

/-! ### Nothing changed -/

/-- **A response that says that nothing changed has only moved times.** -/
theorem get?_observe_of_unchanged (h : (c.observe seen o).2 = false) (family : Family) :
    (c.observe seen o).1.records.get? ⟨o.name, family⟩ =
      ((c.purge seen).records.get? ⟨o.name, family⟩).map fun r =>
      if o.ofFamily family = [] then r
      else { r with expiration := seen.addSeconds (o.ttl family) } := by
  have hmembers :
      (c.observe seen o).1.membersOf ⟨o.name, family⟩ =
        (c.purge seen).membersOf ⟨o.name, family⟩ := by
    refine congrFun (Classical.not_not.1 fun hne => ?_) _
    rw [(observe_snd c seen).2 hne] at h
    exact nomatch h
  have hrecord := get?_observe c seen o family
  unfold membersOf at hmembers
  rw [hrecord] at hmembers ⊢
  unfold nextRecord answered at hmembers ⊢
  rw [(sameOf_upTo c seen o family).record] at hmembers ⊢
  cases hknown : (c.purge seen).records.get? ⟨o.name, family⟩ with
  | none =>
    by_cases hnone : o.ofFamily family = []
    · rw [if_pos hnone]
      rfl
    · simp [hknown, hnone] at hmembers
  | some r =>
    by_cases hnone : o.ofFamily family = []
    · cases hasked : o.askedFor family with
      | false => simp [hnone]
      | true =>
        -- nothing was there to be cleared
        simp only [hknown, hnone, hasked, if_true, Option.map_some, Option.some.injEq] at hmembers
        simp [hnone, hmembers]
    · simp only [hknown, hnone, if_false, Option.map_some, Option.some.injEq] at hmembers
      simp [hnone, hmembers]

/-- Where nothing came back, what is held of the owner is what the purge left. -/
private theorem sameOf_observe_of_none (h : (c.observe seen o).2 = false)
    (hnone : o.ofFamily family = []) :
    SameOf ⟨o.name, family⟩ (c.observe seen o).1 (c.purge seen) where
  record := by
    rw [get?_observe_of_unchanged h]
    simp [hnone]
  restored := by
    rw [(sameOf_observe c seen o family).restored, restored_observeFamily, if_pos hnone,
      (sameOf_upTo c seen o family).restored]

/-- Where addresses came back, those were recorded already, and they are found from now
on unless they are over at once. -/
private theorem setOf?_observe_of_answer (h : (c.observe seen o).2 = false)
    (hsome : o.ofFamily family ≠ []) :
    ∃ r : Record, (c.purge seen).setOf? true seen ⟨o.name, family⟩ =
      some (r.toNamedSet ⟨o.name, family⟩) ∧
      (c.observe seen o).1.setOf? true seen ⟨o.name, family⟩ = if o.ttl family = 0 then none
        else some ({ r with expiration := seen.addSeconds (o.ttl family) }.toNamedSet
          ⟨o.name, family⟩) := by
  have hrecord := get?_observe_of_unchanged h family
  obtain ⟨r', hr', -⟩ := get?_observe_of_answer c seen hsome
  obtain ⟨r, hr, -⟩ := Option.map_eq_some_iff.1 (hrecord.symm.trans hr')
  rw [hr, Option.map_some, if_neg hsome] at hrecord
  have hlive : r.isLive seen = true := decide_eq_true (get?_purge_eq_some.1 hr).2
  have hrestored :
      ((c.observe seen o).1.restored.filter fun s => s.owner = ⟨o.name, family⟩) = [] := by
    rw [(sameOf_observe c seen o family).restored, restored_observeFamily, if_neg hsome,
      List.filter_filter]
    exact List.filter_eq_nil_iff.2 fun s _ => by simp
  refine ⟨r, ?_, ?_⟩
  · unfold setOf?
    rw [hr, Option.filter_some, if_pos hlive]
    rfl
  · have hcounts : ({ r with expiration := seen.addSeconds (o.ttl family) } : Record).isLive seen
        = decide (o.ttl family ≠ 0) := decide_eq_decide.2 Instant.lt_addSeconds_iff
    unfold setOf?
    rw [hrecord, find?_liveRestored, hrestored, Option.filter_some, hcounts]
    by_cases hzero : o.ttl family = 0
    · simp [hzero]
    · simp [hzero]

/-- Where nothing changed, the set of a family is found as before, its time
apart, unless it is over at once. -/
theorem undated_setOf?_observe_iff (h : (c.observe seen o).2 = false) (family : Family) :
    ((c.observe seen o).1.setOf? true seen ⟨o.name, family⟩).map NamedSet.undated
        = (c.setOf? true seen ⟨o.name, family⟩).map NamedSet.undated ↔
      (o.ofFamily family ≠ [] → o.ttl family ≠ 0) := by
  rw [← setOf?_purge (Instant.le_refl seen) c]
  by_cases hnone : o.ofFamily family = []
  · rw [(sameOf_observe_of_none h hnone).setOf?_eq]
    exact iff_of_true rfl fun hsome => absurd hnone hsome
  · obtain ⟨r, hbefore, hafter⟩ := setOf?_observe_of_answer h hnone
    rw [hbefore, hafter]
    by_cases hzero : o.ttl family = 0
    · simp [hzero, hnone]
    · rw [if_neg hzero]
      exact iff_of_true rfl fun _ => hzero

/-- **Where a response says that nothing changed, the same is rendered at its time, times apart,
exactly if no address was given for no time at all.** -/
theorem Coherent.undated_setsForRendering_apply_iff (hc : c.Coherent) {c' : Cache}
    (h : c.apply seen m = .ok (c', false)) :
    (c'.setsForRendering seen).map NamedSet.undated =
      (c.setsForRendering seen).map NamedSet.undated ↔
      ∀ a, ¬ m.Gives a 0 := by
  obtain ⟨o, hm, heq⟩ := apply_eq_ok.1 h
  have hunchanged : (c.observe seen o).2 = false := congrArg Prod.snd heq
  have hcache : (c.observe seen o).1 = c' := congrArg Prod.fst heq
  rw [← hcache, (hc.observe seen o).undated_setsForRendering_eq_iff hc,
    ← Dns.Observation.forall_ttl_ne_zero_iff hm]
  simp only [← undated_setOf?_observe_iff hunchanged]
  constructor
  · intro hsame family
    exact hsame ⟨o.name, family⟩
  · intro hsame owner
    by_cases hname : owner.fqdn = o.name
    · have howner : owner = ⟨o.name, owner.family⟩ := Owner.ext hname rfl
      rw [howner]
      exact hsame owner.family
    · rw [(sameOf_observe_of_ne c seen o hname).setOf?_eq, setOf?_purge (Instant.le_refl seen)]

end Cache

end Firewall
