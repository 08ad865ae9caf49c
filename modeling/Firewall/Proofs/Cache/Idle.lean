/-
A cache that nothing is told.

Where neither a response nor a saved set comes, all that can happen to a cache is that it is purged,
or that its queries go to another resolver.  A purge is overtaken by a later one, so one more purge
makes the cache what a single one would have made it (`purge_history_of_idle`).  And as long as
nothing that is rendered expires, the same is rendered later: what counts later counts now, in the
same order, so each rendered set is still the first of its name (`setsForRendering_of_unexpired`).
-/
import Firewall.Proofs.Cache.Agreement
import Firewall.Proofs.Cache.Purge

namespace Firewall.Cache

variable {c : Cache} {s t : Instant}

/-! ### What counts later -/

/-- What counts later are those of what counts now that are not over by then. -/
theorem counting_of_le (h : s ≤ t) (c : Cache) :
    c.counting t = (c.counting s).filter (·.isLive t) := by
  have hlater : ∀ expiration : Instant,
      (decide (t < expiration) && decide (s < expiration)) = decide (t < expiration) := by
    intro expiration
    by_cases ht : t < expiration
    · rw [decide_eq_true ht, decide_eq_true (Instant.lt_of_le_of_lt h ht), Bool.and_self]
    · rw [decide_eq_false ht, Bool.false_and]
  have hrecords : c.liveSets t = (c.liveSets s).filter (·.isLive t) := by
    unfold liveSets
    rw [List.filter_map, List.filter_filter]
    exact congrArg _ (List.filter_congr fun e _ => (hlater e.2.expiration).symm)
  have hrestored : c.liveRestored t = (c.liveRestored s).filter (·.isLive t) := by
    unfold liveRestored
    rw [List.filter_filter]
    exact List.filter_congr fun n _ => (hlater n.expiration).symm
  rw [counting, hrecords, hrestored, counting, List.filter_append]

/-- **As long as nothing that is rendered expires, the same is rendered.** -/
theorem setsForRendering_of_unexpired (h : s ≤ t)
    (hlive : ∀ n ∈ c.setsForRendering s, t < n.expiration) :
    c.setsForRendering t = c.setsForRendering s := by
  have hkept : ∀ n ∈ c.setsForRendering s, n ∈ c.setsForRendering t := by
    intro n hn
    obtain ⟨hname, before, after, hsplit, hfirst⟩ :=
      List.find?_eq_some_iff_append.1 (Dictionary.mem_values_foldl_insertNew_iff.1 hn)
    have hcounts : c.counting s = before ++ n :: after := hsplit
    have hstill : n.isLive t = true := decide_eq_true (hlive n hn)
    refine Dictionary.mem_values_foldl_insertNew_iff.2 (List.find?_eq_some_iff_append.2 ⟨hname, ?_⟩)
    refine ⟨before.filter (·.isLive t), after.filter (·.isLive t), ?_,
      fun m hm => hfirst m (List.mem_filter.1 hm).1⟩
    show c.counting t = _
    rw [counting_of_le h, hcounts, List.filter_append, List.filter_cons, if_pos hstill]
  refine eq_of_mem_iff_of_pairwise (R := fun m n : NamedSet => compare m.setName n.setName = .lt)
    (fun n hn => ?_)
    Std.TransCmp.lt_trans (c.pairwise_setsForRendering t) (c.pairwise_setsForRendering s)
    fun n => ⟨fun hn => ?_, hkept n⟩
  · simp at hn
  · -- what has its name now is still there later, and there is only one of that name
    obtain ⟨hpins, hnow⟩ := mem_counting (mem_counting_of_mem_setsForRendering hn)
    obtain ⟨m, hm, hname⟩ :=
      exists_setName_rendered_iff.2 ⟨n.owner, n.expiration, hpins, Instant.lt_of_le_of_lt h hnow⟩
    rw [eq_of_setName_rendered hn (hkept m hm) hname.symm]
    exact hm

/-! ### What is not told anything -/

/-- What tells a cache nothing: a purge that is not later than a time, or another resolver. -/
def Operation.Idle (t : Instant) : Operation → Prop
  | .event (.purge s) => s ≤ t
  | .event (.response _ _) => False
  | .restore _ => False
  | .forward _ => True

/-- **What tells a cache nothing is overtaken by the next purge**, the resolver apart. -/
theorem purge_history_of_idle {operations : List Operation} (h : ∀ o ∈ operations, o.Idle t)
    (c : Cache) :
    ∃ forwarder, (c.history operations).purge t = (c.purge t).setForwarder forwarder := by
  induction operations generalizing c with
  | nil => exact ⟨c.forwarder, rfl⟩
  | cons operation rest ih =>
    obtain ⟨hidle, hrest⟩ := List.forall_mem_cons.1 h
    obtain ⟨forwarder, hpurged⟩ := ih hrest (c.perform operation)
    refine ⟨forwarder, hpurged.trans ?_⟩
    cases operation with
    | event e =>
      cases e with
      | purge s => exact congrArg (·.setForwarder forwarder) (purge_purge hidle c)
      | response seen m => exact absurd hidle id
    | restore sets => exact absurd hidle id
    | forward _ => rfl

/-- **A cache that is told nothing is read as it was**, from a purge on and as long as
nothing that is rendered expires. -/
theorem reads_of_idle (hc : c.Consistent) (h : s ≤ t) {operations : List Operation}
    (hidle : ∀ o ∈ operations, o.Idle t) (hlive : ∀ n ∈ c.setsForRendering s, t < n.expiration) :
    let later := ((c.purge s).history operations).purge t
    later.setsForRendering t = (c.purge s).setsForRendering s ∧
      ∀ selector, later.setsFor selector true t = (c.purge s).setsFor selector true s := by
  intro later
  obtain ⟨forwarder, hpurged⟩ := purge_history_of_idle hidle (c.purge s)
  have hlater : later = (c.purge t).setForwarder forwarder := by rw [← purge_purge h, ← hpurged]
  have hsets : later.setsForRendering t = (c.purge s).setsForRendering s := by
    rw [hlater, setsForRendering_purge (Instant.le_refl s), ← setsForRendering_of_unexpired h hlive]
    exact setsForRendering_purge (Instant.le_refl t) c
  have hconsistent : later.Consistent := by
    rw [hlater]
    exact (hc.purge t).setForwarder forwarder
  refine ⟨hsets, fun selector => ?_⟩
  rw [hconsistent.setsFor_eq, (hc.purge s).setsFor_eq, hsets]

end Firewall.Cache
