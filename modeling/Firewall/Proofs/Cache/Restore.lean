/-
Saved sets, taken up by a cache that has seen nothing.

A saved set is refused if its name is another owner's or its owner has another name, and
passed over if its name was restored before.  Where sets that have a name or an owner in
common are the same set (`Restorable`), no set is refused, and none is passed over but for
having been taken up already: whatever was taken up before, the next one finds its name free,
or its own (`Consistent.exists_adopt?`).

The sets that are rendered at one time are such sets, and so is any part of them in any order.
-/
import Mathlib.Data.List.Dedup
import Firewall.Proofs.Cache.Pinned

namespace Firewall

/-- Sets of which those that have a name or an owner in common are the same, and whose host names
are in the form in which names are compared. -/
structure NamedSet.Restorable (sets : List NamedSet) : Prop where
  qualified : ∀ s ∈ sets, s.qualified = s
  eq_of_setName_eq : ∀ s ∈ sets, ∀ t ∈ sets, s.setName = t.setName → s = t
  eq_of_owner_eq : ∀ s ∈ sets, ∀ t ∈ sets, s.owner = t.owner → s = t

theorem NamedSet.Restorable.subset {sets more : List NamedSet} (h : Restorable more)
    (hsubset : sets ⊆ more) :
    Restorable sets where
  qualified s hs := h.qualified s (hsubset hs)
  eq_of_setName_eq s hs t ht := h.eq_of_setName_eq s (hsubset hs) t (hsubset ht)
  eq_of_owner_eq s hs t ht := h.eq_of_owner_eq s (hsubset hs) t (hsubset ht)

namespace Cache

variable {c : Cache} {sets : List NamedSet} {s : NamedSet}

/-- **The sets that are rendered at one time can be restored.** -/
theorem Consistent.restorable_setsForRendering (hc : c.Consistent) (now : Instant) :
    NamedSet.Restorable (c.setsForRendering now) := by
  refine ⟨?_, fun s hs t ht => eq_of_setName_rendered hs ht, ?_⟩
  · intro s hs
    have hfqdn := hc.qualified (mem_counting (mem_counting_of_mem_setsForRendering hs)).1
    show ({ s with fqdn := Name.fullyQualified s.fqdn } : NamedSet) = s
    rw [show Name.fullyQualified s.fqdn = s.fqdn from hfqdn]
  · intro s hs t ht heq
    exact eq_of_setName_rendered hs ht ((hc.setName_eq_iff (mem_counting_of_mem_setsForRendering hs)
      (mem_counting_of_mem_setsForRendering ht)).2 heq)

/-! ### Taking up sets one by one -/

theorem restore_append_singleton (c : Cache) (done : List NamedSet) (s : NamedSet) :
    c.restore (done ++ [s]) = match (c.restore done).1.restoreOne? s with
      | some c' => (c', (c.restore done).2 + 1)
      | none => c.restore done := List.foldl_append

theorem records_restore (c : Cache) (sets : List NamedSet) :
    (c.restore sets).1.records = c.records := by
  refine restore_induction (motive := fun c' => c'.records = c.records) ?_ rfl sets
  intro c₁ c₂ s hone hc₁
  obtain ⟨names, -, -, rfl⟩ := restoreOne?_eq_some hone
  exact hc₁

theorem length_restored_restore (c : Cache) (sets : List NamedSet) :
    (c.restore sets).1.restored.length = c.restored.length + (c.restore sets).2 := by
  induction sets using List.reverseRecOn with
  | nil => rfl
  | append_singleton done s ih =>
    rw [restore_append_singleton]
    cases hone : (c.restore done).1.restoreOne? s with
    | none => exact ih
    | some c' =>
      obtain ⟨names, -, -, rfl⟩ := restoreOne?_eq_some hone
      show ((c.restore done).1.restored ++ [s.qualified]).length = _
      rw [List.length_append, ih]
      rfl

/-- A set whose name can be adopted is taken up, unless its name was restored before. -/
theorem exists_restored_of_restoreOne?_eq_none (hnone : c.restoreOne? s = none) {names : Registry}
    (hadopt : c.names.adopt? s.setName s.qualified.owner = some names) :
    ∃ r ∈ c.restored, r.setName = s.setName := by
  have hbind : (c.names.adopt? s.setName s.qualified.owner).bind (fun names =>
      if c.restored.any (fun r => r.setName = s.setName) then none
      else some { c with names := names, restored := c.restored ++ [s.qualified] }) = none := hnone
  rw [hadopt, Option.bind_some] at hbind
  split at hbind
  · rename_i hany
    obtain ⟨r, hr, hname⟩ := List.any_eq_true.1 hany
    exact ⟨r, hr, of_decide_eq_true hname⟩
  · exact nomatch hbind

/-- **A cache without records, that has restored some of the sets, lets
each of them have its name.** -/
theorem Consistent.exists_adopt? (hc : c.Consistent) (hrecords : c.records = ∅)
    (hsets : NamedSet.Restorable sets) (hrestored : ∀ t ∈ c.restored, t ∈ sets) (hs : s ∈ sets) :
    ∃ names, c.names.adopt? s.setName s.qualified.owner = some names := by
  -- a name that is registered is carried by a restored set, for want of records
  have hcarried : ∀ {o name}, c.names.name? o = some name →
      ∃ t ∈ sets, t.owner = o ∧ t.setName = name := by
    intro o name hname
    obtain ⟨expiration, ⟨r, hr, -⟩ | ⟨t, ht, ho, hname, -⟩⟩ := hc.registered hname
    · rw [hrecords] at hr
      exact nomatch hr
    · exact ⟨t, hrestored t ht, ho, hname⟩
  rw [hsets.qualified s hs, Registry.exists_adopt?_iff hc.injective]
  cases hname : c.names.name? s.owner with
  | some name =>
    obtain ⟨t, ht, ho, rfl⟩ := hcarried hname
    rw [hsets.eq_of_owner_eq t ht s hs ho]
    exact .inl rfl
  | none =>
    refine .inr ⟨rfl, fun o ho => ?_⟩
    obtain ⟨t, ht, rfl, heq⟩ := hcarried ho
    rw [hsets.eq_of_setName_eq t ht s hs heq, hname] at ho
    exact nomatch ho

/-! ### Taking up all of them -/

theorem consistent_restore (forwarder : Endpoint) (sets : List NamedSet) :
    ((fresh forwarder).restore sets).1.Consistent :=
      (Consistent.fresh forwarder).history [.restore sets]

/-- **Every set is taken up.** -/
theorem mem_restored_restore (forwarder : Endpoint) (hsets : NamedSet.Restorable sets)
    (t : NamedSet) :
    t ∈ ((fresh forwarder).restore sets).1.restored ↔ t ∈ sets := by
  induction sets using List.reverseRecOn generalizing t with
  | nil => exact Iff.rfl
  | append_singleton done s ih =>
    have hdone := ih (hsets.subset (List.subset_append_left done [s]))
    have hmem : s ∈ done ++ [s] := List.mem_append_right done (List.mem_singleton_self s)
    rw [restore_append_singleton]
    cases hone : ((fresh forwarder).restore done).1.restoreOne? s with
    | some c' =>
      obtain ⟨names, -, -, rfl⟩ := restoreOne?_eq_some hone
      show t ∈ ((fresh forwarder).restore done).1.restored ++ [s.qualified] ↔ _
      rw [hsets.qualified s hmem, List.mem_append, List.mem_append, hdone]
    | none =>
      -- the restored set of its name is the set itself
      obtain ⟨names, hadopt⟩ :=
        (consistent_restore forwarder done).exists_adopt? (records_restore _ done) hsets
        (fun t ht => List.mem_append_left [s] ((hdone t).1 ht)) hmem
      obtain ⟨r, hr, hname⟩ := exists_restored_of_restoreOne?_eq_none hone hadopt
      have hr' : r ∈ done := (hdone r).1 hr
      have hsame := hsets.eq_of_setName_eq r (List.mem_append_left [s] hr') s hmem hname
      rw [hsame] at hr'
      show t ∈ ((fresh forwarder).restore done).1.restored ↔ _
      rw [hdone, List.mem_append, List.mem_singleton]
      constructor
      · exact .inl
      · rintro (ht | rfl)
        · exact ht
        · exact hr'

/-- Whatever was taken up before, the next set finds its name free or its own. -/
theorem exists_adopt?_restore (forwarder : Endpoint) (hsets : NamedSet.Restorable sets)
    {done rest : List NamedSet} (hsplit : sets = done ++ s :: rest) :
    ∃ names, ((fresh forwarder).restore done).1.names.adopt? s.setName s.qualified.owner =
      some names := by
  have hdone : done ⊆ sets := by
    rw [hsplit]
    exact List.subset_append_left done _
  have hs : s ∈ sets := by
    rw [hsplit]
    exact List.mem_append_right done List.mem_cons_self
  refine (consistent_restore forwarder done).exists_adopt? (records_restore _ done) hsets ?_ hs
  intro t ht
  exact hdone ((mem_restored_restore forwarder (hsets.subset hdone) t).1 ht)

theorem restore_snd (forwarder : Endpoint) (hsets : NamedSet.Restorable sets) :
    ((fresh forwarder).restore sets).2 = sets.dedup.length := by
  have hnodup : ((fresh forwarder).restore sets).1.restored.Nodup :=
    (consistent_restore forwarder sets).distinct.imp fun hne heq =>
      hne (congrArg NamedSet.setName heq)
  have hperm : ((fresh forwarder).restore sets).1.restored.Perm sets.dedup := by
    refine (List.perm_ext_iff_of_nodup hnodup sets.nodup_dedup).2 fun t => ?_
    rw [mem_restored_restore forwarder hsets, List.mem_dedup]
  have hlength := length_restored_restore (fresh forwarder) sets
  rw [hperm.length_eq] at hlength
  exact (hlength.trans (Nat.zero_add _)).symm

theorem mem_counting_restore (forwarder : Endpoint) (hsets : NamedSet.Restorable sets)
    (now : Instant) :
    s ∈ ((fresh forwarder).restore sets).1.counting now ↔ s ∈ sets ∧ s.isLive now = true := by
  unfold counting liveSets liveRestored
  rw [records_restore]
  show s ∈ [] ++ _ ↔ _
  rw [List.nil_append, List.mem_filter, mem_restored_restore forwarder hsets]

/-- **A look-up after restoring finds the sets that it selects and that still count.** -/
theorem mem_setsFor_restore (forwarder : Endpoint) (hsets : NamedSet.Restorable sets)
    (selector : Selector) (now : Instant) :
    s ∈ ((fresh forwarder).restore sets).1.setsFor selector true now ↔
      s ∈ sets ∧ selector.selects s.fqdn = true ∧ now < s.expiration := by
  have hcounting := fun s => mem_counting_restore (s := s) forwarder hsets now
  have hrendered : s ∈ ((fresh forwarder).restore sets).1.setsForRendering now ↔
      s ∈ sets ∧ s.isLive now = true := by
    rw [← hcounting]
    refine Dictionary.mem_values_foldl_insertNew fun t ht u hu hname => ?_
    exact hsets.eq_of_setName_eq t ((hcounting t).1 ht).1 u ((hcounting u).1 hu).1 hname
  rw [(consistent_restore forwarder sets).mem_setsFor_iff, hrendered, and_assoc,
    and_comm (a := s.isLive now = true)]
  exact and_congr_right fun _ => and_congr_right fun _ => decide_eq_true_iff

theorem pairwise_setsFor (c : Cache) (selector : Selector) (forPersist : Bool) (now : Instant) :
    (c.setsFor selector forPersist now).Pairwise fun s t => compare s.owner t.owner = .lt :=
  Dictionary.pairwise_values_foldl_insertNew

/-! ### Answers that come later -/

/-- **An answer gives an owner the name that it holds.** -/
theorem Consistent.setName_of_answer (hc : c.Consistent) {owner : Owner} {name : String}
    {expiration x seen : Instant} (hpins : c.Pins owner name expiration) {events : List Event}
    (hkept : keptThrough owner events expiration = some x) {e : Event} {o : Dns.Observation}
    (hobserved : e.observed owner.fqdn = some (seen, o)) (haddresses : o.ofFamily owner.family ≠ [])
    (hseen : seen < x) :
    ∃ r, ((c.run events).after e).records.get? owner = some r ∧ r.setName = name := by
  have hrun := hc.run events
  have hheld := (hc.pins_run events).2 (.inl ⟨expiration, hpins, hkept⟩)
  have hafter :=
    (hrun.pins_after e).2 (.inl ⟨x, hheld, (keeps_of_answer hobserved haddresses).2 ⟨hseen, rfl⟩⟩)
  have hrecorded : ((c.run events).after e).recorded owner
      = some ⟨o.members owner.family, seen.addSeconds (o.ttl owner.family)⟩ := by
    rw [recorded_after]
    unfold recalled heard
    rw [hobserved]
    exact if_neg haddresses
  obtain ⟨r, hr, -⟩ := Option.map_eq_some_iff.1 hrecorded
  have hnamed := (hrun.after e).named hafter
  rw [(hrun.after e).recorded hr] at hnamed
  exact ⟨r, hr, Option.some.inj hnamed⟩

end Cache

end Firewall
