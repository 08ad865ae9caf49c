/-
A restart loses nothing that was saved.

What is saved are the sets that the selectors of the policies found when the policies were compiled,
each perhaps many times over.  All were found in one cache at one time, so they are among the sets
that are rendered then, and of these no two can get into each other's way when they are restored
(`Cache.Consistent.restorable_setsForRendering`).  This holds whatever names the cache had given
them, those with a number included, and in whatever order they come back.
-/
import Firewall.Proofs.Cache.Answers
import Firewall.Proofs.Cache.Restore
import Firewall.Proofs.Name.Starless
import Firewall.Proofs.State.Recorded
import Firewall.State.Saved

namespace Firewall

/-! ### What is saved -/

/-- The sets that a fragment keeps for a selector are what a look-up finds. -/
def Fragment.FoundBy (view : View) (f : Fragment) : Prop :=
  ∀ entry ∈ f.states, ∃ selector, entry.2.2 = view selector

variable {options : CompileOptions} {view : View} {policies : List Policy} {services : List Service}

theorem foundBy_compileParts :
    (compileParts options (some view) policies services).FoundBy view := by
  intro entry hentry
  rw [states_compileParts] at hentry
  obtain ⟨e, -, rfl⟩ := List.mem_map.1 hentry
  exact ⟨e.2, rfl⟩

namespace Saved

theorem mem_allSets {states : PolicyStates} {s : NamedSet} :
    s ∈ allSets states ↔ ∃ policy, states.Lists policy s := by
  unfold allSets PolicyStates.Lists PolicyStates.recorded?
  simp only [List.mem_flatMap, List.mem_flatten, Dictionary.mem_values]
  constructor
  · rintro ⟨state, ⟨policy, hstate⟩, sets, ⟨selector, hsets⟩, hs⟩
    exact ⟨policy, selector, sets, by rw [hstate, Option.bind_some, hsets], hs⟩
  · rintro ⟨policy, selector, sets, hrecorded, hs⟩
    obtain ⟨state, hstate, hsets⟩ := Option.bind_eq_some_iff.1 hrecorded
    exact ⟨state, ⟨policy, hstate⟩, sets, ⟨selector, hsets⟩, hs⟩

/-- **What a compilation saves was found by a look-up.** -/
theorem exists_found_of_mem_allSets {s : NamedSet}
    (h : s ∈ allSets (compileParts options (some view) policies services).compiled.states) :
    ∃ selector, s ∈ view selector := by
  obtain ⟨policy, hlisted⟩ := mem_allSets.1 h
  obtain ⟨entry, hentry, hs⟩ := PolicyStates.exists_entry_of_lists hlisted
  obtain ⟨selector, hfound⟩ := foundBy_compileParts entry hentry
  exact ⟨selector, hfound ▸ hs⟩

end Saved

/--
**A restart loses nothing that was saved.**  Policies are compiled after any history of a cache, and
another cache that has seen nothing takes up what was saved.  These are the sets that are listed
under some policy.  Each finds its name free or its own, and is taken up once.  At any later time a
look-up that asks for restored sets lists those whose names its selector stands for and which still
count, each once, unchanged and in the order of their owners.  And an answer for the owner of a
saved set is recorded under the name of the set, if it is seen while the name is still held: at once
after the restart, before the time of the set is over.
-/
theorem restart_loses_nothing (forwarder forwarder' : Endpoint) (operations : List Cache.Operation)
    (now : Instant) (options : CompileOptions) (policies : List Policy) (services : List Service) :
    let cache := (Cache.fresh forwarder).history operations
    ∃ compiled, compile options (some fun s => cache.setsFor s true now) policies services =
      .ok compiled ∧
      let saved := Saved.allSets compiled.states
      let restarted := ((Cache.fresh forwarder').restore saved).1
      (∀ s, s ∈ saved ↔ ∃ policy, compiled.states.Lists policy s) ∧
      (∀ done s rest, saved = done ++ s :: rest → ∃ names,
        ((Cache.fresh forwarder').restore done).1.names.adopt? s.setName s.qualified.owner =
          some names) ∧
      (∀ s, s ∈ restarted.restored ↔ ∃ policy, compiled.states.Lists policy s) ∧
      (∃ sets : List NamedSet,
        sets.Nodup ∧ (∀ s, s ∈ sets ↔ ∃ policy, compiled.states.Lists policy s) ∧
        ((Cache.fresh forwarder').restore saved).2 = sets.length) ∧
      (∀ selector later, let found := restarted.setsFor selector true later
        (found.Pairwise fun s t => compare s.owner t.owner = .lt) ∧
        ∀ s, s ∈ found ↔ (∃ policy, compiled.states.Lists policy s) ∧
          selector.StandsFor s.fqdn ∧ later < s.expiration) ∧
      ∀ policy s, compiled.states.Lists policy s → ∀ events expiration,
        Cache.keptThrough s.owner events s.expiration = some expiration →
        ∀ seen m, m.Tells → m.subject = s.fqdn → m.GivesFamily s.family → seen < expiration →
          ∃ r, ((restarted.run events).after (.response seen m)).records.get? s.owner = some r ∧
            r.setName = s.setName := by
  intro cache
  have hc : cache.Consistent := (Cache.Consistent.fresh forwarder).history operations
  clear_value cache
  refine ⟨_, rfl, ?_⟩
  intro saved restarted
  have hlisted : ∀ s, s ∈ saved ↔ ∃ policy, _ := fun s => Saved.mem_allSets
  have hrendered : saved ⊆ cache.setsForRendering now := by
    intro s hs
    obtain ⟨selector, hfound⟩ := Saved.exists_found_of_mem_allSets hs
    exact (hc.mem_setsFor_iff.1 hfound).1
  have hsaved : NamedSet.Restorable saved := (hc.restorable_setsForRendering now).subset hrendered
  have hrestored := Cache.mem_restored_restore forwarder' hsaved
  refine ⟨hlisted, fun done s rest => Cache.exists_adopt?_restore forwarder' hsaved,
    fun s => (hrestored s).trans (hlisted s),
    ⟨saved.dedup, saved.nodup_dedup, fun s => List.mem_dedup.trans (hlisted s),
      Cache.restore_snd forwarder' hsaved⟩,
    fun selector later => ⟨Cache.pairwise_setsFor _ _ _ _, fun s => ?_⟩, ?_⟩
  · rw [Cache.mem_setsFor_restore forwarder' hsaved, hlisted, Selector.selects_iff]
  · intro policy s hs events expiration hkept seen m htells hsubject hgives hseen
    have hmem : s ∈ restarted.restored := (hrestored s).2 ((hlisted s).2 ⟨policy, hs⟩)
    obtain ⟨o, hm⟩ := Dns.Observation.exists_ofMessage_iff.2 htells
    exact (Cache.consistent_restore forwarder' saved).setName_of_answer
      (.inr ⟨s, hmem, rfl, rfl, rfl⟩) hkept
      (Cache.observed_eq_some_iff.2 ⟨m, rfl, hm, hsubject⟩)
        ((Dns.Observation.ofFamily_ne_nil_iff hm).2 hgives) hseen

/-- The cluster may reach a.b.com and a-b.com. -/
def sampleNumberedPolicy : Policy where
  name := "numbered"
  egress := [{ selectors := [.exact "a.b.com", .exact "a-b.com"] }]

/-- What was found for the one that was answered first. -/
def samplePlain : NamedSet :=
  ⟨"a-b.com.", "fqdn_a_b_com_v4", [Cache.sampleAddress], .ofSeconds 1700000060, .v4⟩

/-- What was found for the other, under a name with a number. -/
def sampleNumbered : NamedSet :=
  ⟨"a.b.com.", "fqdn_a_b_com_v4_1", [Cache.sampleAddress], .ofSeconds 1700000061, .v4⟩

/-- Both sets are saved and taken up.  After the restart a pattern finds both, and then only the one
that counts for longer; an answer for its host name has the number. -/
theorem restart_keeps_sampleNumbered :
    let cache := (Cache.fresh default).history Cache.sampleHistory
    let now := Instant.ofSeconds 1700000010
    ∃ compiled, compile {} (some fun s => cache.setsFor s true now) [sampleNumberedPolicy] [] =
      .ok compiled ∧
      let restored := (Cache.fresh default).restore (Saved.allSets compiled.states)
      let restarted := restored.1
      (∀ s, (∃ policy, compiled.states.Lists policy s) ↔ s = samplePlain ∨ s = sampleNumbered) ∧
        restored.2 = 2 ∧
        (∀ s, s ∈ restarted.setsFor (.pattern "a*com") true now ↔
          s = samplePlain ∨ s = sampleNumbered) ∧
        (∀ s, s ∈ restarted.setsFor (.pattern "a*com") true (.ofSeconds 1700000060) ↔
          s = sampleNumbered) ∧
        let answered := restarted.after (.response now (Cache.sampleAnswer "a.b.com" 60))
        ∃ r, answered.records.get? sampleNumbered.owner = some r ∧
          r.setName = sampleNumbered.setName := by
  intro cache now
  obtain ⟨compiled, hcompiled, hlisted, -, -, ⟨sets, hnodup, hsets, hcount⟩, hfound, hanswer⟩ :=
    restart_loses_nothing default default Cache.sampleHistory now {} [sampleNumberedPolicy] []
  cases Except.ok.inj hcompiled
  refine ⟨_, hcompiled, ?_⟩
  let found := compileParts {} (some fun s => cache.setsFor s true now) [sampleNumberedPolicy] []
  have hsaved : Saved.allSets found.compiled.states = [samplePlain, sampleNumbered] := by
    decide +kernel
  have hboth : ∀ s, (∃ policy, found.compiled.states.Lists policy s) ↔
      s = samplePlain ∨ s = sampleNumbered := by
    intro s
    rw [← hlisted s, hsaved, List.mem_cons, List.mem_singleton]
  have hlength : sets.length = [samplePlain, sampleNumbered].length := by
    refine ((List.perm_ext_iff_of_nodup hnodup (by decide +kernel)).2 fun s => ?_).length_eq
    rw [hsets, hboth, List.mem_cons, List.mem_singleton]
  have hstands : (Selector.pattern "a*com").StandsFor samplePlain.fqdn ∧
      (Selector.pattern "a*com").StandsFor sampleNumbered.fqdn := by
    rw [← Selector.selects_iff, ← Selector.selects_iff]
    decide +kernel
  refine ⟨hboth, hcount.trans hlength, fun s => ?_, fun s => ?_, ?_⟩
  · rw [(hfound _ now).2, hboth]
    constructor
    · exact And.left
    · rintro (rfl | rfl)
      · exact ⟨.inl rfl, hstands.1, by decide⟩
      · exact ⟨.inr rfl, hstands.2, by decide⟩
  · rw [(hfound _ _).2, hboth]
    constructor
    · rintro ⟨rfl | rfl, -, hcounts⟩
      · exact absurd hcounts (by decide)
      · rfl
    · rintro rfl
      exact ⟨.inr rfl, hstands.2, by decide⟩
  · obtain ⟨policy, hlists⟩ := (hboth sampleNumbered).2 (.inr rfl)
    refine hanswer policy sampleNumbered hlists [] _ rfl now
      (Cache.sampleAnswer "a.b.com" 60) ?_ ?_ ?_ (by decide)
    · exact ⟨rfl, List.cons_ne_nil _ _, by decide +kernel⟩
    · decide +kernel
    · exact ⟨Cache.sampleAddress, 60, ⟨_, List.mem_singleton_self _, rfl, rfl⟩, rfl⟩

end Firewall
