/-
A cycle with nothing new changes nothing.

Suppose that a cycle went well, and that until the next one nobody touches its snapshot and its
ruleset, the cache is told nothing, and nothing that was rendered expires.  Then the next cycle
reads the same snapshot, and finds the same in the cache (`Cache.reads_of_idle`), however often that
was purged; so it renders the same text (`renderSnapshot_of_idle`).  The ruleset file has the digest
of that text since the first cycle (`ok_cycle_leaves`), so nothing is staged, checked or loaded, and
the state that is saved is the same too.
-/
import Firewall.Proofs.Cache.Idle
import Firewall.Proofs.Reconcile.Ends

namespace Firewall.Reconciler

variable {r : Reconciler} {b : Behaviour} {cache cache' : Option Cache} {w w' : World}
  {text : String}
  {compiled : Compiled}

/-! ### The same is rendered -/

/-- What is rendered is made from the snapshot, and from the cache once it is purged. -/
theorem rendered_eq (r : Reconciler) (cache : Option Cache) (w : World) :
    r.rendered cache w =
      (Snapshot.ofRead r.snapshotPath (w.disk.read r.snapshotPath)).bind fun snapshot =>
      r.renderSnapshot snapshot (cache.map (·.purge w.clock)) w.clock := by
  unfold rendered
  rw [exec_renderAt, Snapshot.exec_load]
  cases Snapshot.ofRead r.snapshotPath (w.disk.read r.snapshotPath) with
  | error e => rfl
  | ok snapshot => rfl

theorem exists_read_of_rendered (h : r.rendered cache w = .ok (text, compiled)) :
    ∃ bytes, w.disk.read r.snapshotPath = .ok bytes := by
  rw [rendered_eq] at h
  cases hread : w.disk.read r.snapshotPath with
  | error fault =>
    rw [hread] at h
    exact nomatch h
  | ok bytes => exact ⟨bytes, rfl⟩

/-- What a snapshot renders to is the same later, where the cache is
told nothing and nothing expires. -/
theorem renderSnapshot_of_idle {s t : Instant} (hconsistent : ∀ c ∈ cache, c.Consistent) (h : s ≤ t)
    {operations : List Cache.Operation} (hidle : ∀ o ∈ operations, o.Idle t)
    (hlive : ∀ c ∈ cache, ∀ n ∈ c.setsForRendering s, t < n.expiration) (snapshot : Snapshot) :
    r.renderSnapshot snapshot
      (((cache.map (·.purge s)).map (·.history operations)).map (·.purge t)) t
      = r.renderSnapshot snapshot (cache.map (·.purge s)) s := by
  cases cache with
  | none => rfl
  | some c =>
    obtain ⟨hsets, hlookups⟩ := Cache.reads_of_idle (hconsistent c rfl) h hidle (hlive c rfl)
    have hview : (fun selector =>
      (((c.purge s).history operations).purge t).setsFor selector true t)
        = fun selector => (c.purge s).setsFor selector true s := funext hlookups
    unfold renderSnapshot ruleset
    simp only [Option.map_some, Option.getD_some]
    rw [hsets, hview]

/-! ### What a cycle that went well leaves -/

theorem settled_of_ok (hdistinct : r.Distinct) {outcome : Outcome}
    (h : Cycle.exec (r.cycle (World.loader b)) cache w = ((.ok outcome, cache'), w')) :
    ∃ text compiled changed w₁ bytes, r.rendered cache w = .ok (text, compiled) ∧
      w.disk.Spared r.snapshotPath w₁.disk ∧ w₁.disk.contents? r.rulesetPath = .ok bytes ∧
      Digest.ofBytes bytes = Digest.ofText text ∧
      Cycle.exec (r.persist changed compiled) (cache.map (·.purge w.clock)) w₁ =
        ((.ok outcome, cache'), w') := by
  cases steps_of_cycle h with
  | loaded hrender hactivate hload hpersist =>
    have hsnapshot := (hdistinct.spared_activate hactivate).2
    rcases Ruleset.activate_ends hactivate
      with ⟨hresult, -⟩ | ⟨-, hactive, hfailing, -⟩ | ⟨e, hresult, -⟩
    · exact nomatch hresult
    · obtain ⟨-, hdisk, -⟩ := load_ends hactive hfailing hload
      rw [← hdisk] at hactive hsnapshot
      exact ⟨_, _, _, _, _, hrender, hsnapshot, hactive, rfl, hpersist⟩
    · exact nomatch hresult
  | upToDate hrender hactivate hpersist =>
    rcases Ruleset.activate_ends hactivate
      with ⟨-, rfl, bytes, hread, hdigest⟩ | ⟨hresult, -⟩ | ⟨e, hresult, -⟩
    · exact ⟨_, _, _, _, bytes, hrender, .refl _ _, (Disk.read_eq_ok.1 hread).2, hdigest, hpersist⟩
    · exact nomatch hresult
    · exact nomatch hresult

/-- **What is there after a cycle that went well**: the snapshot, a ruleset with the digest of what
was rendered, and the state if there is a cache. -/
theorem ok_cycle_leaves (hdistinct : r.Distinct) {outcome : Outcome}
    (h : Cycle.exec (r.cycle (World.loader b)) cache w = ((.ok outcome, cache'), w')) :
    ∃ text compiled, r.rendered cache w = .ok (text, compiled) ∧
    cache' = cache.map (·.purge w.clock) ∧
      outcome.rejected = compiled.rejected.size ∧ w.disk.Spared r.snapshotPath w'.disk ∧
      (∃ bytes, w'.disk.contents? r.rulesetPath = .ok bytes ∧
        Digest.ofBytes bytes = Digest.ofText text) ∧
      (cache.isSome = true →
        w'.disk.contents? r.statePath = .ok (Saved.text compiled.states).toUTF8) := by
  obtain ⟨text, compiled, changed, w₁, bytes, hrender, hsnapshot, hactive, hdigest, hpersist⟩ :=
    settled_of_ok hdistinct h
  obtain ⟨hruleset, hspared⟩ := hdistinct.spared_persist hpersist
  obtain ⟨hcache, -, ⟨hresult, hsaved, -⟩ | ⟨e, hresult, -⟩⟩ := persist_ends hpersist
  · cases hresult
    exact ⟨text, compiled, hrender, hcache, rfl, hsnapshot.trans hspared,
      ⟨bytes, hruleset.found bytes hactive, hdigest⟩,
      fun hsome => hsaved (by rw [Option.isSome_map, hsome])⟩
  · exact nomatch hresult

/-! ### The next cycle -/

/-- Between two cycles the snapshot and the ruleset are left alone, and what the second
cycle does with files can be done. -/
structure Undisturbed (r : Reconciler) (w w' : World) : Prop where
  snapshot : ∀ bytes, w.disk.contents? r.snapshotPath = .ok bytes →
    w'.disk.contents? r.snapshotPath = .ok bytes
  ruleset : ∀ bytes, w.disk.contents? r.rulesetPath = .ok bytes →
    w'.disk.contents? r.rulesetPath = .ok bytes
  snapshot_readable : w'.disk.failing (.read r.snapshotPath) = none
  ruleset_readable : w'.disk.failing (.read r.rulesetPath) = none
  saves : ∀ states, (Work.exec (Saved.save r.statePath states) w').1 = .ok ()

theorem persist_of_saves
    (hsaves : (Work.exec (Saved.save r.statePath compiled.states) w).1 = .ok ()) (changed : Bool)
    (cache : Option Cache) :
    (Cycle.exec (r.persist changed compiled) cache w).1.1 =
      .ok ⟨changed, compiled.rejected.size⟩ := by
  rw [exec_persist]
  split
  · exact congrArg (Except.map _) hsaves
  · rfl

/--
**A cycle with nothing new changes nothing.**  Where a cycle went well and the next one finds the
snapshot and the ruleset as they were left, a cache that was told nothing in between, and nothing
expired that was rendered: the next cycle goes well, has changed nothing and refused as many rules,
hands nothing over, leaves the ruleset file alone and saves the same state if there is a cache.
-/
theorem idle_cycle_changes_nothing (hdistinct : r.Distinct)
    (hreach : ∀ c ∈ cache, ∃ forwarder operations, c = (Cache.fresh forwarder).history operations)
    {outcome : Outcome}
    (hfirst : Cycle.exec (r.cycle (World.loader b)) cache w = ((.ok outcome, cache'), w'))
    {later : World} (hclock : w.clock ≤ later.clock) (hundisturbed : r.Undisturbed w' later)
    {operations : List Cache.Operation} (hidle : ∀ o ∈ operations, o.Idle later.clock)
    (hlive : ∀ c ∈ cache, ∀ s ∈ c.setsForRendering w.clock, later.clock < s.expiration)
    (b' : Behaviour) :
    ∃ after, Cycle.exec (r.cycle (World.loader b')) (cache'.map (·.history operations)) later
        = ((.ok ⟨false, outcome.rejected⟩,
          (cache'.map (·.history operations)).map (·.purge later.clock)), after) ∧
      after.handovers = later.handovers ∧ later.disk.Spared r.rulesetPath after.disk ∧
      (cache.isSome = true → ∃ bytes, w'.disk.contents? r.statePath = .ok bytes ∧
        after.disk.contents? r.statePath = .ok bytes) ∧
      (cache.isSome = false → after = later) := by
  have hconsistent : ∀ c ∈ cache, c.Consistent := by
    intro c hc
    obtain ⟨forwarder, earlier, rfl⟩ := hreach c hc
    exact (Cache.Consistent.fresh forwarder).history earlier
  obtain ⟨text, compiled, hrender, rfl, hrejected, hspared, ⟨bytes, hactive, hdigest⟩, hsaved⟩ :=
    ok_cycle_leaves hdistinct hfirst
  -- the snapshot is read as it was, and renders to the same
  obtain ⟨snapshot, hread⟩ := exists_read_of_rendered hrender
  have hreadLater : later.disk.read r.snapshotPath = .ok snapshot := by
    have hfound := hspared.found snapshot (Disk.read_eq_ok.1 hread).2
    exact Disk.read_eq_ok.2 ⟨hundisturbed.snapshot_readable, hundisturbed.snapshot snapshot hfound⟩
  have hrenderLater : r.rendered ((cache.map (·.purge w.clock)).map (·.history operations)) later
      = .ok (text, compiled) := by
    rw [rendered_eq, hread] at hrender
    rw [rendered_eq, hreadLater, ← hrender]
    exact congrArg _ (funext (renderSnapshot_of_idle hconsistent hclock hidle hlive))
  -- the ruleset has the digest of that, so only the state is saved
  have hrulesetLater : later.disk.read r.rulesetPath = .ok bytes :=
    Disk.read_eq_ok.2 ⟨hundisturbed.ruleset_readable, hundisturbed.ruleset bytes hactive⟩
  have hcycle : Cycle.exec (r.cycle (World.loader b')) _ later = _ :=
    exec_cycle_of_digest (exec_renderAt_of_ok hrenderLater) hrulesetLater hdigest
  rcases hpersist : Cycle.exec (r.persist false compiled)
    (((cache.map (·.purge w.clock)).map (·.history operations)).map (·.purge later.clock)) later
    with ⟨⟨result, cache''⟩, after⟩
  have hok := persist_of_saves (hundisturbed.saves compiled.states) false
    (((cache.map (·.purge w.clock)).map (·.history operations)).map (·.purge later.clock))
  rw [hpersist] at hok
  obtain ⟨hcache, hhanded, ⟨hresult, hstate, hnone⟩ | ⟨e, hresult, -⟩⟩ := persist_ends hpersist
  · refine ⟨after, ?_, hhanded, (hdistinct.spared_persist hpersist).1, ?_, ?_⟩
    · rw [hcycle, hpersist, hresult, hcache, hrejected]
    · intro hsome
      exact ⟨_, hsaved hsome, hstate (by simpa using hsome)⟩
    · intro hnothing
      exact hnone (by simpa using hnothing)
  · rw [hresult] at hok
    exact nomatch hok

/-- The world after a first ruleset was accepted and the state was saved. -/
def acceptedWorld (text : String) (compiled : Compiled) : World where
  disk := {
    nodes := .insert ["state.json"] (.file (Saved.text compiled.states).toUTF8)
      (refusedWorld text).disk.nodes }
  clock := default
  handovers := [.checked "nftwall.nft.new" (.ok text.toUTF8),
    .loaded "nftwall.nft" (.ok text.toUTF8) true]

theorem sample_accepted {c : Cache}
    (hrender : sample.renderSnapshot {} (some (c.purge default)) default
    = .ok (text, compiled)) : Cycle.exec (sample.cycle (World.loader {})) (some c) sampleWorld
      = ((.ok ⟨true, compiled.rejected.size⟩, some (c.purge default)),
        acceptedWorld text compiled) := by
  have hload : Work.exec (Snapshot.load sample.snapshotPath) sampleWorld = (.ok {}, sampleWorld) :=
    rfl
  have hclock : sampleWorld.clock = default := rfl
  rw [exec_cycle, cycleAt_eq, Cycle.exec_bind, exec_renderAt, hload]
  dsimp only [Option.map_some]
  rw [hclock, hrender]
  rfl

/-- A minute later, before anything expires, the second cycle finds nothing to do, even if the
loader would refuse everything by then. -/
theorem sample_idle_cycle :
    let cache := (Cache.fresh default).history Cache.sampleHistory
    let purges := [Cache.Operation.event (.purge (.ofSeconds 1700000030))]
    ∃ text compiled, Cycle.exec (sample.cycle (World.loader {})) (some cache) sampleWorld
        = ((.ok ⟨true, compiled.rejected.size⟩, some (cache.purge default)),
          acceptedWorld text compiled) ∧
      let later := { acceptedWorld text compiled with clock := .ofSeconds 1700000059 }
      ∃ cache' after,
        Cycle.exec (sample.cycle (World.loader refusal))
          (some ((cache.purge default).history purges)) later
          = ((.ok ⟨false, compiled.rejected.size⟩, cache'), after) ∧
        after.handovers = later.handovers ∧ after.disk.held "nftwall.nft" = some text.toUTF8 ∧
        after.disk.contents? "state.json" = .ok (Saved.text compiled.states).toUTF8 := by
  intro cache purges
  obtain ⟨text, compiled, hrender⟩ : ∃ text compiled,
      sample.renderSnapshot {} (some (cache.purge default)) default = .ok (text, compiled) :=
        ⟨_, _, rfl⟩
  have hfirst := sample_accepted hrender
  refine ⟨text, compiled, hfirst, ?_⟩
  intro later
  have hundisturbed : sample.Undisturbed (acceptedWorld text compiled) later :=
    ⟨fun _ h => h, fun _ h => h, rfl, rfl, fun _ => rfl⟩
  have hlive : ∀ c ∈ some cache, ∀ s ∈ c.setsForRendering sampleWorld.clock,
      later.clock < s.expiration := by
    rintro c ⟨⟩
    show ∀ s ∈ cache.setsForRendering default, Instant.ofSeconds 1700000059 < s.expiration
    decide +kernel
  have hidle : ∀ o ∈ purges, o.Idle later.clock := by
    rintro o ho
    rw [List.mem_singleton.1 ho]
    show Instant.ofSeconds 1700000030 ≤ Instant.ofSeconds 1700000059
    decide
  have hclock : sampleWorld.clock ≤ later.clock :=
    show (default : Instant) ≤ .ofSeconds 1700000059 by decide
  have hreach : ∀ c ∈ some cache, ∃ forwarder operations,
      c = (Cache.fresh forwarder).history operations := by
    rintro c ⟨⟩
    exact ⟨_, _, rfl⟩
  obtain ⟨after, hcycle, hhanded, hruleset, hstate, -⟩ :=
    idle_cycle_changes_nothing sample_distinct hreach hfirst hclock hundisturbed hidle hlive refusal
  obtain ⟨bytes, hbytes, hsame⟩ := hstate rfl
  have hsaved : (acceptedWorld text compiled).disk.contents? sample.statePath
      = .ok (Saved.text compiled.states).toUTF8 := rfl
  rw [hsaved] at hbytes
  cases hbytes
  exact ⟨_, after, hcycle, hhanded, hruleset.held, hsame⟩

end Firewall.Reconciler
