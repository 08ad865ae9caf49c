/-
What one cycle does to the active ruleset file and to the history of loads.

Rendering asks the machine for nothing but the snapshot, and saving the state afterwards
writes to other files.  What is left is the activation, and the load after an activation that
changed something: a cycle either leaves the active file and the history alone, or the
file holds a new text and that very text was handed to the loader (`cycle_cases`).  Whether
the loader accepted it only says how the cycle ended.
-/
import Firewall.Proofs.Ruleset.Activation
import Firewall.Proofs.State.Store
import Firewall.Reconcile.Cycle

namespace Firewall

open World (Untouched)

/-! ### Parts of a cycle -/

namespace Cycle

variable {α β : Type}

/-- The cache that a cycle works with. -/
def cache {m : Type → Type} [Monad m] : Cycle m (Option Cache) := get

/-- Changes the cache. -/
def change {m : Type → Type} [Monad m] (f : Option Cache → Option Cache) : Cycle m Unit := modify f

/-- Does a part of a cycle with a cache, in a world. -/
def exec (part : Cycle (StateM World) α) (cache : Option Cache) (w : World) :
    (Except Error α × Option Cache) × World := (part.run.run cache).run w

section

variable (cache : Option Cache) (w : World)

theorem exec_change (f : Option Cache → Option Cache) :
    exec (change f) cache w = ((.ok (), f cache), w) := rfl

theorem exec_cache : exec Cycle.cache cache w = ((.ok cache, cache), w) := rfl

theorem exec_lift (work : Work (StateM World) α) :
    exec work cache w = (((Work.exec work w).1, cache), (Work.exec work w).2) := rfl

theorem exec_bind (part : Cycle (StateM World) α) (next : α → Cycle (StateM World) β) :
    exec (part >>= next) cache w = match exec part cache w with
      | ((.ok a, cache'), w') => exec (next a) cache' w'
      | ((.error e, cache'), w') => ((.error e, cache'), w') := by
  unfold exec
  rw [ExceptT.run_bind, StateT.run_bind, StateT.run_bind]
  rcases (part.run.run cache).run w with ⟨⟨_ | a, cache'⟩, w'⟩ <;> rfl

end

end Cycle

/-! ### Rendering -/

/-- What was read, as a text. -/
def Machine.asText : Except Fault ByteArray → Except Fault String
  | .error fault => .error fault
  | .ok contents =>
    match String.fromUTF8? contents with
    | some text => .ok text
    | none => .error .notText

theorem World.run_readText (path : String) (w : World) :
    (Machine.readText path : StateM World _).run w = (Machine.asText (w.disk.read path), w) := by
  unfold Machine.readText
  rw [StateT.run_bind]
  have hread : (Machine.read path : StateM World _).run w = (w.disk.read path, w) := rfl
  rw [hread]
  cases w.disk.read path with
  | error fault => rfl
  | ok contents => rfl

/-- The snapshot that a file gives, by what was read from it. -/
def Snapshot.ofRead (path : String) (found : Except Fault ByteArray) : Except Error Snapshot :=
  match Machine.asText found with
  | .error fault => .error (.system fault)
  | .ok text =>
    match Snapshot.ofText? text with
    | some snapshot => .ok snapshot
    | none => .error (.snapshotMalformed path)

theorem Snapshot.exec_load (path : String) (w : World) :
    Work.exec (Snapshot.load path) w = (Snapshot.ofRead path (w.disk.read path), w) := by
  unfold Snapshot.load Snapshot.ofRead
  rw [Work.exec_bind, Work.exec_request, World.run_readText]
  cases Machine.asText (w.disk.read path) with
  | error fault => rfl
  | ok text =>
    dsimp only
    cases Snapshot.ofText? text with
    | none => rfl
    | some snapshot => rfl

theorem Snapshot.load_world (path : String) (w : World) :
    (Work.exec (Snapshot.load path) w).2 = w := by
  rw [Snapshot.exec_load]

namespace Reconciler

variable {r : Reconciler}

/-- Rendering depends on the snapshot, on the time, and on the cache, which it purges. -/
theorem exec_renderAt (now : Instant) (cache : Option Cache) (w : World) :
    Cycle.exec (r.renderAt now) cache w = match Work.exec (Snapshot.load r.snapshotPath) w with
      | (.ok snapshot, w') =>
        ((r.renderSnapshot snapshot (cache.map (·.purge now)) now, cache.map (·.purge now)), w')
      | (.error e, w') => ((.error e, cache), w') := by
  unfold renderAt
  rw [Cycle.exec_bind, Cycle.exec_lift]
  rcases Work.exec (Snapshot.load r.snapshotPath) w with ⟨e | snapshot, w'⟩
  · rfl
  · show Cycle.exec
      (Cycle.change (Option.map (·.purge now)) >>= fun _ => Cycle.cache >>= fun c => _) cache w' = _
    rw [Cycle.exec_bind, Cycle.exec_change]
    dsimp only
    rw [Cycle.exec_bind, Cycle.exec_cache]
    dsimp only
    cases r.renderSnapshot snapshot (cache.map (·.purge now)) now with
    | error e => rfl
    | ok rendered => rfl

theorem renderAt_world (now : Instant) (cache : Option Cache) (w : World) :
    ∃ answer, Cycle.exec (r.renderAt now) cache w = (answer, w) := by
  have hworld := Snapshot.load_world r.snapshotPath w
  rw [exec_renderAt]
  rcases hload : Work.exec (Snapshot.load r.snapshotPath) w with ⟨e | snapshot, w'⟩
  · rw [hload] at hworld
    exact ⟨_, congrArg (Prod.mk _) hworld⟩
  · rw [hload] at hworld
    exact ⟨_, congrArg (Prod.mk _) hworld⟩

/-! ### What is done with a text -/

section

variable {m : Type → Type} [Monad m] [Machine m]

/-- What ends a cycle. -/
def persist (r : Reconciler) (changed : Bool) (compiled : Compiled) : Cycle m Outcome := do
  let cache ← Cycle.cache
  if cache.isSome then (Saved.save r.statePath compiled.states : Work m Unit)
  return ⟨changed, compiled.rejected.size⟩

/-- What a cycle does with a rendered text. -/
def install (r : Reconciler) (loader : Loader m) (rendered : String × Compiled) :
    Cycle m Outcome := do
  let changed ← (Ruleset.activate loader r.rulesetPath rendered.1 : Work m Bool)
  if changed then
    loader.load r.rulesetPath
    r.persist changed rendered.2
  else r.persist changed rendered.2

theorem cycleAt_eq (loader : Loader m) (now : Instant) :
    r.cycleAt loader now = r.renderAt now >>= r.install loader := rfl

end

theorem exec_cycle (loader : Loader (StateM World)) (cache : Option Cache) (w : World) :
    Cycle.exec (r.cycle loader) cache w = Cycle.exec (r.cycleAt loader w.clock) cache w := by
  unfold cycle
  rw [Cycle.exec_bind]
  rfl

/-- Saving is the last thing that can fail; without a cache there is nothing to save. -/
theorem exec_persist (changed : Bool) (compiled : Compiled) (cache : Option Cache) (w : World) :
    Cycle.exec (r.persist changed compiled) cache w =
      if cache.isSome then
        let saved := Work.exec (Saved.save r.statePath compiled.states) w
        ((saved.1.map fun _ => ⟨changed, compiled.rejected.size⟩, cache), saved.2)
      else ((.ok ⟨changed, compiled.rejected.size⟩, cache), w) := by
  unfold persist
  rw [Cycle.exec_bind, Cycle.exec_cache]
  cases cache with
  | none => rfl
  | some c =>
    simp only [Option.isSome_some, if_true]
    rw [Cycle.exec_bind, Cycle.exec_lift]
    rcases Work.exec (Saved.save r.statePath compiled.states) w with ⟨e | u, w'⟩
    · rfl
    · rfl

/-- **A cycle that renders what has the digest of the active ruleset
does nothing but save the state.** -/
theorem exec_cycle_of_digest {loader : Loader (StateM World)} {cache cache' : Option Cache}
    {w : World} {text : String} {compiled : Compiled}
    (hrender : Cycle.exec (r.renderAt w.clock) cache w = ((.ok (text, compiled), cache'), w))
    {bytes : ByteArray} (hread : w.disk.read r.rulesetPath = .ok bytes)
    (hdigest : Digest.ofBytes bytes = Digest.ofText text) :
    Cycle.exec (r.cycle loader) cache w = Cycle.exec (r.persist false compiled) cache' w := by
  rw [exec_cycle, cycleAt_eq, Cycle.exec_bind, hrender]
  dsimp only
  unfold install
  rw [Cycle.exec_bind, Cycle.exec_lift, Ruleset.exec_activate_of_digest loader hread hdigest]
  rfl

theorem exec_cycle_of_active {loader : Loader (StateM World)} {cache cache' : Option Cache}
    {w : World} {text : String} {compiled : Compiled}
    (hrender : Cycle.exec (r.renderAt w.clock) cache w = ((.ok (text, compiled), cache'), w))
    (hread : w.disk.read r.rulesetPath = .ok text.toUTF8) :
    Cycle.exec (r.cycle loader) cache w = Cycle.exec (r.persist false compiled) cache' w :=
  exec_cycle_of_digest hrender hread rfl

/-- No other file that is written is the active ruleset. -/
structure Apart (r : Reconciler) : Prop where
  state : Disk.target r.statePath ≠ Disk.target r.rulesetPath
  staged : Disk.target (Saved.stagedName r.statePath) ≠ Disk.target r.rulesetPath

/-- What ends a cycle leaves the active file alone, and tells what changed. -/
theorem persist_cases {changed : Bool} {compiled : Compiled} {cache cache' : Option Cache}
    {w w' : World} {result : Except Error Outcome} {bytes : ByteArray} (hapart : r.Apart)
    (hheld : w.disk.contents? r.rulesetPath = .ok bytes)
    (h : Cycle.exec (r.persist changed compiled) cache w = ((result, cache'), w')) :
    Untouched r.rulesetPath w w' ∧ ∀ outcome, result = .ok outcome → outcome.changed = changed := by
  rw [exec_persist] at h
  split at h
  · cases h
    refine ⟨Saved.keeps_save hapart.state hapart.staged hheld compiled.states w (.refl _ w), ?_⟩
    intro outcome houtcome
    rcases hsaved : (Work.exec (Saved.save r.statePath compiled.states) w).1 with e | u
    · rw [hsaved] at houtcome
      exact nomatch houtcome
    · rw [hsaved] at houtcome
      cases houtcome
      rfl
  · cases h
    refine ⟨.refl _ w, ?_⟩
    rintro outcome ⟨⟩
    rfl

/-! ### How a cycle ends -/

/-- **A cycle leaves the active ruleset and the history of loads alone,
or hands a new one over.** -/
theorem cycle_cases {b : Behaviour} {cache cache' : Option Cache} {w w' : World}
    {result : Except Error Outcome} (hapart : r.Apart) (hhonest : w.disk.Honest r.rulesetPath)
    (h : Cycle.exec (r.cycle (World.loader b)) cache w = ((result, cache'), w')) :
    (Untouched r.rulesetPath w w' ∧ ∀ outcome, result = .ok outcome →
        outcome.changed = false ∧ ∃ bytes, w'.disk.contents? r.rulesetPath = .ok bytes) ∨
      ∃ bytes accepted, w'.disk.contents? r.rulesetPath = .ok bytes ∧
      w'.loads = w.loads ++ [⟨.ok bytes, accepted⟩] ∧
        w'.disk.failing = w.disk.failing ∧
        ∀ outcome, result = .ok outcome → outcome.changed = true ∧ accepted = true := by
  rw [exec_cycle, cycleAt_eq, Cycle.exec_bind] at h
  obtain ⟨⟨rendered | ⟨text, compiled⟩, cache₁⟩, hrender⟩ := r.renderAt_world w.clock cache w
  · rw [hrender] at h
    cases h
    exact .inl ⟨.refl _ w, fun outcome houtcome => nomatch houtcome⟩
  rw [hrender] at h
  dsimp only at h
  unfold install at h
  rw [Cycle.exec_bind, Cycle.exec_lift] at h
  rcases hactivate :
    Work.exec (Ruleset.activate (World.loader b) r.rulesetPath text) w with ⟨activated, w₁⟩
  rw [hactivate] at h
  rcases Ruleset.activate_cases hhonest hactivate with
    ⟨rfl, hsame, bytes, hread, -⟩ | ⟨rfl, hread, hloads, hfailing⟩ | ⟨e, rfl, huntouched⟩
  -- the text was active: all that is done is to save the state
  · rw [hsame] at h
    have hheld := (Disk.read_eq_ok.1 hread).2
    obtain ⟨huntouched, hresult⟩ := persist_cases hapart hheld h
    exact .inl ⟨huntouched, fun outcome houtcome =>
      ⟨hresult outcome houtcome, bytes, (huntouched.contents bytes).2 hheld⟩⟩
  -- the text is active now, and is loaded
  · have hheld := (Disk.read_eq_ok.1 hread).2
    dsimp only at h
    obtain ⟨w₂, hload, hdisk, hloaded⟩ := World.exec_load_of_read (b := b) hread
    rw [if_pos rfl, Cycle.exec_bind, Cycle.exec_lift, hload] at h
    rw [← hdisk] at hheld hfailing
    rw [hloads] at hloaded
    refine .inr ⟨text.toUTF8, (b.load r.rulesetPath (.ok text.toUTF8)).isOk, ?_⟩
    cases hverdict : b.load r.rulesetPath (.ok text.toUTF8) with
    | error e =>
      rw [hverdict] at h hloaded
      cases h
      exact ⟨hheld, hloaded, hfailing, fun outcome houtcome => nomatch houtcome⟩
    | ok u =>
      rw [hverdict] at h hloaded
      obtain ⟨huntouched, hresult⟩ := persist_cases hapart hheld h
      exact ⟨(huntouched.contents _).2 hheld, huntouched.loads.trans hloaded,
        huntouched.failing.trans hfailing,
        fun outcome houtcome => ⟨hresult outcome houtcome, rfl⟩⟩
  -- the activation failed
  · cases h
    exact .inl ⟨huntouched, fun outcome houtcome => nomatch houtcome⟩

end Reconciler

end Firewall
