/-
What is in force after many cycles.

Between cycles anything may happen, as long as nobody else writes the active file or loads a
ruleset.  Then whatever the active file holds is what was handed to the loader last
(`Reachable.handed`), because a cycle that puts a text into the file hands that text over, and
no cycle hands over anything else.

That is not yet what is in force: the loader may have refused it.  The cycle in which it did
fails, but the file keeps the text, so the next cycle finds nothing changed and loads nothing
(`Reconciler.exec_cycle_of_active`).  Hence a cycle that goes well leaves the active ruleset in
force exactly if the loader accepted it when it was handed over, or had the same in
force before (`ok_cycle_in_force_iff`).
-/
import Firewall.Proofs.Reconcile.Cycle

namespace Firewall.Reconciler

/-- The worlds between cycles, in which nobody else writes the active file or loads a ruleset. -/
inductive Reachable (r : Reconciler) : World → Prop
  | start {w : World} (hmissing : ∀ bytes, w.disk.contents? r.rulesetPath ≠ .ok bytes)
    (hloads : w.loads = [])
      (hhonest : w.disk.Honest r.rulesetPath) : Reachable r w
  | cycle {w : World} (h : Reachable r w) (b : Behaviour) (cache : Option Cache) :
      Reachable r (Cycle.exec (r.cycle (World.loader b)) cache w).2
  | elsewhere {w w' : World} (h : Reachable r w)
      (hcontents : ∀ bytes,
        w'.disk.contents? r.rulesetPath = .ok bytes ↔ w.disk.contents? r.rulesetPath = .ok bytes)
      (hloads : w'.loads = w.loads) (hhonest : w'.disk.Honest r.rulesetPath) : Reachable r w'

variable {r : Reconciler} {w : World}

/-- What cycles keep: the active file holds what was handed over last. -/
structure Handed (r : Reconciler) (w : World) : Prop where
  last : ∀ bytes, w.disk.contents? r.rulesetPath = .ok bytes →
    ∃ earlier accepted, w.loads = earlier ++ [⟨.ok bytes, accepted⟩]
  honest : w.disk.Honest r.rulesetPath

theorem Handed.cycle (hapart : r.Apart) (h : r.Handed w) (b : Behaviour) (cache : Option Cache) :
    r.Handed (Cycle.exec (r.cycle (World.loader b)) cache w).2 := by
  rcases hcycle : Cycle.exec (r.cycle (World.loader b)) cache w with ⟨⟨result, cache'⟩, w'⟩
  rcases cycle_cases hapart h.honest hcycle
    with ⟨huntouched, -⟩ | ⟨bytes, accepted, hheld, hloads, hfailing, -⟩
  · constructor
    · intro bytes hbytes
      rw [huntouched.loads]
      exact h.last bytes ((huntouched.contents bytes).1 hbytes)
    · unfold Disk.Honest
      rw [huntouched.failing]
      exact h.honest
  · constructor
    · intro bytes' hbytes'
      rw [hheld] at hbytes'
      cases hbytes'
      exact ⟨w.loads, accepted, hloads⟩
    · unfold Disk.Honest
      rw [hfailing]
      exact h.honest

/-- **The active file holds what was handed over last**, after any number of cycles. -/
theorem Reachable.handed (hapart : r.Apart) (h : r.Reachable w) : r.Handed w := by
  induction h with
  | start hmissing hloads hhonest =>
    exact ⟨fun bytes hbytes => absurd hbytes (hmissing bytes), hhonest⟩
  | cycle _ b cache ih => exact ih.cycle hapart b cache
  | elsewhere _ hcontents hloads hhonest ih =>
    constructor
    · intro bytes hbytes
      rw [hloads]
      exact ih.last bytes ((hcontents bytes).1 hbytes)
    · exact hhonest

/--
**After a cycle that goes well the active ruleset is in force exactly if the loader accepted
it**, when it was handed over last or with the load before that it accepted.  It did if the
cycle changed anything.
-/
theorem ok_cycle_in_force_iff (hapart : r.Apart) (hreach : r.Reachable w) {b : Behaviour}
    {cache cache' : Option Cache} {w' : World} {outcome : Outcome}
    (h : Cycle.exec (r.cycle (World.loader b)) cache w = ((.ok outcome, cache'), w')) :
    ∃ earlier bytes accepted, w'.disk.contents? r.rulesetPath = .ok bytes ∧
      w'.loads = earlier ++ [⟨.ok bytes, accepted⟩] ∧
      (w'.inForce? = some bytes ↔ accepted = true ∨ Load.inForce? earlier = some bytes) ∧
      (outcome.changed = true → accepted = true) := by
  have hhanded := hreach.handed hapart
  have hiff : ∀ (earlier : List Load) (bytes : ByteArray) (accepted : Bool),
      w'.loads = earlier ++ [⟨.ok bytes, accepted⟩] →
      (w'.inForce? = some bytes ↔ accepted = true ∨ Load.inForce? earlier = some bytes) := by
    intro earlier bytes accepted hloads
    unfold World.inForce?
    rw [hloads, Load.inForce?_append]
    cases accepted with
    | true => simp
    | false => simp
  rcases cycle_cases hapart hhanded.honest h
    with ⟨huntouched, hresult⟩ | ⟨bytes, accepted, hheld, hloads, -, hresult⟩
  · obtain ⟨hunchanged, bytes, hheld⟩ := hresult outcome rfl
    obtain ⟨earlier, accepted, hlast⟩ := hhanded.last bytes ((huntouched.contents bytes).1 hheld)
    have hloads := huntouched.loads.trans hlast
    refine ⟨earlier, bytes, accepted, hheld, hloads, hiff _ _ _ hloads, fun hchanged => ?_⟩
    rw [hunchanged] at hchanged
    exact absurd hchanged Bool.false_ne_true
  · exact ⟨w.loads, bytes, accepted, hheld, hloads, hiff _ _ _ hloads,
      fun _ => (hresult outcome rfl).2⟩

/-! ### A ruleset that is refused once -/

/-- Cycles with nothing but a snapshot. -/
def sample : Reconciler where
  snapshotPath := "snapshot.toml"
  statePath := "state.json"
  rulesetPath := "nftwall.nft"
  options := {}
  clusterPrefixes := ∅
  rateLimits := []
  nat := []
  listen := default

/-- The world with an empty snapshot, in which no ruleset is active. -/
def sampleWorld : World where
  disk := { nodes := .insert ["snapshot.toml"] (.file "".toUTF8) ∅ }
  clock := default

/-- The loader that accepts nothing. -/
def refusal : Behaviour where
  load _ _ := .error (.commandFailed "nft -f nftwall.nft" "permission denied")

/-- The world after a first ruleset was refused. -/
def refusedWorld (text : String) : World where
  disk := { nodes := .insert ["nftwall.nft"] (.file text.toUTF8) sampleWorld.disk.nodes }
  clock := default
  handovers := [.checked "nftwall.nft.new" (.ok text.toUTF8),
    .loaded "nftwall.nft" (.ok text.toUTF8) false]

theorem sample_apart : sample.Apart := ⟨by decide, by decide⟩

private theorem sample_start : sample.Reachable sampleWorld := by
  refine .start ?_ rfl ?_
  · intro bytes hbytes
    have hmissing : sampleWorld.disk.contents? sample.rulesetPath = .error .notFound := rfl
    rw [hmissing] at hbytes
    exact nomatch hbytes
  · intro failure hfailing
    exact nomatch hfailing

variable {text : String} {compiled : Compiled}

theorem sample_refused (hrender : sample.renderSnapshot {} none default = .ok (text, compiled)) :
    (Cycle.exec (sample.cycle (World.loader refusal)) none sampleWorld).2 = refusedWorld text := by
  have hload : Work.exec (Snapshot.load sample.snapshotPath) sampleWorld = (.ok {}, sampleWorld) :=
    rfl
  have hclock : sampleWorld.clock = default := rfl
  rw [exec_cycle, cycleAt_eq, Cycle.exec_bind, exec_renderAt, hload]
  dsimp only [Option.map_none]
  rw [hclock, hrender]
  rfl

private theorem sample_unchanged
    (hrender : sample.renderSnapshot {} none default = .ok (text, compiled)) :
    Cycle.exec (sample.cycle (World.loader {})) none (refusedWorld text) =
      ((.ok ⟨false, compiled.rejected.size⟩, none), refusedWorld text) := by
  have hload : Work.exec (Snapshot.load sample.snapshotPath) (refusedWorld text) =
    (.ok {}, refusedWorld text) := rfl
  have hread : (refusedWorld text).disk.read sample.rulesetPath = .ok text.toUTF8 := rfl
  have hrendered : Cycle.exec (sample.renderAt (refusedWorld text).clock) none (refusedWorld text)
      = ((.ok (text, compiled), none), refusedWorld text) := by
    rw [exec_renderAt, hload]
    exact congrArg (fun rendered => ((rendered, none), refusedWorld text)) hrender
  rw [exec_cycle_of_active hrendered hread, exec_persist]
  rfl

/-- The condition speaks of the cycle after the one that was refused. -/
theorem ok_cycle_after_refusal : sample.Apart ∧ ∃ w outcome w', sample.Reachable w ∧
    Cycle.exec (sample.cycle (World.loader {})) none w = ((.ok outcome, none), w') ∧
    ∃ earlier bytes accepted, w'.disk.contents? sample.rulesetPath = .ok bytes ∧
      w'.loads = earlier ++ [⟨.ok bytes, accepted⟩] ∧
      (w'.inForce? = some bytes ↔ accepted = true ∨ Load.inForce? earlier = some bytes) ∧
      (outcome.changed = true → accepted = true) := by
  obtain ⟨text, compiled, hrender⟩ : ∃ text compiled,
    sample.renderSnapshot {} none default = .ok (text, compiled) :=
    ⟨_, _, rfl⟩
  have hreach := sample_start.cycle refusal none
  rw [sample_refused hrender] at hreach
  exact ⟨sample_apart, _, _, _, hreach, sample_unchanged hrender,
    ok_cycle_in_force_iff sample_apart hreach (sample_unchanged hrender)⟩

/-- **A cycle that goes well need not leave the active ruleset in force.** -/
theorem ok_cycle_not_in_force : ∃ w outcome w', sample.Reachable w ∧
    Cycle.exec (sample.cycle (World.loader {})) none w = ((.ok outcome, none), w') ∧
    (∃ bytes, w'.disk.contents? sample.rulesetPath = .ok bytes) ∧ w'.inForce? = none := by
  obtain ⟨text, compiled, hrender⟩ : ∃ text compiled,
    sample.renderSnapshot {} none default = .ok (text, compiled) :=
    ⟨_, _, rfl⟩
  have hreach := sample_start.cycle refusal none
  rw [sample_refused hrender] at hreach
  exact ⟨_, _, _, hreach, sample_unchanged hrender, ⟨text.toUTF8, rfl⟩, rfl⟩

end Firewall.Reconciler
