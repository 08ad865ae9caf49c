/-
What a cycle leaves behind, however far it gets.

A cycle is given up at the first step that fails, so there are few ways in which it can end
(`Steps`), and each is read off what the steps before it did.  Three facts about the steps carry the
rest.  The active file is replaced in one request, by a text that was checked before
(`Ruleset.activate_ends`).  Nothing but that file is ever loaded, and only when it has just been
replaced.  And the state is saved last, also in one request (`Saved.save_ends`).

The five files have to be different ones.  Where two paths lead to one place, writing the
one file would be writing the other.
-/
import Firewall.Proofs.Reconcile.Run

namespace Firewall.Reconciler

/-! ### The files of a cycle -/

/-- The paths of the files that a cycle reads and writes. -/
def files (r : Reconciler) : List String :=
  [r.snapshotPath, r.rulesetPath, Ruleset.stagedName r.rulesetPath, r.statePath,
    Saved.stagedName r.statePath]

/-- The files of a cycle are different files. -/
def Distinct (r : Reconciler) : Prop := (r.files.map Disk.target).Nodup

instance (r : Reconciler) : Decidable r.Distinct := inferInstanceAs (Decidable (List.Nodup _))

variable {r : Reconciler} {b : Behaviour} {cache cache' : Option Cache} {w w' : World}
  {text : String}
  {compiled : Compiled}

theorem Distinct.spared_activate (h : r.Distinct) {result : Except Error Bool}
    (hactivate : Work.exec (Ruleset.activate (World.loader b) r.rulesetPath text) w =
      (result, w')) :
    w.disk.Spared r.statePath w'.disk ∧ w.disk.Spared r.snapshotPath w'.disk := by
  simp only [Distinct, files, List.map_cons, List.map_nil, List.nodup_cons,
    List.mem_cons, not_or] at h
  obtain ⟨⟨hruleset, hstaged, -⟩, ⟨-, hstate, -⟩, ⟨hstagedState, -⟩, -⟩ := h
  have hw' : (Work.exec (Ruleset.activate (World.loader b) r.rulesetPath text) w).2 = w' := by
    rw [hactivate]
  rw [← hw']
  exact ⟨Ruleset.keeps_spared_activate hstagedState hstate w.disk w (.refl _ _),
    Ruleset.keeps_spared_activate (Ne.symm hstaged) (Ne.symm hruleset) w.disk w (.refl _ _)⟩

theorem Distinct.spared_persist (h : r.Distinct) {changed : Bool} {result : Except Error Outcome}
    (hpersist : Cycle.exec (r.persist changed compiled) cache w = ((result, cache'), w')) :
    w.disk.Spared r.rulesetPath w'.disk ∧ w.disk.Spared r.snapshotPath w'.disk := by
  simp only [Distinct, files, List.map_cons, List.map_nil, List.nodup_cons,
    List.mem_cons, not_or] at h
  obtain ⟨⟨-, -, hstate, hstaged, -⟩, ⟨-, hstateRuleset, hstagedRuleset, -⟩, -⟩ := h
  rw [exec_persist] at hpersist
  split at hpersist
  · cases hpersist
    exact ⟨Saved.keeps_spared_save (Ne.symm hstagedRuleset)
      (Ne.symm hstateRuleset) w.disk w (.refl _ _),
      Saved.keeps_spared_save (Ne.symm hstaged) (Ne.symm hstate) w.disk w (.refl _ _)⟩
  · cases hpersist
    exact ⟨.refl _ _, .refl _ _⟩

/-! ### How far a cycle gets -/

/-- What a cycle renders: the text, and what it was compiled to. -/
def rendered (r : Reconciler) (cache : Option Cache) (w : World) :
    Except Error (String × Compiled) :=
  (Cycle.exec (r.renderAt w.clock) cache w).1.1

/-- The ways in which a cycle can end: it renders nothing, or does not activate what it rendered,
or the loader refuses what was activated, or it gets to the state, with a ruleset that was loaded
or with one that was up to date. -/
inductive Steps (r : Reconciler) (b : Behaviour) (cache : Option Cache) (w : World) :
    Except Error Outcome → Option Cache → World → Prop
  | notRendered {e : Error} (hrender : r.rendered cache w = .error e) (cache' : Option Cache) :
    Steps r b cache w (.error e) cache' w
  | notActivated {text : String} {compiled : Compiled} {e : Error} {w' : World}
    (hrender : r.rendered cache w = .ok (text, compiled))
    (hactivate : Work.exec (Ruleset.activate (World.loader b) r.rulesetPath text) w =
      (.error e, w')) :
    Steps r b cache w (.error e) (cache.map (·.purge w.clock)) w'
  | refused {text : String} {compiled : Compiled} {e : Error} {w₁ w' : World}
    (hrender : r.rendered cache w = .ok (text, compiled))
    (hactivate : Work.exec (Ruleset.activate (World.loader b) r.rulesetPath text) w =
      (.ok true, w₁))
    (hload : Work.exec ((World.loader b).load r.rulesetPath) w₁ = (.error e, w')) :
    Steps r b cache w (.error e) (cache.map (·.purge w.clock)) w'
  | loaded {text : String} {compiled : Compiled} {w₁ w₂ w' : World} {result : Except Error Outcome}
    {cache' : Option Cache} (hrender : r.rendered cache w = .ok (text, compiled))
    (hactivate : Work.exec (Ruleset.activate (World.loader b) r.rulesetPath text) w =
      (.ok true, w₁))
    (hload : Work.exec ((World.loader b).load r.rulesetPath) w₁ = (.ok (), w₂))
    (hpersist : Cycle.exec (r.persist true compiled) (cache.map (·.purge w.clock)) w₂ =
      ((result, cache'), w')) :
    Steps r b cache w result cache' w'
  | upToDate {text : String} {compiled : Compiled} {w₁ w' : World} {result : Except Error Outcome}
    {cache' : Option Cache} (hrender : r.rendered cache w = .ok (text, compiled))
    (hactivate : Work.exec (Ruleset.activate (World.loader b) r.rulesetPath text) w =
      (.ok false, w₁))
    (hpersist : Cycle.exec (r.persist false compiled) (cache.map (·.purge w.clock)) w₁ =
      ((result, cache'), w')) :
    Steps r b cache w result cache' w'

theorem exec_renderAt_of_ok (h : r.rendered cache w = .ok (text, compiled)) :
    Cycle.exec (r.renderAt w.clock) cache w =
      ((.ok (text, compiled), cache.map (·.purge w.clock)), w) := by
  have hworld := Snapshot.load_world r.snapshotPath w
  unfold rendered at h
  rw [exec_renderAt] at h ⊢
  rcases hload : Work.exec (Snapshot.load r.snapshotPath) w with ⟨e | snapshot, w₁⟩
  · rw [hload] at h
    exact nomatch h
  · rw [hload] at h hworld
    dsimp only at h hworld ⊢
    rw [h, hworld]

/-- **Every cycle ends in one of these ways.** -/
theorem steps_of_cycle {result : Except Error Outcome}
    (h : Cycle.exec (r.cycle (World.loader b)) cache w = ((result, cache'), w')) :
    r.Steps b cache w result cache' w' := by
  rw [exec_cycle, cycleAt_eq, Cycle.exec_bind] at h
  cases hrender : r.rendered cache w with
  | error e =>
    obtain ⟨⟨answer, purged⟩, hanswer⟩ := r.renderAt_world w.clock cache w
    have hfailed : answer = .error e := by
      unfold rendered at hrender
      rw [hanswer] at hrender
      exact hrender
    rw [hanswer, hfailed] at h
    cases h
    exact .notRendered hrender _
  | ok made =>
    obtain ⟨text, compiled⟩ := made
    rw [exec_renderAt_of_ok hrender] at h
    dsimp only at h
    unfold install at h
    rw [Cycle.exec_bind, Cycle.exec_lift] at h
    rcases hactivate :
      Work.exec (Ruleset.activate (World.loader b) r.rulesetPath text) w with ⟨e | changed, w₁⟩
    · rw [hactivate] at h
      cases h
      exact .notActivated hrender hactivate
    · rw [hactivate] at h
      dsimp only at h
      cases changed with
      | false => exact .upToDate hrender hactivate h
      | true =>
        rw [if_pos rfl, Cycle.exec_bind, Cycle.exec_lift] at h
        rcases hload : Work.exec ((World.loader b).load r.rulesetPath) w₁ with ⟨e | ⟨⟨⟩⟩, w₂⟩
        · rw [hload] at h
          cases h
          exact .refused hrender hactivate hload
        · rw [hload] at h
          exact .loaded hrender hactivate hload h

/-- **What ends a cycle**: the state is saved if there is a cache; it is
the last thing that can fail. -/
theorem persist_ends {changed : Bool} {result : Except Error Outcome}
    (h : Cycle.exec (r.persist changed compiled) cache w = ((result, cache'), w')) :
    cache' = cache ∧ w'.handovers = w.handovers ∧
      ((result = .ok ⟨changed, compiled.rejected.size⟩ ∧
          (cache.isSome = true →
            w'.disk.contents? r.statePath = .ok (Saved.text compiled.states).toUTF8) ∧
          (cache.isSome = false → w' = w)) ∨
        ∃ e, result = .error e ∧ w'.disk.held r.statePath = w.disk.held r.statePath) := by
  rw [exec_persist] at h
  cases cache with
  | none =>
    cases h
    exact ⟨rfl, rfl, .inl ⟨rfl, fun hsome => absurd hsome Bool.false_ne_true, fun _ => rfl⟩⟩
  | some c =>
    have hhanded :
        (Work.exec (Saved.save r.statePath compiled.states) w).2.handovers = w.handovers :=
      Saved.keeps_handovers_save w.handovers w rfl
    simp only [Option.isSome_some, if_true] at h
    rcases hsave : Work.exec (Saved.save r.statePath compiled.states) w with ⟨saved, w₁⟩
    rw [hsave] at h hhanded
    rcases Saved.save_ends hsave with ⟨rfl, hheld⟩ | ⟨e, rfl, hheld⟩
    · cases h
      exact ⟨rfl, hhanded,
        .inl ⟨rfl, fun _ => hheld, fun hnone => absurd hnone.symm Bool.false_ne_true⟩⟩
    · cases h
      exact ⟨rfl, hhanded, .inr ⟨e, rfl, hheld⟩⟩

theorem load_ends {w₁ : World} {result : Except Error Unit}
    (hactive : w₁.disk.contents? r.rulesetPath = .ok text.toUTF8)
    (hfailing : w₁.disk.failing = w.disk.failing)
    (h : Work.exec ((World.loader b).load r.rulesetPath) w₁ = (result, w')) :
    result = b.load r.rulesetPath (w.disk.reading r.rulesetPath text.toUTF8) ∧ w'.disk = w₁.disk ∧
      w'.handovers = w₁.handovers
        ++ [.loaded r.rulesetPath (w.disk.reading r.rulesetPath text.toUTF8) result.isOk] := by
  rw [World.exec_load, Disk.read_of_contents? hactive, Disk.reading_congr hfailing] at h
  cases h
  exact ⟨rfl, rfl, rfl⟩

/-! ### What is left behind -/

/-- The handover of a staged text to be checked. -/
def checkOf (r : Reconciler) (w : World) (text : String) : Handover :=
  .checked (Ruleset.stagedName r.rulesetPath)
    (w.disk.reading (Ruleset.stagedName r.rulesetPath) text.toUTF8)

/-- The check accepts a staged text. -/
def Accepts (r : Reconciler) (b : Behaviour) (w : World) (text : String) : Prop :=
  b.check (Ruleset.stagedName r.rulesetPath)
    (w.disk.reading (Ruleset.stagedName r.rulesetPath) text.toUTF8) = .ok ()

/-- The handover of an active text to be loaded. -/
def loadOf (r : Reconciler) (w : World) (text : String) (accepted : Bool) : Handover :=
  .loaded r.rulesetPath (w.disk.reading r.rulesetPath text.toUTF8) accepted

/-- What is left of the ruleset and the snapshot when some files have been handed over. -/
structure LeavesRuleset (r : Reconciler) (b : Behaviour) (cache : Option Cache) (w w' : World)
    (handed : List Handover) : Prop where
  handovers : w'.handovers = w.handovers ++ handed
  /-- The snapshot file is as it was. -/
  snapshot : w'.disk.held r.snapshotPath = w.disk.held r.snapshotPath
  /-- The ruleset file is as it was, or it is the rendered text, and the
  check has accepted that very text. -/
  ruleset : w'.disk.held r.rulesetPath = w.disk.held r.rulesetPath ∨
    ∃ text compiled, r.rendered cache w = .ok (text, compiled) ∧
    w'.disk.held r.rulesetPath = some text.toUTF8 ∧
      r.checkOf w text ∈ handed ∧ r.Accepts b w text
  /-- Nothing is handed over, or a staged file to be checked, or first the rendered text to be
  checked, which is accepted, and then the ruleset file to be loaded, which holds that text. -/
  calls : handed = [] ∨
    (∃ contents, handed = [.checked (Ruleset.stagedName r.rulesetPath) contents]) ∨
    ∃ text compiled accepted, r.rendered cache w = .ok (text, compiled) ∧ r.Accepts b w text ∧
      w'.disk.held r.rulesetPath = some text.toUTF8 ∧
      handed = [r.checkOf w text, r.loadOf w text accepted]

/-- What a cycle leaves behind. -/
structure Leaves (r : Reconciler) (b : Behaviour) (cache : Option Cache) (w : World)
    (result : Except Error Outcome) (w' : World) (handed : List Handover) :
    Prop extends LeavesRuleset r b cache w w' handed where
  /-- The state file is as it was, or it is the whole state, the cycle
  went well and there is a cache. -/
  state : w'.disk.held r.statePath = w.disk.held r.statePath ∨
    ∃ text compiled outcome, r.rendered cache w = .ok (text, compiled) ∧
      w'.disk.held r.statePath = some (Saved.text compiled.states).toUTF8 ∧ cache.isSome = true ∧
      result = .ok outcome
  /-- If the cycle went well, the ruleset was up to date, or it was accepted and loaded; and the
  state is saved if there is a cache. -/
  completed : ∀ outcome, result = .ok outcome →
    ∃ text compiled, r.rendered cache w = .ok (text, compiled) ∧
    outcome.rejected = compiled.rejected.size ∧
    (outcome.changed = false ∧ handed = [] ∨
      outcome.changed = true ∧ r.Accepts b w text ∧
      handed = [r.checkOf w text, r.loadOf w text true]) ∧
    (cache.isSome = true → w'.disk.held r.statePath = some (Saved.text compiled.states).toUTF8)

namespace LeavesRuleset

variable {handed : List Handover} {w₁ : World}

theorem refl : r.LeavesRuleset b cache w w [] where
  handovers := (List.append_nil _).symm
  snapshot := rfl
  ruleset := .inl rfl
  calls := .inl rfl

theorem of_notActivated {e : Error} (hdistinct : r.Distinct)
    (h : Work.exec (Ruleset.activate (World.loader b) r.rulesetPath text) w = (.error e, w')) :
    ∃ handed, r.LeavesRuleset b cache w w' handed := by
  have hspared := (hdistinct.spared_activate h).2
  rcases Ruleset.activate_ends h
    with ⟨hresult, -⟩ | ⟨hresult, -⟩ | ⟨-, -, -, hruleset, hhanded | ⟨contents, hhanded⟩⟩
  · exact nomatch hresult
  · exact nomatch hresult
  · exact ⟨[], by rw [hhanded, List.append_nil], hspared.held, .inl hruleset.held, .inl rfl⟩
  · exact ⟨_, hhanded, hspared.held, .inl hruleset.held, .inr (.inl ⟨contents, rfl⟩)⟩

theorem of_load {result : Except Error Unit} (hdistinct : r.Distinct)
    (hrender : r.rendered cache w = .ok (text, compiled))
    (hactivate : Work.exec (Ruleset.activate (World.loader b) r.rulesetPath text) w =
      (.ok true, w₁))
    (hload : Work.exec ((World.loader b).load r.rulesetPath) w₁ = (result, w')) :
    r.LeavesRuleset b cache w w' [r.checkOf w text, r.loadOf w text result.isOk] ∧
      w.disk.Spared r.statePath w'.disk ∧ r.Accepts b w text := by
  obtain ⟨hstate, hsnapshot⟩ := hdistinct.spared_activate hactivate
  rcases Ruleset.activate_ends hactivate with
    ⟨hresult, -⟩ | ⟨-, hactive, hfailing, -, haccepts, hchecked⟩ | ⟨e, hresult, -⟩
  · exact nomatch hresult
  · obtain ⟨-, hdisk, hloaded⟩ := load_ends hactive hfailing hload
    have hheld : w'.disk.held r.rulesetPath = some text.toUTF8 := by
      rw [hdisk, Disk.held_of_contents? hactive]
    refine ⟨⟨?_, by rw [hdisk, hsnapshot.held], ?_, ?_⟩, by rwa [hdisk], haccepts⟩
    · rw [hloaded, hchecked, List.append_assoc]
      rfl
    · exact .inr ⟨text, compiled, hrender, hheld, List.mem_cons_self, haccepts⟩
    · exact .inr (.inr ⟨text, compiled, result.isOk, hrender, haccepts, hheld, rfl⟩)
  · exact nomatch hresult

theorem persist {changed : Bool} {c c' : Option Cache} {result : Except Error Outcome}
    (hdistinct : r.Distinct) (h : r.LeavesRuleset b cache w w₁ handed)
    (hpersist : Cycle.exec (r.persist changed compiled) c w₁ = ((result, c'), w')) :
    r.LeavesRuleset b cache w w' handed := by
  obtain ⟨hruleset, hsnapshot⟩ := hdistinct.spared_persist hpersist
  obtain ⟨-, hhanded, -⟩ := persist_ends hpersist
  refine ⟨hhanded.trans h.handovers, hsnapshot.held.trans h.snapshot, ?_, ?_⟩
  · rw [hruleset.held]
    exact h.ruleset
  · rw [hruleset.held]
    exact h.calls

end LeavesRuleset

namespace Leaves

variable {handed : List Handover} {w₁ : World}

theorem of_error {e : Error} (h : r.LeavesRuleset b cache w w' handed)
    (hstate : w.disk.Spared r.statePath w'.disk) :
    r.Leaves b cache w (.error e) w' handed where
  toLeavesRuleset := h
  state := .inl hstate.held
  completed _ houtcome := nomatch houtcome

theorem of_persist {changed : Bool} {result : Except Error Outcome} (hdistinct : r.Distinct)
    (hrender : r.rendered cache w = .ok (text, compiled)) (h : r.LeavesRuleset b cache w w₁ handed)
    (hstate : w.disk.Spared r.statePath w₁.disk)
    (hchanged : changed = false ∧ handed = [] ∨
      changed = true ∧ r.Accepts b w text ∧ handed = [r.checkOf w text, r.loadOf w text true])
    (hpersist : Cycle.exec (r.persist changed compiled) (cache.map (·.purge w.clock)) w₁ =
      ((result, cache'), w')) :
    r.Leaves b cache w result w' handed := by
  have hruleset := h.persist hdistinct hpersist
  obtain ⟨-, -, ⟨rfl, hsaved, hnone⟩ | ⟨e, rfl, hheld⟩⟩ := persist_ends hpersist
  · have hencoding : cache.isSome = true →
        w'.disk.held r.statePath = some (Saved.text compiled.states).toUTF8 :=
      fun hsome => Disk.held_of_contents? (hsaved (by rw [Option.isSome_map, hsome]))
    refine ⟨hruleset, ?_, ?_⟩
    · cases hsome : cache.isSome with
      | true => exact .inr ⟨text, compiled, _, hrender, hencoding hsome, rfl, rfl⟩
      | false =>
        rw [hnone (by rw [Option.isSome_map, hsome])]
        exact .inl hstate.held
    · rintro outcome ⟨⟩
      exact ⟨text, compiled, hrender, rfl, hchanged, hencoding⟩
  · exact ⟨hruleset, .inl (hheld.trans hstate.held), fun outcome houtcome => nomatch houtcome⟩

end Leaves

/--
**A cycle leaves nothing half done and nothing unchecked, however far it gets.**  Where its files
are different ones, what was handed over in it and what its files hold are as `Leaves` says: the
ruleset file is as it was or a text that was checked and accepted, only such a text is loaded, and
the state file is as it was or complete.
-/
theorem cycle_leaves (hdistinct : r.Distinct) {result : Except Error Outcome}
    (h : Cycle.exec (r.cycle (World.loader b)) cache w = ((result, cache'), w')) :
    ∃ handed, r.Leaves b cache w result w' handed := by
  cases steps_of_cycle h with
  | notRendered hrender => exact ⟨[], .of_error .refl (.refl _ _)⟩
  | notActivated hrender hactivate =>
    obtain ⟨handed, hruleset⟩ := LeavesRuleset.of_notActivated hdistinct hactivate
    exact ⟨handed, .of_error hruleset (hdistinct.spared_activate hactivate).1⟩
  | refused hrender hactivate hload =>
    obtain ⟨hruleset, hstate, -⟩ := LeavesRuleset.of_load hdistinct hrender hactivate hload
    exact ⟨_, .of_error hruleset hstate⟩
  | loaded hrender hactivate hload hpersist =>
    obtain ⟨hruleset, hstate, haccepts⟩ := LeavesRuleset.of_load hdistinct hrender hactivate hload
    exact ⟨_, .of_persist hdistinct hrender hruleset hstate (.inr ⟨rfl, haccepts, rfl⟩) hpersist⟩
  | upToDate hrender hactivate hpersist =>
    rcases Ruleset.activate_ends hactivate with ⟨-, rfl, -⟩ | ⟨hresult, -⟩ | ⟨e, hresult, -⟩
    · exact ⟨[], .of_persist hdistinct hrender .refl (.refl _ _) (.inl ⟨rfl, rfl⟩) hpersist⟩
    · exact nomatch hresult
    · exact nomatch hresult

theorem sample_distinct : sample.Distinct := by decide

/-- The loader refuses a first ruleset: it was checked and is active, and was
handed over once; there is no state. -/
theorem sample_leaves_refused : sample.Distinct ∧ ∃ text compiled result cache',
    sample.rendered none sampleWorld = .ok (text, compiled) ∧
    Cycle.exec (sample.cycle (World.loader refusal)) none sampleWorld =
      ((result, cache'), refusedWorld text) ∧
    sample.Leaves refusal none sampleWorld result (refusedWorld text)
      [sample.checkOf sampleWorld text, sample.loadOf sampleWorld text false] := by
  obtain ⟨text, compiled, hrender⟩ : ∃ text compiled,
    sample.renderSnapshot {} none default = .ok (text, compiled) :=
    ⟨_, _, rfl⟩
  have hrendered : sample.rendered none sampleWorld = .ok (text, compiled) := by
    have hload : Work.exec (Snapshot.load sample.snapshotPath) sampleWorld =
      (.ok {}, sampleWorld) := rfl
    unfold rendered
    rw [exec_renderAt, hload]
    exact hrender
  rcases hcycle :
    Cycle.exec (sample.cycle (World.loader refusal)) none sampleWorld with ⟨⟨result, cache'⟩, w'⟩
  have hw' : w' = refusedWorld text := by rw [← sample_refused hrender, hcycle]
  rw [hw'] at hcycle
  obtain ⟨handed, hleaves⟩ := cycle_leaves sample_distinct hcycle
  have hhanded : handed = [sample.checkOf sampleWorld text, sample.loadOf sampleWorld text false] :=
    hleaves.handovers.symm
  rw [hhanded] at hleaves
  exact ⟨sample_distinct, text, compiled, result, cache', hrendered, congrArg _ hw', hleaves⟩

end Firewall.Reconciler
