/-
What saving a state does to its file, and to the others.

A state is written under another name and then renamed, so its own file holds the
whole of it or what it held (`save_ends`).  The folders that are created on the
way take no file away and make none.
-/
import Firewall.Proofs.Machine.Spared
import Firewall.Proofs.Ruleset.Loader
import Firewall.State.Store

namespace Firewall.Saved

open World (Untouched)

theorem keeps_save {path other : String} {w₀ : World} {bytes : ByteArray}
    (hpath : Disk.target path ≠ Disk.target other)
    (hstaged : Disk.target (stagedName path) ≠ Disk.target other)
    (hheld : w₀.disk.contents? other = .ok bytes) (states : PolicyStates) :
    Work.Keeps (Untouched other w₀) (save path states) := by
  unfold save
  have hwrite : Work.Keeps (Untouched other w₀) (do
      Work.request (Machine.write (stagedName path) (text states).toUTF8)
      Work.request (Machine.rename (stagedName path) path)) :=
    .bind (.request fun w h => h.trans (.write hstaged _)) fun _ =>
      .request fun w h => h.trans (.rename hstaged hpath)
  split
  · refine .bind (.request fun w h => ?_) fun _ => hwrite
    exact h.trans (.createFolders ((h.contents bytes).2 hheld) _)
  · exact hwrite

theorem target_stagedName_ne (path : String) : Disk.target (stagedName path) ≠ Disk.target path :=
  Disk.target_append_ne (by decide) (by decide)

/-- What is asked of the machine before a state is renamed. -/
def stage {m : Type → Type} [Monad m] [Machine m] (path : String) (states : PolicyStates) :
    Work m Unit := do
  match Path.parent? path with
  | some folder => Work.request (Machine.createFolders folder)
  | none => pure ()
  Work.request (Machine.write (stagedName path) (text states).toUTF8)

theorem save_eq (path : String) (states : PolicyStates) :
    (save path states : Work (StateM World) Unit)
    = stage path states >>= fun _ => Work.request (Machine.rename (stagedName path) path) := by
  unfold save stage
  cases Path.parent? path with
  | some folder => simp only [bind_assoc]
  | none => rfl

variable {path other : String} {states : PolicyStates} {w w' : World}

theorem keeps_spared_stage (h : Disk.target (stagedName path) ≠ Disk.target other) (d : Disk) :
    Work.Keeps (fun w => d.Spared other w.disk) (stage path states) := by
  unfold stage
  have hwrite : Work.Keeps (fun w => d.Spared other w.disk)
      (Work.request (Machine.write (stagedName path) (text states).toUTF8)) :=
    .request fun w hw => hw.trans (.write h _)
  split
  · exact .bind (.request fun w hw => hw.trans (.createFolders other _ _)) fun _ => hwrite
  · exact hwrite

/-- Saving a state spares every file but the saved one and the staged one. -/
theorem keeps_spared_save (hstaged : Disk.target (stagedName path) ≠ Disk.target other)
    (hpath : Disk.target path ≠ Disk.target other) (d : Disk) :
    Work.Keeps (fun w => d.Spared other w.disk) (save path states) := by
  rw [save_eq]
  refine (keeps_spared_stage hstaged d).bind fun _ => .request fun w hw => ?_
  exact hw.trans (.rename hstaged hpath)

theorem contents?_of_stage (h : Work.exec (stage path states) w = (.ok (), w')) :
    w'.disk.contents? (stagedName path) = .ok (text states).toUTF8 := by
  have hwrite : ∀ {w₁ : World},
      Work.exec (Work.request (Machine.write (stagedName path) (text states).toUTF8)) w₁ =
        (.ok (), w') →
      w'.disk.contents? (stagedName path) = .ok (text states).toUTF8 := by
    intro w₁ hexec
    have hrun := Work.exec_request_eq_ok.1 hexec
    have hok : (w₁.disk.write (stagedName path) (text states).toUTF8).1 = .ok () :=
      congrArg Prod.fst hrun
    have hdisk : (w₁.disk.write (stagedName path) (text states).toUTF8).2 = w'.disk :=
      congrArg (·.2.disk) hrun
    rw [← hdisk]
    exact Disk.contents?_write_self hok
  unfold stage at h
  split at h
  · obtain ⟨⟨⟩, w₁, -, hexec⟩ := Work.exec_bind_eq_ok.1 h
    exact hwrite hexec
  · exact hwrite h

theorem keeps_handovers_save (handovers : List Handover) :
    Work.Keeps (fun w => w.handovers = handovers) (save path states) := by
  have hrename : Work.Keeps (fun w => w.handovers = handovers)
      (Work.request (Machine.rename (stagedName path) path)) := .request fun w hw => hw
  have hwrite : Work.Keeps (fun w => w.handovers = handovers)
      (Work.request (Machine.write (stagedName path) (text states).toUTF8)) :=
        .request fun w hw => hw
  unfold save
  split
  · exact .bind (.request fun w hw => hw) fun _ => hwrite.bind fun _ => hrename
  · exact hwrite.bind fun _ => hrename

/-- **Saving a state puts the whole of it in its file, or fails and leaves that file alone.** -/
theorem save_ends {result : Except Error Unit} (h : Work.exec (save path states) w = (result, w')) :
    (result = .ok () ∧ w'.disk.contents? path = .ok (text states).toUTF8) ∨
      ∃ e, result = .error e ∧ w'.disk.held path = w.disk.held path := by
  have hspared : w.disk.Spared path (Work.exec (stage path states) w).2.disk :=
    keeps_spared_stage (target_stagedName_ne path) w.disk w (.refl path w.disk)
  rw [save_eq, Work.exec_bind] at h
  rcases hstage : Work.exec (stage path states) w with ⟨e | ⟨⟨⟩⟩, w₁⟩
  · rw [hstage] at h hspared
    cases h
    exact .inr ⟨e, rfl, hspared.held⟩
  · rw [hstage] at h hspared
    dsimp only at h
    rw [Work.exec_request] at h
    have hrun : (Machine.rename (stagedName path) path : StateM World _).run w₁
        = ((w₁.disk.rename (stagedName path) path).1,
          { w₁ with disk := (w₁.disk.rename (stagedName path) path).2 }) := rfl
    rw [hrun] at h
    cases hrename : (w₁.disk.rename (stagedName path) path).1 with
    | error fault =>
      rw [hrename] at h
      cases h
      exact .inr ⟨_, rfl, by rw [← hspared.held, Disk.rename_of_error hrename]⟩
    | ok u =>
      rw [hrename] at h
      cases h
      obtain ⟨bytes, hbytes, hgoal⟩ := Disk.contents?_rename_self hrename
      rw [contents?_of_stage hstage] at hbytes
      cases hbytes
      exact .inl ⟨rfl, hgoal⟩

end Firewall.Saved
