/-
What a world says about the rulesets that were loaded.

The handovers of a world are its history.  Of these only the loads tell which ruleset is in
force: the one that was accepted last.  A check reads the file that it is given, and may
remove that file, but no other; a load changes nothing except the history.
-/
import Firewall.Proofs.Machine.Disk
import Firewall.Proofs.Machine.Work
import Firewall.Ruleset.Loader

namespace Firewall

namespace Machine

variable {α : Type} {found : Except Fault α}

theorem unlessMissing_eq_some {a : α} : unlessMissing found = .ok (some a) ↔ found = .ok a := by
  rcases found with fault | a
  · cases fault <;> simp [unlessMissing]
  · simp [unlessMissing]

end Machine

/-! ### The history of loads -/

/-- A ruleset that was handed over to be loaded. -/
structure Load where
  contents : Except Fault ByteArray
  accepted : Bool

/-- What is in force after some loads: what was accepted last. -/
def Load.inForce? (loads : List Load) : Option ByteArray :=
  (loads.reverse.find? (·.accepted)).bind (·.contents.toOption)

theorem Load.inForce?_append (loads : List Load) (bytes : ByteArray) (accepted : Bool) :
    Load.inForce? (loads ++ [⟨.ok bytes, accepted⟩]) = if accepted then some bytes
      else Load.inForce? loads := by
  unfold inForce?
  rw [List.reverse_append, List.reverse_singleton, List.singleton_append, List.find?_cons]
  cases accepted with
  | true => rfl
  | false => rfl

/-- The load that a handover was. -/
def Handover.load? : Handover → Option Load
  | .checked _ _ => none
  | .loaded _ contents accepted => some ⟨contents, accepted⟩

namespace World

/-- The loads of a world, the first one first. -/
def loads (w : World) : List Load := w.handovers.filterMap Handover.load?

/-- The ruleset that is in force. -/
def inForce? (w : World) : Option ByteArray := Load.inForce? w.loads

/-! ### The loader -/

theorem exec_check (b : Behaviour) (path : String) (w : World) :
    Work.exec ((loader b).check path) w = (b.check path (w.disk.read path),
      { w with
        disk := if b.removesChecked then (w.disk.remove path).2 else w.disk
        handovers := w.handovers ++ [.checked path (w.disk.read path)] }) := by
  obtain ⟨check, removesChecked, load⟩ := b
  cases removesChecked with
  | true => rfl
  | false => rfl

theorem exec_load (b : Behaviour) (path : String) (w : World) :
    Work.exec ((loader b).load path) w = (b.load path (w.disk.read path),
      { w with handovers := w.handovers ++
          [.loaded path (w.disk.read path) (b.load path (w.disk.read path)).isOk] }) := rfl

/-- A load that can read the file is noted with what the file holds, and with the verdict. -/
theorem exec_load_of_read {b : Behaviour} {path : String} {w : World} {bytes : ByteArray}
    (hread : w.disk.read path = .ok bytes) :
    ∃ w', Work.exec ((loader b).load path) w = (b.load path (.ok bytes), w') ∧
      w'.disk = w.disk ∧ w'.loads = w.loads ++ [⟨.ok bytes, (b.load path (.ok bytes)).isOk⟩] := by
  rw [exec_load, hread]
  exact ⟨_, rfl, rfl, List.filterMap_append⟩

/-! ### A file that is left alone -/

/-- A world in which a file holds what it held in another, and nothing was loaded since. -/
structure Untouched (path : String) (w w' : World) : Prop where
  contents : ∀ bytes, w'.disk.contents? path = .ok bytes ↔ w.disk.contents? path = .ok bytes
  loads : w'.loads = w.loads
  failing : w'.disk.failing = w.disk.failing

theorem Untouched.refl (path : String) (w : World) : Untouched path w w :=
  ⟨fun _ => Iff.rfl, rfl, rfl⟩

theorem Untouched.trans {path : String} {w w₁ w₂ : World} (h : Untouched path w w₁)
    (h' : Untouched path w₁ w₂) :
    Untouched path w w₂ :=
  ⟨fun bytes => (h'.contents bytes).trans (h.contents bytes), h'.loads.trans h.loads,
    h'.failing.trans h.failing⟩

variable {path other : String} {w : World}

theorem Untouched.ofDisk {d : Disk}
    (hcontents : ∀ bytes, d.contents? path = .ok bytes ↔ w.disk.contents? path = .ok bytes)
    (hfailing : d.failing = w.disk.failing) : Untouched path w { w with disk := d } :=
  ⟨hcontents, rfl, hfailing⟩

theorem Untouched.write (h : Disk.target other ≠ Disk.target path) (bytes : ByteArray) :
    Untouched path w { w with disk := (w.disk.write other bytes).2 } :=
  .ofDisk (Disk.contents?_write h bytes) (Disk.failing_write _ _ _)

theorem Untouched.rename {goal : String} (hsource : Disk.target other ≠ Disk.target path)
    (hgoal : Disk.target goal ≠ Disk.target path) :
    Untouched path w { w with disk := (w.disk.rename other goal).2 } :=
  .ofDisk (Disk.contents?_rename hsource hgoal) (Disk.failing_rename _ _ _)

/-- Folders that are created take no file away, though one may come to light. -/
theorem Untouched.createFolders {bytes : ByteArray} (h : w.disk.contents? path = .ok bytes)
    (folder : String) :
    Untouched path w { w with disk := (w.disk.createFolders folder).2 } := by
  refine .ofDisk ?_ (Disk.failing_createFolders _ _)
  intro held
  rw [h, Disk.contents?_createFolders h]

end World

end Firewall
