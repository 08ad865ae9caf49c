/-
Files that a request spares.

What a file holds can be asked in two ways: along its path, which fails if a folder on the
way is missing (`contents?`), or at the place where the path ends, whether or not the way
there is open (`held`).  Only the second stays the same when folders are created, because
these can open a way; and only along the first is anything ever read.  A request spares
every file whose path ends elsewhere: the file holds what it held, and whatever could be
found along its path is still found (`Spared`).
-/
import Firewall.Proofs.Machine.Disk

namespace Firewall.Disk

/-- What is held at the place where a path ends, if there is a file. -/
def held (d : Disk) (path : String) : Option ByteArray :=
  match d.at? (target path) with
  | some (.file bytes) => some bytes
  | _ => none

theorem held_of_contents? {d : Disk} {path : String} {bytes : ByteArray}
    (h : d.contents? path = .ok bytes) :
    d.held path = some bytes := by
  unfold held
  rw [(contents?_eq_ok.1 h).2]

theorem held_congr {d d' : Disk} {path : String} (h : d'.at? (target path) = d.at? (target path)) :
    d'.held path = d.held path := by
  unfold held
  rw [h]

/-- A file is spared: it holds what it held, and is found where it was. -/
structure Spared (path : String) (d d' : Disk) : Prop where
  held : d'.held path = d.held path
  found : ∀ bytes, d.contents? path = .ok bytes → d'.contents? path = .ok bytes
  failing : d'.failing = d.failing

namespace Spared

variable {path other : String} {d d₁ d₂ : Disk}

theorem refl (path : String) (d : Disk) : Spared path d d := ⟨rfl, fun _ h => h, rfl⟩

theorem trans (h : Spared path d d₁) (h' : Spared path d₁ d₂) : Spared path d d₂ :=
  ⟨h'.held.trans h.held, fun bytes hbytes => h'.found bytes (h.found bytes hbytes),
    h'.failing.trans h.failing⟩

theorem ofOnlyAt {places : List Place} (h : OnlyAt places d d₁) (hpath : target path ∉ places) :
    Spared path d d₁ :=
  ⟨held_congr (h.elsewhere _ hpath), fun bytes => (h.contents? hpath bytes).2, h.failing⟩

theorem write (h : target other ≠ target path) (bytes : ByteArray) :
    Spared path d (d.write other bytes).2 :=
  .ofOnlyAt (onlyAt_write d other bytes) (by simpa using h.symm)

theorem rename {goal : String} (hsource : target other ≠ target path)
    (hgoal : target goal ≠ target path) :
    Spared path d (d.rename other goal).2 :=
  .ofOnlyAt (onlyAt_rename d other goal) (by simpa using ⟨hsource.symm, hgoal.symm⟩)

end Spared

/-! ### Folders that are created -/

private theorem held_put_folder {d : Disk} {p : Place} (h : d.at? p = none) (path : String) :
    (d.put p .folder).held path = d.held path := by
  by_cases hp : p = target path
  · unfold held
    rw [at?_put, ← hp, h]
    split
    · rename_i bytes hfile
      split at hfile
      · exact nomatch hfile
      · rw [if_pos rfl] at hfile
        exact nomatch hfile
    · rfl
  · exact held_congr (at?_put_of_ne hp _)

private theorem held_create (d : Disk) (p : Place) (names : List (List Char)) (path : String) :
    (d.create p names).2.held path = d.held path := by
  induction names generalizing d p with
  | nil => rfl
  | cons name rest ih =>
    unfold create
    dsimp only
    split
    · rfl
    · split
      · exact ih _ _
      · rfl
      · rename_i hnone
        rw [ih, held_put_folder hnone]

theorem Spared.createFolders (path : String) (d : Disk) (folder : String) :
    Spared path d (d.createFolders folder).2 := by
  refine ⟨?_, fun bytes => contents?_createFolders, failing_createFolders d folder⟩
  unfold Disk.createFolders
  split
  · rfl
  · exact held_create _ _ _ _

/-! ### Requests that do nothing when they fail -/

theorem rename_of_error {d : Disk} {source goal : String} {fault : Fault}
    (h : (d.rename source goal).1 = .error fault) : (d.rename source goal).2 = d := by
  rcases rename_cases d source goal with ⟨_, heq⟩ | ⟨_, -, -, -, heq⟩
  · rw [heq]
  · rw [heq] at h
    exact nomatch h

/-! ### Reading what is there -/

/-- What reading a file gives that holds something, where the disk may
have its own reasons to refuse. -/
def reading (d : Disk) (path : String) (bytes : ByteArray) : Except Fault ByteArray :=
  (d.checkRequest (.read path)).map fun _ => bytes

theorem reading_congr {d d' : Disk} (h : d'.failing = d.failing) (path : String)
    (bytes : ByteArray) :
    d'.reading path bytes = d.reading path bytes := by
  unfold reading checkRequest
  rw [h]

theorem read_of_contents? {d : Disk} {path : String} {bytes : ByteArray}
    (h : d.contents? path = .ok bytes) :
    d.read path = d.reading path bytes := by
  unfold read reading
  rw [h]
  cases d.checkRequest (.read path) <;> rfl

end Firewall.Disk
