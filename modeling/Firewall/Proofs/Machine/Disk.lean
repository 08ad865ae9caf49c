/-
What a request to the disk does to the other files.

Where a path leads depends on the path alone (`target`); the disk only says whether the
way there is open.  So a file is read off the places on the way, which have to be folders,
and the place at its end (`contents?_eq_ok`).  A request changes the place that its own
path leads to, and never one that is a folder, so the way to another file stays as open as
it was: that file keeps what it holds.

Why a staged file is never the file it is staged for: its path has the same folders and a
longer last name (`target_append_ne`).
-/
import Firewall.Machine.Disk
import Firewall.Proofs.Attempt
import Firewall.Proofs.Order.Dictionary
import Firewall.Proofs.Text.Pieces

namespace Firewall.Disk

/-! ### Where a path leads -/

/-- The place that a path leads to. -/
def target (path : String) : Place := (start path).2.foldl step (start path).1

/-- The places on the way along some names, which have to be folders. -/
def route (p : Place) : List (List Char) → List Place
  | [] => []
  | name :: rest => p :: route (step p name) rest

/-- The places on the way along a path. -/
def way (path : String) : List Place := route (start path).1 (start path).2

/-- No name is too long. -/
def Short (names : List (List Char)) : Prop :=
  ∀ name ∈ names, (String.ofList name).utf8ByteSize ≤ longestName

theorem checkFolder_eq_ok {d : Disk} {p : Place} :
    d.checkFolder p = .ok () ↔ d.at? p = some .folder := by
  unfold checkFolder
  split <;> simp_all

theorem follow_eq_ok {d : Disk} {p q : Place} {names : List (List Char)} :
    d.follow p names = .ok q ↔
    (∀ r ∈ route p names, d.at? r = some .folder) ∧ Short names ∧ q = names.foldl step p := by
  induction names generalizing p with
  | nil => simp [follow, route, Short, eq_comm]
  | cons name rest ih =>
    unfold follow
    rw [Attempt.bind_eq_ok]
    simp only [route, Short, List.forall_mem_cons, List.foldl_cons]
    by_cases hlong : (String.ofList name).utf8ByteSize > longestName
    · simp [hlong, Nat.not_le.2 hlong, throw, throwThe, MonadExceptOf.throw, bind, Except.bind]
    · simp only [hlong, if_false, Nat.not_lt.1 hlong, true_and, ih, Short]
      constructor
      · rintro ⟨⟨⟩, hp, hroute, hshort, rfl⟩
        exact ⟨⟨checkFolder_eq_ok.1 hp, hroute⟩, hshort, rfl⟩
      · rintro ⟨⟨hp, hroute⟩, hshort, rfl⟩
        exact ⟨⟨⟩, checkFolder_eq_ok.2 hp, hroute, hshort, rfl⟩

/-- **A path leads to one place**, if it is a path and the way is open. -/
theorem placeOf_eq_ok {d : Disk} {path : String} {p : Place} : d.placeOf path = .ok p ↔
    checkPath path = .ok () ∧ (∀ q ∈ way path, d.at? q = some .folder) ∧ Short (start path).2 ∧
    p = target path := by
  unfold placeOf
  rw [Attempt.bind_eq_ok]
  simp only [follow_eq_ok]
  constructor
  · rintro ⟨⟨⟩, hpath, hway, hshort, heq⟩
    exact ⟨hpath, hway, hshort, heq⟩
  · rintro ⟨hpath, hway, hshort, heq⟩
    exact ⟨⟨⟩, hpath, hway, hshort, heq⟩

/-- **What a file holds** is read off the way to it and the place at its end. -/
theorem contents?_eq_ok {d : Disk} {path : String} {bytes : ByteArray} :
    d.contents? path = .ok bytes ↔
    d.placeOf path = .ok (target path) ∧ d.at? (target path) = some (.file bytes) := by
  unfold contents?
  rw [Attempt.bind_eq_ok]
  constructor
  · rintro ⟨p, hp, hfile⟩
    obtain ⟨-, -, -, rfl⟩ := placeOf_eq_ok.1 hp
    refine ⟨hp, ?_⟩
    split at hfile
    · rename_i hat
      cases hfile
      exact hat
    · exact absurd hfile (by simp [throw, throwThe, MonadExceptOf.throw])
    · exact absurd hfile (by simp [throw, throwThe, MonadExceptOf.throw])
  · rintro ⟨hp, hat⟩
    refine ⟨target path, hp, ?_⟩
    simp only [hat]
    rfl

theorem writable_eq_ok {d : Disk} {path : String} {p : Place} : d.writable path = .ok p ↔
    d.placeOf path = .ok p ∧ d.at? p ≠ some .folder := by
  unfold writable
  rw [Attempt.bind_eq_ok]
  constructor
  · rintro ⟨q, hq, h⟩
    split at h
    · exact absurd h (by simp [throw, throwThe, MonadExceptOf.throw, bind, Except.bind])
    · rename_i hfolder
      cases h
      exact ⟨hq, hfolder⟩
  · rintro ⟨hp, hfolder⟩
    refine ⟨p, hp, ?_⟩
    rw [if_neg hfolder]
    rfl

/-! ### What is at a place after a change -/

theorem at?_put (d : Disk) (p q : Place) (n : Node) :
    (d.put p n).at? q = if isGiven q then some .folder else if p = q then some n else d.at? q := by
  unfold at? put
  by_cases hgiven : isGiven q = true
  · simp [hgiven]
  · simp only [hgiven, Bool.false_eq_true, if_false]
    by_cases hp : p = q
    · rw [if_pos hp, hp, Dictionary.get?_insert_self]
    · rw [if_neg hp, Dictionary.get?_insert_of_ne hp]

theorem at?_clear (d : Disk) (p q : Place) :
    (d.clear p).at? q = if isGiven q then some .folder else if p = q then none else d.at? q := by
  unfold at? clear Dictionary.erase
  by_cases hgiven : isGiven q = true
  · simp [hgiven]
  · simp only [hgiven, Bool.false_eq_true, if_false, Dictionary.get?_filter]
    by_cases hp : p = q
    · rw [if_pos hp, hp]
      cases d.nodes.get? q with
      | none => rfl
      | some n => simp [Option.filter_some, Std.ReflCmp.compare_self]
    · have hne : ¬ compare q p = .eq := fun heq => hp (Std.LawfulEqOrd.eq_of_compare heq).symm
      rw [if_neg hp]
      cases d.nodes.get? q with
      | none => rfl
      | some n => simp [Option.filter_some, hne]

theorem isGiven_of_ne {d : Disk} {p : Place} (h : d.at? p ≠ some .folder) : isGiven p = false := by
  unfold at? at h
  by_cases hgiven : isGiven p = true
  · rw [if_pos hgiven] at h
    exact absurd rfl h
  · exact Bool.not_eq_true _ ▸ hgiven

theorem at?_put_of_ne {d : Disk} {p q : Place} (h : p ≠ q) (n : Node) :
    (d.put p n).at? q = d.at? q := by
  rw [at?_put, if_neg h]
  by_cases hq : isGiven q = true <;> simp [hq, at?]

theorem at?_clear_of_ne {d : Disk} {p q : Place} (h : p ≠ q) : (d.clear p).at? q = d.at? q := by
  rw [at?_clear, if_neg h]
  by_cases hq : isGiven q = true <;> simp [hq, at?]

/-! ### What each request can do -/

/-- **What writing can do**: nothing, or the file holds something, and what
was asked for if all went well. -/
theorem write_cases (d : Disk) (path : String) (bytes : ByteArray) :
    (∃ fault, d.write path bytes = (.error fault, d)) ∨
      ∃ result held, d.placeOf path = .ok (target path) ∧ d.at? (target path) ≠ some .folder ∧
        d.write path bytes = (result, d.put (target path) (.file held)) ∧
        (result = .ok () → held = bytes) := by
  unfold write
  cases hwritable : d.writable path with
  | error fault => exact .inl ⟨fault, rfl⟩
  | ok p =>
    obtain ⟨hplace, hfolder⟩ := writable_eq_ok.1 hwritable
    obtain ⟨-, -, -, rfl⟩ := placeOf_eq_ok.1 hplace
    cases hfailing : d.failing (.write path) with
    | none => exact .inr ⟨.ok (), bytes, hplace, hfolder, rfl, fun _ => rfl⟩
    | some failure =>
      obtain ⟨fault, written⟩ := failure
      cases written with
      | none => exact .inl ⟨fault, rfl⟩
      | some begun => exact .inr ⟨.error fault, begun, hplace, hfolder, rfl, fun h => nomatch h⟩

/-- **What removing can do**: nothing, or there is no such file any more. -/
theorem remove_cases (d : Disk) (path : String) : (∃ fault, d.remove path = (.error fault, d)) ∨
    ∃ bytes, d.contents? path = .ok bytes ∧ d.remove path = (.ok (), d.clear (target path)) := by
  unfold remove
  cases hresult : (do
    d.checkRequest (.remove path)
    let _ ← d.contents? path
    return d.clear (← d.placeOf path) : Except Fault Disk) with
  | error fault => exact .inl ⟨fault, rfl⟩
  | ok d' =>
    simp only [Attempt.bind_eq_ok, pure, Except.pure, Except.ok.injEq] at hresult
    obtain ⟨-, -, bytes, hbytes, p, hp, rfl⟩ := hresult
    obtain ⟨-, -, -, rfl⟩ := placeOf_eq_ok.1 hp
    exact .inr ⟨bytes, hbytes, rfl⟩

/-- **What renaming can do**: nothing, or the file is in the other place. -/
theorem rename_cases (d : Disk) (source goal : String) :
    (∃ fault, d.rename source goal = (.error fault, d)) ∨
    ∃ bytes, d.contents? source = .ok bytes ∧ d.placeOf goal = .ok (target goal) ∧
      d.at? (target goal) ≠ some .folder ∧
      d.rename source goal =
        (.ok (), (d.clear (target source)).put (target goal) (.file bytes)) := by
  unfold rename
  cases hresult : (do
    d.checkRequest (.rename source goal)
    let contents ← d.contents? source
    let p ← d.placeOf source
    let q ← d.writable goal
    return (d.clear p).put q (.file contents) : Except Fault Disk) with
  | error fault => exact .inl ⟨fault, rfl⟩
  | ok d' =>
    simp only [Attempt.bind_eq_ok, pure, Except.pure, Except.ok.injEq] at hresult
    obtain ⟨-, -, bytes, hbytes, p, hp, q, hq, rfl⟩ := hresult
    obtain ⟨hplace, hfolder⟩ := writable_eq_ok.1 hq
    obtain ⟨-, -, -, rfl⟩ := placeOf_eq_ok.1 hp
    obtain ⟨-, -, -, rfl⟩ := placeOf_eq_ok.1 hplace
    exact .inr ⟨bytes, hbytes, hplace, hfolder, rfl⟩

/-! ### Where a request changes something -/

/-- Two disks differ at most in the files at some places, and have the same requests fail. -/
structure OnlyAt (places : List Place) (d d' : Disk) : Prop where
  elsewhere : ∀ p, p ∉ places → d'.at? p = d.at? p
  folders : ∀ p, d'.at? p = some .folder ↔ d.at? p = some .folder
  failing : d'.failing = d.failing

namespace OnlyAt

variable {places more : List Place} {d d₁ d₂ : Disk} {p : Place}

theorem refl (places : List Place) (d : Disk) : OnlyAt places d d :=
  ⟨fun _ _ => rfl, fun _ => Iff.rfl, rfl⟩

theorem trans (h : OnlyAt places d d₁) (h' : OnlyAt places d₁ d₂) : OnlyAt places d d₂ :=
  ⟨fun p hp => (h'.elsewhere p hp).trans (h.elsewhere p hp),
    fun p => (h'.folders p).trans (h.folders p),
    h'.failing.trans h.failing⟩

theorem mono (h : OnlyAt places d d₁) (hmore : places ⊆ more) : OnlyAt more d d₁ :=
  ⟨fun p hp => h.elsewhere p fun hmem => hp (hmore hmem), h.folders, h.failing⟩

/-- Folders stay folders where a file is put, or taken away, and none is made. -/
theorem put_file (h : d.at? p ≠ some .folder) (bytes : ByteArray) :
    OnlyAt [p] d (d.put p (.file bytes)) := by
  refine ⟨fun q hq => at?_put_of_ne (fun heq => hq (List.mem_singleton.2 heq.symm)) _,
    fun q => ?_, rfl⟩
  rw [at?_put]
  by_cases hq : isGiven q = true
  · simp [hq, at?]
  · by_cases hp : p = q
    · subst hp
      simp [hq, h]
    · simp [hq, hp]

theorem clear (h : d.at? p ≠ some .folder) : OnlyAt [p] d (d.clear p) := by
  refine ⟨fun q hq => at?_clear_of_ne fun heq => hq (List.mem_singleton.2 heq.symm),
    fun q => ?_, rfl⟩
  rw [at?_clear]
  by_cases hq : isGiven q = true
  · simp [hq, at?]
  · by_cases hp : p = q
    · subst hp
      simp [hq, h]
    · simp [hq, hp]

theorem placeOf_eq_ok (h : OnlyAt places d d₁) {path : String} :
    d₁.placeOf path = .ok p ↔ d.placeOf path = .ok p := by
  simp only [Disk.placeOf_eq_ok, h.folders]

theorem contents? (h : OnlyAt places d d₁) {path : String} (hpath : target path ∉ places)
    (held : ByteArray) :
    d₁.contents? path = .ok held ↔ d.contents? path = .ok held := by
  simp only [contents?_eq_ok, h.placeOf_eq_ok, h.elsewhere _ hpath]

end OnlyAt

theorem ne_folder_of_contents? {d : Disk} {path : String} {bytes : ByteArray}
    (h : d.contents? path = .ok bytes) :
    d.at? (target path) ≠ some .folder := by
  rw [(contents?_eq_ok.1 h).2]
  simp

theorem onlyAt_write (d : Disk) (path : String) (bytes : ByteArray) :
    OnlyAt [target path] d (d.write path bytes).2 := by
  rcases write_cases d path bytes with ⟨fault, heq⟩ | ⟨result, begun, -, hfolder, heq, -⟩
  · rw [heq]
    exact .refl _ d
  · rw [heq]
    exact .put_file hfolder begun

theorem onlyAt_remove (d : Disk) (path : String) : OnlyAt [target path] d (d.remove path).2 := by
  rcases remove_cases d path with ⟨fault, heq⟩ | ⟨bytes, hbytes, heq⟩
  · rw [heq]
    exact .refl _ d
  · rw [heq]
    exact .clear (ne_folder_of_contents? hbytes)

theorem onlyAt_rename (d : Disk) (source goal : String) :
    OnlyAt [target source, target goal] d (d.rename source goal).2 := by
  rcases rename_cases d source goal with ⟨fault, heq⟩ | ⟨bytes, hbytes, -, hfolder, heq⟩
  · rw [heq]
    exact .refl _ d
  · rw [heq]
    have hclear := OnlyAt.clear (ne_folder_of_contents? hbytes)
    have hput := OnlyAt.put_file (fun hgoal => hfolder ((hclear.folders _).1 hgoal)) bytes
    exact (hclear.mono (by simp)).trans (hput.mono (by simp))

/-! ### What becomes of a file -/

theorem contents?_write {d : Disk} {path other : String} (h : target path ≠ target other)
    (bytes held : ByteArray) :
    (d.write path bytes).2.contents? other = .ok held ↔ d.contents? other = .ok held :=
  (onlyAt_write d path bytes).contents? (by simpa using h.symm) held

theorem contents?_remove {d : Disk} {path other : String} (h : target path ≠ target other)
    (held : ByteArray) :
    (d.remove path).2.contents? other = .ok held ↔ d.contents? other = .ok held :=
  (onlyAt_remove d path).contents? (by simpa using h.symm) held

theorem contents?_of_remove {d : Disk} {path other : String} {held : ByteArray}
    (h : (d.remove path).2.contents? other = .ok held) : d.contents? other = .ok held := by
  by_cases hother : target path = target other
  · rcases remove_cases d path with ⟨fault, heq⟩ | ⟨bytes, -, heq⟩
    · rwa [heq] at h
    · rw [heq] at h
      have hat := (contents?_eq_ok.1 h).2
      rw [at?_clear, if_pos hother] at hat
      split at hat <;> exact nomatch hat
  · exact (contents?_remove hother held).1 h

theorem contents?_rename {d : Disk} {source goal other : String}
    (hsource : target source ≠ target other) (hgoal : target goal ≠ target other)
    (held : ByteArray) :
    (d.rename source goal).2.contents? other = .ok held ↔ d.contents? other = .ok held :=
  (onlyAt_rename d source goal).contents? (by simpa using ⟨hsource.symm, hgoal.symm⟩) held

theorem contents?_write_self {d : Disk} {path : String} {bytes : ByteArray}
    (h : (d.write path bytes).1 = .ok ()) : (d.write path bytes).2.contents? path = .ok bytes := by
  have honly := onlyAt_write d path bytes
  rcases write_cases d path bytes with ⟨fault, heq⟩ | ⟨result, held, hplace, hfolder, heq, hheld⟩
  · rw [heq] at h
    exact nomatch h
  · rw [heq] at h honly ⊢
    rw [contents?_eq_ok, honly.placeOf_eq_ok, hheld h]
    refine ⟨hplace, ?_⟩
    rw [at?_put, isGiven_of_ne hfolder, if_neg Bool.false_ne_true, if_pos rfl]

theorem contents?_rename_self {d : Disk} {source goal : String}
    (h : (d.rename source goal).1 = .ok ()) :
    ∃ bytes, d.contents? source = .ok bytes ∧
    (d.rename source goal).2.contents? goal = .ok bytes := by
  have honly := onlyAt_rename d source goal
  rcases rename_cases d source goal with ⟨fault, heq⟩ | ⟨bytes, hbytes, hplace, hfolder, heq⟩
  · rw [heq] at h
    exact nomatch h
  · refine ⟨bytes, hbytes, ?_⟩
    rw [heq] at honly ⊢
    rw [contents?_eq_ok, honly.placeOf_eq_ok]
    refine ⟨hplace, ?_⟩
    rw [at?_put, isGiven_of_ne hfolder, if_neg Bool.false_ne_true, if_pos rfl]

/-- Where a file was removed there is nothing, unless removing is refused. -/
theorem at?_remove_self {d : Disk} {path : String} (hfailing : d.failing (.remove path) = none)
    (h : d.at? (target path) = none ∨ ∃ bytes, d.contents? path = .ok bytes) :
    (d.remove path).2.at? (target path) = none := by
  rcases remove_cases d path with ⟨fault, heq⟩ | ⟨bytes, hbytes, heq⟩
  · rcases h with hnone | ⟨bytes, hbytes⟩
    · rw [heq, hnone]
    · have hplace := (contents?_eq_ok.1 hbytes).1
      have hremoved : d.remove path = (.ok (), d.clear (target path)) := by
        simp [remove, orUnchanged, checkRequest, hfailing, hbytes, hplace, bind, Except.bind,
          pure, Except.pure]
      exact nomatch (Prod.mk.inj (heq.symm.trans hremoved)).1
  · rw [heq, at?_clear, isGiven_of_ne (ne_folder_of_contents? hbytes),
      if_neg Bool.false_ne_true, if_pos rfl]

theorem at?_rename_source {d : Disk} {source goal : String} (hne : target goal ≠ target source)
    (h : (d.rename source goal).1 = .ok ()) :
    (d.rename source goal).2.at? (target source) = none := by
  rcases rename_cases d source goal with ⟨fault, heq⟩ | ⟨bytes, hbytes, -, -, heq⟩
  · rw [heq] at h
    exact nomatch h
  · rw [heq, at?_put_of_ne hne, at?_clear, isGiven_of_ne (ne_folder_of_contents? hbytes),
      if_neg Bool.false_ne_true, if_pos rfl]

/-! ### Folders that are created -/

private theorem at?_create {d : Disk} {q : Place} {n : Node} (h : d.at? q = some n) (p : Place)
    (names : List (List Char)) : (d.create p names).2.at? q = some n := by
  induction names generalizing d p with
  | nil => exact h
  | cons name rest ih =>
    unfold create
    dsimp only
    split
    · exact h
    · split
      · exact ih h _
      · exact h
      · rename_i hnone
        refine ih ?_ _
        rw [at?_put_of_ne]
        · exact h
        · intro heq
          rw [heq, h] at hnone
          exact nomatch hnone

theorem contents?_createFolders {d : Disk} {path other : String} {held : ByteArray}
    (h : d.contents? other = .ok held) : (d.createFolders path).2.contents? other = .ok held := by
  unfold createFolders
  split
  · exact h
  · obtain ⟨hplace, hat⟩ := contents?_eq_ok.1 h
    obtain ⟨hpath, hway, hshort, -⟩ := placeOf_eq_ok.1 hplace
    rw [contents?_eq_ok, placeOf_eq_ok]
    exact ⟨⟨hpath, fun q hq => at?_create (hway q hq) _ _, hshort, rfl⟩, at?_create hat _ _⟩

/-! ### Requests that fail go on failing -/

@[simp] theorem failing_write (d : Disk) (path : String) (bytes : ByteArray) :
    (d.write path bytes).2.failing = d.failing := (onlyAt_write d path bytes).failing

@[simp] theorem failing_rename (d : Disk) (source goal : String) :
    (d.rename source goal).2.failing = d.failing := (onlyAt_rename d source goal).failing

private theorem failing_create (d : Disk) (p : Place) (names : List (List Char)) :
    (d.create p names).2.failing = d.failing := by
  induction names generalizing d p with
  | nil => rfl
  | cons name rest ih =>
    unfold create
    dsimp only
    split
    · rfl
    · split
      · exact ih _ _
      · rfl
      · exact ih _ _

@[simp] theorem failing_createFolders (d : Disk) (path : String) :
    (d.createFolders path).2.failing = d.failing := by
  unfold createFolders
  split
  · rfl
  · exact failing_create _ _ _

/-! ### Reading -/

/-- The disk reports no file as missing unless it is. -/
def Honest (d : Disk) (path : String) : Prop :=
  ∀ failure, d.failing (.read path) = some failure → failure.fault ≠ .notFound

theorem read_eq_ok {d : Disk} {path : String} {bytes : ByteArray} :
    d.read path = .ok bytes ↔ d.failing (.read path) = none ∧ d.contents? path = .ok bytes := by
  unfold read
  rw [Attempt.bind_eq_ok]
  unfold checkRequest
  cases d.failing (.read path) with
  | none => simp
  | some failure => simp

theorem readable_of_notFound {d : Disk} {path : String} (hhonest : d.Honest path)
    (h : d.read path = .error .notFound) : d.failing (.read path) = none := by
  cases hfailing : d.failing (.read path) with
  | none => rfl
  | some failure =>
    have hfault := hhonest failure hfailing
    unfold read checkRequest at h
    rw [hfailing] at h
    exact absurd (Except.error.inj h) hfault

/-! ### A staged file is another file -/

theorem step_append {suffix : List Char} (hlong : 2 < suffix.length) (p : Place)
    (last : List Char) :
    step p (last ++ suffix) = p ++ [String.ofList (last ++ suffix)] := by
  have hlength : 2 < (last ++ suffix).length := by
    rw [List.length_append]
    omega
  have hidle : Path.isIdle (last ++ suffix) = false := by
    unfold Path.isIdle
    rw [Bool.or_eq_false_iff, List.isEmpty_eq_false_iff, beq_eq_false_iff_ne]
    constructor
    · intro hnil
      rw [hnil] at hlength
      exact absurd hlength (by decide)
    · intro hdot
      rw [hdot] at hlength
      exact absurd hlength (by decide)
  have hup : last ++ suffix ≠ ['.', '.'] := by
    intro hdots
    rw [hdots] at hlength
    exact absurd hlength (by decide)
  unfold step
  rw [hidle, if_neg Bool.false_ne_true, if_neg hup]

/-- In one folder, a longer name does not lead where the shorter one leads. -/
theorem step_append_ne {suffix : List Char} (hlong : 2 < suffix.length) (p : Place)
    (last : List Char) :
    step p (last ++ suffix) ≠ step p last := by
  intro heq
  rw [step_append hlong] at heq
  unfold step at heq
  split at heq
  · exact absurd (List.append_right_eq_self.1 heq) (List.cons_ne_nil _ _)
  · split at heq
    · split at heq
      · exact absurd (List.append_right_eq_self.1 heq) (List.cons_ne_nil _ _)
      · have hlength := congrArg List.length heq
        simp at hlength
        omega
    · have hlast := List.append_cancel_left heq
      have hchars := String.ofList_injective (List.cons.inj hlast).1
      rw [List.append_right_eq_self.1 hchars] at hlong
      exact absurd hlong (by decide)

/-- **A path with something more behind it leads elsewhere.** -/
theorem target_append_ne {path suffix : String} (hslash : '/' ∉ suffix.toList)
    (hlong : 2 < suffix.toList.length) :
    target (path ++ suffix) ≠ target path := by
  obtain ⟨init, last, hpath, happend⟩ := Text.pieces_append_of_notMem hslash path.toList
  rw [← String.toList_append] at happend
  unfold target start
  rw [hpath, happend]
  -- the folders on the way are the same, unless there are none and the path was empty
  match init, last with
  | [], [] =>
    simp only [List.nil_append]
    split
    · rename_i hnil
      rw [(List.cons.inj hnil).1] at hlong
      exact absurd hlong (by decide)
    · intro heq
      have hone : step [] ([] ++ suffix.toList) = root := heq
      rw [step_append hlong, root, List.nil_append, List.nil_append] at hone
      have hsuffix : String.ofList suffix.toList = "/" := (List.cons.inj hone).1
      rw [String.ofList_toList] at hsuffix
      exact hslash (hsuffix ▸ by decide)
  | [], c :: last => exact step_append_ne hlong [] (c :: last)
  | [] :: init, last =>
    simp only [List.cons_append, List.foldl_append, List.foldl_cons, List.foldl_nil]
    exact step_append_ne hlong _ last
  | (c :: first) :: init, last =>
    simp only [List.cons_append, List.foldl_append, List.foldl_cons, List.foldl_nil]
    exact step_append_ne hlong _ last

end Firewall.Disk
