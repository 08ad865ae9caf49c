/-
What becomes of the active ruleset when another is to take its place.

Until the very last request the active file is left alone: the new ruleset is written and
checked under another name, which leads elsewhere (`target_stagedName_ne`).  An activation
can be given up at each request, and `Ending` lists the ways it can end, each with the world
it leaves behind (`activate_ending`); all else is read off that list.  To the outside there
are three ways (`activate_ends`): the digests agree and nothing happens, the file holds the
new text, which was checked and accepted, or the file holds what it held.  Files other than
these two are spared in any case.
-/
import Firewall.Proofs.Machine.Spared
import Firewall.Proofs.Ruleset.Loader
import Firewall.Ruleset.Activation

namespace Firewall.Ruleset

open World (Untouched)

theorem target_stagedName_ne (path : String) : Disk.target (stagedName path) ≠ Disk.target path :=
  Disk.target_append_ne (by decide) (by decide)

/-! ### How an activation goes -/

/-- What is done if the active file does not have the digest of the text. -/
def replace (loader : Loader (StateM World)) (path text : String) : Work (StateM World) Bool := do
  Work.request (Machine.write (stagedName path) text.toUTF8)
  checkStaged loader (stagedName path)
  Work.request (Machine.rename (stagedName path) path)
  return true

theorem activate_eq (loader : Loader (StateM World)) (path text : String) :
    activate loader path text = active path >>= fun found =>
      if found.map Digest.ofBytes = some (Digest.ofText text) then pure false
      else replace loader path text := rfl

variable {b : Behaviour} {path text : String} {w w' : World} {result : Except Error Bool}

theorem exec_active (path : String) (w : World) :
    Work.exec (active path) w =
      ((Machine.unlessMissing (w.disk.read path)).mapError .system, w) := by
  unfold active
  rw [Work.exec_request]
  have hrun : (Machine.unlessMissing <$> (Machine.read path : StateM World _)).run w
      = (Machine.unlessMissing (w.disk.read path), w) := rfl
  rw [hrun]
  cases Machine.unlessMissing (w.disk.read path) with
  | ok found => rfl
  | error fault => rfl

theorem exec_activate_of_digest (loader : Loader (StateM World)) {bytes : ByteArray}
    (hread : w.disk.read path = .ok bytes) (hdigest : Digest.ofBytes bytes = Digest.ofText text) :
    Work.exec (activate loader path text) w = (.ok false, w) := by
  have hsame : (some bytes).map Digest.ofBytes = some (Digest.ofText text) := congrArg some hdigest
  rw [activate_eq, Work.exec_bind, exec_active, Machine.unlessMissing_eq_some.2 hread]
  show Work.exec
    (if (some bytes).map Digest.ofBytes = some (Digest.ofText text) then pure false else _) w = _
  rw [if_pos hsame]
  rfl

/-- The active file is to be replaced: it is missing, or it can be read and
has another digest than the text. -/
structure Stale (d : Disk) (path text : String) : Prop where
  digest : ∀ bytes, d.read path = .ok bytes → Digest.ofBytes bytes ≠ Digest.ofText text
  missing : ∀ fault, d.read path = .error fault → fault = .notFound

/-- The disk after a check, which may have removed what was checked. -/
def afterCheck (b : Behaviour) (d : Disk) (path : String) : Disk :=
  if b.removesChecked then (d.remove path).2 else d

/-- The world in which a text was staged and checked. -/
def checkedWorld (b : Behaviour) (path text : String) (w : World) : World :=
  { w with
    disk := afterCheck b (w.disk.write (stagedName path) text.toUTF8).2 (stagedName path)
    handovers := w.handovers ++
      [.checked (stagedName path) (w.disk.reading (stagedName path) text.toUTF8)] }

/-- How an activation can end, and in which world. -/
inductive Ending (b : Behaviour) (path text : String) (w : World) : Except Error Bool → World → Prop
  /-- The active file has the digest of the text. -/
  | same {bytes : ByteArray} (hread : w.disk.read path = .ok bytes)
    (hdigest : Digest.ofBytes bytes = Digest.ofText text) : Ending b path text w (.ok false) w
  /-- The active file cannot be read. -/
  | unreadable {fault : Fault} (hread : w.disk.read path = .error fault)
    (hfault : fault ≠ .notFound) :
    Ending b path text w (.error (.system fault)) w
  /-- The text cannot be staged. -/
  | unstaged {fault : Fault} (hstale : Stale w.disk path text)
    (hwrite : (w.disk.write (stagedName path) text.toUTF8).1 = .error fault) :
    Ending b path text w (.error (.system fault))
      { w with disk := (w.disk.write (stagedName path) text.toUTF8).2 }
  /-- The check refuses the text, and what was staged is removed. -/
  | refused {e : Error} (hstale : Stale w.disk path text)
    (hwrite : (w.disk.write (stagedName path) text.toUTF8).1 = .ok ())
    (hcheck : b.check (stagedName path) (w.disk.reading (stagedName path) text.toUTF8) = .error e) :
    Ending b path text w (.error e)
      { checkedWorld b path text w
        with disk := ((checkedWorld b path text w).disk.remove (stagedName path)).2 }
  /-- What was staged cannot be given the name of the active file. -/
  | unmoved {fault : Fault} (hstale : Stale w.disk path text)
    (hwrite : (w.disk.write (stagedName path) text.toUTF8).1 = .ok ())
    (hcheck : b.check (stagedName path) (w.disk.reading (stagedName path) text.toUTF8) = .ok ())
    (hrename : ((checkedWorld b path text w).disk.rename (stagedName path) path).1 = .error fault) :
    Ending b path text w (.error (.system fault)) (checkedWorld b path text w)
  /-- The text takes the place of the active file. -/
  | replaced (hstale : Stale w.disk path text)
    (hwrite : (w.disk.write (stagedName path) text.toUTF8).1 = .ok ())
    (hcheck : b.check (stagedName path) (w.disk.reading (stagedName path) text.toUTF8) = .ok ())
    (hrename : ((checkedWorld b path text w).disk.rename (stagedName path) path).1 = .ok ()) :
    Ending b path text w (.ok true)
      { checkedWorld b path text w
        with disk := ((checkedWorld b path text w).disk.rename (stagedName path) path).2 }

/-- A check of what is staged, which is removed if the check refuses it. -/
theorem exec_checkStaged (b : Behaviour) (staged : String) (w : World) :
    Work.exec (checkStaged (World.loader b) staged) w =
      (b.check staged (w.disk.read staged),
        { w with
          disk := if (b.check staged (w.disk.read staged)).isOk then afterCheck b w.disk staged
            else ((afterCheck b w.disk staged).remove staged).2
          handovers := w.handovers ++ [.checked staged (w.disk.read staged)] }) := by
  unfold checkStaged
  rw [Work.exec_tryCatch, World.exec_check]
  cases b.check staged (w.disk.read staged) <;> rfl

private theorem replace_ending (hstale : Stale w.disk path text)
    (h : Work.exec (replace (World.loader b) path text) w = (result, w')) :
    Ending b path text w result w' := by
  unfold replace at h
  rw [Work.exec_bind, Work.exec_request] at h
  have hrun : (Machine.write (stagedName path) text.toUTF8 : StateM World _).run w
      = ((w.disk.write (stagedName path) text.toUTF8).1,
        { w with disk := (w.disk.write (stagedName path) text.toUTF8).2 }) := rfl
  rw [hrun] at h
  cases hwrite : (w.disk.write (stagedName path) text.toUTF8).1 with
  | error fault =>
    rw [hwrite] at h
    cases h
    exact .unstaged hstale hwrite
  | ok u =>
    have hread := Disk.read_of_contents? (Disk.contents?_write_self hwrite)
    rw [Disk.reading_congr (Disk.failing_write w.disk (stagedName path) text.toUTF8)] at hread
    rw [hwrite] at h
    dsimp only at h
    rw [Work.exec_bind, exec_checkStaged] at h
    dsimp only at h
    rw [hread] at h
    cases hcheck : b.check (stagedName path) (w.disk.reading (stagedName path) text.toUTF8) with
    | error e =>
      rw [hcheck] at h
      cases h
      exact .refused hstale hwrite hcheck
    | ok u =>
      rw [hcheck] at h
      change Work.exec (do Work.request (Machine.rename (stagedName path) path); return true)
        (checkedWorld b path text w) = _ at h
      rw [Work.exec_bind, Work.exec_request] at h
      have hmove : (Machine.rename (stagedName path) path : StateM World _).run
          (checkedWorld b path text w)
          = (((checkedWorld b path text w).disk.rename (stagedName path) path).1,
            { checkedWorld b path text w with
              disk := ((checkedWorld b path text w).disk.rename (stagedName path) path).2 }) := rfl
      rw [hmove] at h
      cases hrename : ((checkedWorld b path text w).disk.rename (stagedName path) path).1 with
      | error fault =>
        rw [hrename] at h
        cases h
        rw [Disk.rename_of_error hrename]
        exact .unmoved hstale hwrite hcheck hrename
      | ok u =>
        rw [hrename] at h
        cases h
        exact .replaced hstale hwrite hcheck hrename

/-- **An activation ends in one of these ways.** -/
theorem activate_ending (h : Work.exec (activate (World.loader b) path text) w = (result, w')) :
    Ending b path text w result w' := by
  rw [activate_eq, Work.exec_bind, exec_active] at h
  cases hread : w.disk.read path with
  | error fault =>
    rw [hread] at h
    by_cases hfault : fault = .notFound
    · subst hfault
      have hstale : Stale w.disk path text := by
        refine ⟨fun bytes hbytes => ?_, fun fault hfault => ?_⟩
        · exact nomatch hread.symm.trans hbytes
        · exact (Except.error.inj (hread.symm.trans hfault)).symm
      exact replace_ending hstale h
    · have hgiven : Machine.unlessMissing (.error fault : Except Fault ByteArray) =
          .error fault := by
        cases fault <;> first | rfl | exact absurd rfl hfault
      rw [hgiven] at h
      cases h
      exact .unreadable hread hfault
  | ok bytes =>
    rw [hread] at h
    change Work.exec (if some (Digest.ofBytes bytes) = some (Digest.ofText text) then pure false
      else replace (World.loader b) path text) w = _ at h
    by_cases hdigest : Digest.ofBytes bytes = Digest.ofText text
    · rw [if_pos (congrArg some hdigest)] at h
      cases h
      exact .same hread hdigest
    · rw [if_neg fun heq => hdigest (Option.some.inj heq)] at h
      have hstale : Stale w.disk path text := by
        refine ⟨fun held hheld => ?_, fun fault hfault => ?_⟩
        · rwa [← Except.ok.inj (hread.symm.trans hheld)]
        · exact nomatch hread.symm.trans hfault
      exact replace_ending hstale h

/-! ### What an activation leaves alone -/

theorem onlyAt_checkedWorld (b : Behaviour) (path text : String) (w : World) :
    w.disk.OnlyAt [Disk.target (stagedName path)] (checkedWorld b path text w).disk := by
  refine (Disk.onlyAt_write w.disk (stagedName path) text.toUTF8).trans ?_
  show Disk.OnlyAt _ _ (afterCheck b _ _)
  unfold afterCheck
  split
  · exact Disk.onlyAt_remove _ _
  · exact .refl _ _

/-- **An activation that fails changes nothing but the staged file.** -/
theorem Ending.onlyAt_of_error {e : Error} (h : Ending b path text w (.error e) w') :
    w.disk.OnlyAt [Disk.target (stagedName path)] w'.disk := by
  cases h with
  | unreadable => exact .refl _ _
  | unstaged => exact Disk.onlyAt_write _ _ _
  | refused => exact (onlyAt_checkedWorld b path text w).trans (Disk.onlyAt_remove _ _)
  | unmoved => exact onlyAt_checkedWorld b path text w

/-- An activation changes nothing but the staged file and the active one. -/
theorem Ending.onlyAt (h : Ending b path text w result w') :
    w.disk.OnlyAt [Disk.target (stagedName path), Disk.target path] w'.disk := by
  cases result with
  | error e => exact h.onlyAt_of_error.mono (by simp)
  | ok changed =>
    cases h with
    | same => exact .refl _ _
    | replaced =>
      exact ((onlyAt_checkedWorld b path text w).mono (by simp)).trans (Disk.onlyAt_rename _ _ _)

theorem Ending.handovers (h : Ending b path text w result w') : w'.handovers = w.handovers ∨
    w'.handovers =
      w.handovers ++
        [.checked (stagedName path) (w.disk.reading (stagedName path) text.toUTF8)] := by
  cases h with
  | same => exact .inl rfl
  | unreadable => exact .inl rfl
  | unstaged => exact .inl rfl
  | refused => exact .inr rfl
  | unmoved => exact .inr rfl
  | replaced => exact .inr rfl

theorem Ending.loads (h : Ending b path text w result w') : w'.loads = w.loads := by
  unfold World.loads
  rcases h.handovers with hsame | hchecked
  · rw [hsame]
  · rw [hchecked, List.filterMap_append]
    exact List.append_nil _

/-- What is staged is the text, unless the check removed it. -/
theorem contents?_checkedWorld (hwrite : (w.disk.write (stagedName path) text.toUTF8).1 = .ok ())
    {bytes : ByteArray}
    (h : (checkedWorld b path text w).disk.contents? (stagedName path) = .ok bytes) :
    bytes = text.toUTF8 := by
  have hstaged := Disk.contents?_write_self hwrite
  change (afterCheck b _ _).contents? _ = _ at h
  unfold afterCheck at h
  split at h
  · exact Except.ok.inj ((Disk.contents?_of_remove h).symm.trans hstaged)
  · exact Except.ok.inj (h.symm.trans hstaged)

theorem Ending.contents? (h : Ending b path text w (.ok true) w') :
    w'.disk.contents? path = .ok text.toUTF8 := by
  cases h with
  | replaced hstale hwrite hcheck hrename =>
    obtain ⟨bytes, hbytes, hactive⟩ := Disk.contents?_rename_self hrename
    rwa [contents?_checkedWorld hwrite hbytes] at hactive

/-! ### How an activation ends -/

/-- **An activation changes nothing, or puts a text that was accepted in the active file, or
fails and leaves that file alone.** -/
theorem activate_ends (h : Work.exec (activate (World.loader b) path text) w = (result, w')) :
    (result = .ok false ∧ w' = w ∧
        ∃ bytes, w.disk.read path = .ok bytes ∧ Digest.ofBytes bytes = Digest.ofText text) ∨
      (result = .ok true ∧ w'.disk.contents? path = .ok text.toUTF8 ∧
        w'.disk.failing = w.disk.failing ∧
        (∀ fault, w.disk.read path = .error fault → fault = .notFound) ∧
        b.check (stagedName path) (w.disk.reading (stagedName path) text.toUTF8) = .ok () ∧
        w'.handovers
          = w.handovers ++
            [.checked (stagedName path) (w.disk.reading (stagedName path) text.toUTF8)]) ∨
      ∃ e, result = .error e ∧ Untouched path w w' ∧ w.disk.Spared path w'.disk ∧
        (w'.handovers = w.handovers ∨
          ∃ contents, w'.handovers = w.handovers ++ [.checked (stagedName path) contents]) := by
  have hending := activate_ending h
  match result, hending with
  | .ok false, .same hread hdigest => exact .inl ⟨rfl, rfl, _, hread, hdigest⟩
  | .ok true, hending =>
    refine .inr (.inl ⟨rfl, hending.contents?, hending.onlyAt.failing, ?_⟩)
    cases hending with
    | replaced hstale hwrite hcheck hrename => exact ⟨hstale.missing, hcheck, rfl⟩
  | .error e, hending =>
    have honly := hending.onlyAt_of_error
    have hne : Disk.target path ∉ [Disk.target (stagedName path)] := by
      simpa using (target_stagedName_ne path).symm
    exact .inr (.inr
      ⟨e, rfl, ⟨honly.contents? hne, hending.loads, honly.failing⟩, .ofOnlyAt honly hne,
      hending.handovers.imp_right fun hchecked => ⟨_, hchecked⟩⟩)

/-- The same, where the disk reports no file as missing unless it is. -/
theorem activate_cases {result : Except Error Bool} (hhonest : w.disk.Honest path)
    (h : Work.exec (activate (World.loader b) path text) w = (result, w')) :
    (result = .ok false ∧ w' = w ∧
        ∃ bytes, w.disk.read path = .ok bytes ∧ Digest.ofBytes bytes = Digest.ofText text) ∨
      (result = .ok true ∧ w'.disk.read path = .ok text.toUTF8 ∧ w'.loads = w.loads ∧
        w'.disk.failing = w.disk.failing) ∨
      ∃ e, result = .error e ∧ Untouched path w w' := by
  rcases activate_ends h
    with hsame | ⟨rfl, hactive, hfailing, hmissing, -, hchecked⟩ | ⟨e, rfl, huntouched, -, -⟩
  · exact .inl hsame
  · have hreadable : w.disk.failing (.read path) = none := by
      cases hread : w.disk.read path with
      | error fault => exact Disk.readable_of_notFound hhonest (hmissing fault hread ▸ hread)
      | ok bytes => exact (Disk.read_eq_ok.1 hread).1
    have hloads : w'.loads = w.loads := by
      unfold World.loads
      rw [hchecked, List.filterMap_append]
      exact List.append_nil _
    exact .inr (.inl
      ⟨rfl, Disk.read_eq_ok.2 ⟨by rw [hfailing, hreadable], hactive⟩, hloads, hfailing⟩)
  · exact .inr (.inr ⟨e, rfl, huntouched⟩)

/-- An activation spares every file but the active one and the staged one. -/
theorem keeps_spared_activate {other : String}
    (hstaged : Disk.target (stagedName path) ≠ Disk.target other)
    (hpath : Disk.target path ≠ Disk.target other) (d : Disk) :
    Work.Keeps (fun w => d.Spared other w.disk) (activate (World.loader b) path text) := fun _ hw =>
  hw.trans (.ofOnlyAt (activate_ending rfl).onlyAt (by simpa using ⟨hstaged.symm, hpath.symm⟩))

end Firewall.Ruleset
