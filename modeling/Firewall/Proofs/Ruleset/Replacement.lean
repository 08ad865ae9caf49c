/-
The active ruleset is replaced as a whole or not at all.

An activation may find anything at the place of the active ruleset and at that of the staged one,
every request to the disk may be refused, and a check may remove what it checks.  Whatever happens,
the active file holds what it held or the whole of the new text (`Atomic`), because nothing but one
renaming ever touches it, and what is renamed was written in full and accepted.  What is left behind
is one staged file at most, and none where a check refused it and it could be removed.

The one thing that a second activation relies on is that the disk does not call a file missing that
is there: otherwise the text is staged and checked once more.
-/
import Firewall.Proofs.Ruleset.Activation

namespace Firewall.Ruleset

variable {b : Behaviour} {path text : String} {w w' : World} {result : Except Error Bool}

/-- What is promised of an activation, whatever comes of it. -/
structure Atomic (b : Behaviour) (path text : String) (w : World) (result : Except Error Bool)
    (w' : World) : Prop where
  /-- Nothing is to be done exactly if the active file has the digest of the
  text, and then nothing is done. -/
  same : result = .ok false ↔
    ∃ bytes, w.disk.read path = .ok bytes ∧ Digest.ofBytes bytes = Digest.ofText text
  unchanged : result = .ok false → w' = w
  /-- One file is checked at most, which is the staged one and holds the text. -/
  checked : w'.handovers = w.handovers ∨
    w'.handovers =
      w.handovers ++ [.checked (stagedName path) (w.disk.reading (stagedName path) text.toUTF8)]
  /-- What becomes active was checked and accepted. -/
  accepted : result = .ok true →
    w'.handovers =
      w.handovers ++ [.checked (stagedName path) (w.disk.reading (stagedName path) text.toUTF8)] ∧
    b.check (stagedName path) (w.disk.reading (stagedName path) text.toUTF8) = .ok ()
  /-- It is the whole text, and is no longer staged. -/
  active : result = .ok true →
    w'.disk.contents? path = .ok text.toUTF8 ∧ w'.disk.at? (Disk.target (stagedName path)) = none
  /-- After a failure the active file is as it was. -/
  failed : ∀ e, result = .error e → w'.disk.at? (Disk.target path) = w.disk.at? (Disk.target path) ∧
    ∀ bytes, w'.disk.contents? path = .ok bytes ↔ w.disk.contents? path = .ok bytes
  /-- A check that was made and refused the text is why the activation failed.  What was staged is
  gone, unless it could not be removed. -/
  refused : ∀ e,
    b.check (stagedName path) (w.disk.reading (stagedName path) text.toUTF8) = .error e →
    w'.handovers ≠ w.handovers → result = .error e ∧
      (w.disk.failing (.remove (stagedName path)) = none →
        w'.disk.at? (Disk.target (stagedName path)) = none)
  /-- No other file is touched in any case. -/
  elsewhere : ∀ p, p ≠ Disk.target path → p ≠ Disk.target (stagedName path) →
    w'.disk.at? p = w.disk.at? p

/-- A text that was staged and checked is still there, unless the check removed it. -/
theorem staged_checkedWorld (hwrite : (w.disk.write (stagedName path) text.toUTF8).1 = .ok ())
    (hremove : w.disk.failing (.remove (stagedName path)) = none) :
    (checkedWorld b path text w).disk.at? (Disk.target (stagedName path)) = none ∨
      ∃ bytes, (checkedWorld b path text w).disk.contents? (stagedName path) = .ok bytes := by
  have hstaged := Disk.contents?_write_self hwrite
  rw [← Disk.failing_write w.disk (stagedName path) text.toUTF8] at hremove
  show (afterCheck b _ _).at? _ = none ∨ ∃ bytes, (afterCheck b _ _).contents? _ = .ok bytes
  unfold afterCheck
  split
  · exact .inl (Disk.at?_remove_self hremove (.inr ⟨_, hstaged⟩))
  · exact .inr ⟨_, hstaged⟩

namespace Ending

theorem eq_ok_false_iff (h : Ending b path text w result w') :
    result = .ok false ↔
      ∃ bytes, w.disk.read path = .ok bytes ∧ Digest.ofBytes bytes = Digest.ofText text := by
  -- in every other case the digest is another, or the file cannot be read
  have hother : Stale w.disk path text →
      ¬ ∃ bytes, w.disk.read path = .ok bytes ∧ Digest.ofBytes bytes = Digest.ofText text :=
    fun hstale ⟨bytes, hread, hdigest⟩ => hstale.digest bytes hread hdigest
  cases h with
  | same hread hdigest => exact iff_of_true rfl ⟨_, hread, hdigest⟩
  | unreadable hread =>
    exact iff_of_false (fun h => nomatch h) fun ⟨bytes, hbytes, _⟩ =>
      nomatch hread.symm.trans hbytes
  | unstaged hstale => exact iff_of_false (fun h => nomatch h) (hother hstale)
  | refused hstale => exact iff_of_false (fun h => nomatch h) (hother hstale)
  | unmoved hstale => exact iff_of_false (fun h => nomatch h) (hother hstale)
  | replaced hstale => exact iff_of_false (fun h => nomatch h) (hother hstale)

/-- What was staged is gone where the check refused it, if it can be removed. -/
theorem of_check_refused (h : Ending b path text w result w') {e : Error}
    (hcheck : b.check (stagedName path) (w.disk.reading (stagedName path) text.toUTF8) = .error e)
    (hchecked : w'.handovers ≠ w.handovers) : result = .error e ∧
      (w.disk.failing (.remove (stagedName path)) = none →
        w'.disk.at? (Disk.target (stagedName path)) = none) := by
  cases h with
  | same => exact absurd rfl hchecked
  | unreadable => exact absurd rfl hchecked
  | unstaged => exact absurd rfl hchecked
  | refused hstale hwrite hrefused =>
    cases hrefused.symm.trans hcheck
    refine ⟨rfl, fun hremove => Disk.at?_remove_self ?_ (staged_checkedWorld hwrite hremove)⟩
    rw [(onlyAt_checkedWorld b path text w).failing, hremove]
  | unmoved hstale hwrite haccepted => exact nomatch haccepted.symm.trans hcheck
  | replaced hstale hwrite haccepted => exact nomatch haccepted.symm.trans hcheck

theorem atomic (h : Ending b path text w result w') : Atomic b path text w result w' where
  same := h.eq_ok_false_iff
  unchanged := by
    rintro rfl
    cases h with
    | same => rfl
  checked := h.handovers
  accepted := by
    rintro rfl
    cases h with
    | replaced hstale hwrite hcheck hrename => exact ⟨rfl, hcheck⟩
  active := by
    rintro rfl
    refine ⟨h.contents?, ?_⟩
    cases h with
    | replaced hstale hwrite hcheck hrename =>
      exact Disk.at?_rename_source (target_stagedName_ne path).symm hrename
  failed := by
    rintro e rfl
    have hne : Disk.target path ∉ [Disk.target (stagedName path)] := by
      simpa using (target_stagedName_ne path).symm
    exact ⟨h.onlyAt_of_error.elsewhere _ hne, h.onlyAt_of_error.contents? hne⟩
  refused _ hcheck hchecked := h.of_check_refused hcheck hchecked
  elsewhere p hpath hstaged := h.onlyAt.elsewhere p (by simpa using ⟨hstaged, hpath⟩)

end Ending

/--
**A ruleset is replaced as a whole or not at all.**  However the disk and the check behave, an
activation keeps its promises, and once it has put a text in place, activating the text again does
nothing, whatever a check would say by then.
-/
theorem activation_is_atomic
    (h : Work.exec (activate (World.loader b) path text) w = (result, w')) :
    Atomic b path text w result w' ∧
    (w.disk.failing (.read (stagedName path)) = none →
      w.disk.reading (stagedName path) text.toUTF8 = .ok text.toUTF8) ∧
    (result = .ok true → w.disk.Honest path → ∀ later : Behaviour,
      Work.exec (activate (World.loader later) path text) w' = (.ok false, w')) := by
  refine ⟨(activate_ending h).atomic, fun hreadable => ?_, fun hresult hhonest later => ?_⟩
  · unfold Disk.reading Disk.checkRequest
    rw [hreadable]
    rfl
  · subst hresult
    rcases activate_cases hhonest h with ⟨hresult, -⟩ | ⟨-, hread, -, -⟩ | ⟨e, hresult, -⟩
    · exact nomatch hresult
    · exact exec_activate_of_digest _ hread rfl
    · exact nomatch hresult

/-- A folder with a ruleset that is active, and another that was staged and left there. -/
def sampleLeftover : World where
  disk := { nodes := .ofList [(["nftwall.nft"], .file "another ruleset".toUTF8),
    (["nftwall.nft.new"], .file "half a rul".toUTF8)] }
  clock := default

/-- What was left is overwritten, and takes the place of the active ruleset in full. -/
theorem sampleLeftover_replaced : ∃ w',
    sampleLeftover.disk.contents? "nftwall.nft" = .ok "another ruleset".toUTF8 ∧
    Work.exec (activate (World.loader {}) "nftwall.nft" "a ruleset") sampleLeftover =
      (.ok true, w') ∧
    w'.disk.contents? "nftwall.nft" = .ok "a ruleset".toUTF8 ∧
    w'.disk.at? ["nftwall.nft.new"] = none ∧
    Work.exec (activate (World.loader { removesChecked := true }) "nftwall.nft" "a ruleset") w' =
      (.ok false, w') := by
  have hread : sampleLeftover.disk.read "nftwall.nft" = .ok "another ruleset".toUTF8 := rfl
  have hother : (some "another ruleset".toUTF8).map Digest.ofBytes ≠
      some (Digest.ofText "a ruleset") := by
    decide +kernel
  have hactivate : Work.exec (activate (World.loader {}) "nftwall.nft" "a ruleset") sampleLeftover
      = (.ok true, (Work.exec
        (replace (World.loader {}) "nftwall.nft" "a ruleset") sampleLeftover).2) := by
    rw [activate_eq, Work.exec_bind, exec_active, Machine.unlessMissing_eq_some.2 hread]
    show Work.exec (if (some _).map Digest.ofBytes = some _ then pure false else _) _ = _
    rw [if_neg hother]
    rfl
  obtain ⟨hatomic, -, hagain⟩ := activation_is_atomic hactivate
  have hhonest : sampleLeftover.disk.Honest "nftwall.nft" := fun _ h => nomatch h
  obtain ⟨hactive, hgone⟩ := hatomic.active rfl
  exact ⟨_, rfl, hactivate, hactive, hgone, hagain rfl hhonest _⟩

end Firewall.Ruleset
