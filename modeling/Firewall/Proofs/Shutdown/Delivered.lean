/-
No call misses the signal.

A waiter that found the flag down and has not been woken since is deaf to the signal: if
nobody wakes it any more it blocks for good.  Once one call that gives the signal has
returned, nobody is deaf and nobody can become deaf (`Heard`): the flag was up before
everybody registered was woken, and who registers after that finds it up.  From then on
each step of a waiter's own brings it nearer to returning true (`stepsLeft`), and one such
step is always possible.

That nobody returns false any more needs less, only that the flag is up.  So a task that
works in cycles begins at most the one cycle that such a return already allowed it.
-/
import Firewall.Proofs.Shutdown.Step

namespace Firewall

namespace Shutdown.Phase

variable {flag : Bool} {p p' : Phase}

/-- The waiter found the flag down, and has not been woken. -/
def Deaf : Phase → Prop
  | looked woken | blocked woken => woken = false
  | called | registered _ | expired | returned _ => False

/-- The waiter knows that the signal was given, or will know by being woken. -/
def Told : Phase → Prop
  | registered woken | looked woken | blocked woken => woken = true
  | returned signaled => signaled = true
  | called | expired => False

/-- How many steps of its own a waiter needs at most before it has returned, once the flag is up. -/
def left : Phase → Nat
  | called | blocked _ => 2
  | registered _ | looked _ | expired => 1
  | returned _ => 0

theorem left_le (p : Phase) : p.left ≤ 2 := by
  cases p <;> simp [left]

@[simp] theorem left_woken (p : Phase) : p.woken.left = p.left := by
  cases p <;> rfl

theorem not_deaf_woken (p : Phase) : ¬ p.woken.Deaf := by
  cases p <;> simp [woken, Deaf]

theorem woken_eq_returned {signaled : Bool} :
    p.woken = .returned signaled ↔ p = .returned signaled := by
  cases p <;> simp [woken]

theorem eq_returned_of_left_eq_zero (h : p.left = 0) : ∃ signaled, p = .returned signaled := by
  cases p with
  | returned signaled => exact ⟨signaled, rfl⟩
  | called | registered _ | looked _ | blocked _ | expired => cases h

/-- Whoever is told by a step of its own was told before, or found the flag up. -/
theorem Next.told (h : p.Next flag p') (hp : p.Told → flag = true) (hp' : p'.Told) :
    flag = true := by
  cases h with
  | found hflag => exact hflag
  | missed _ => exact hp hp'
  | spared => exact hp rfl
  | wake => exact hp rfl
  | leave => exact hp'
  | register => exact nomatch hp'
  | block => exact nomatch hp'
  | neverBlocked => exact hp'.elim
  | expire => exact hp'.elim

theorem Next.ne_returned_false (h : p.Next true p') : p' ≠ .returned false := by
  cases h <;> simp

theorem Next.not_deaf (h : p.Next true p') (hp : ¬ p.Deaf) : ¬ p'.Deaf := by
  cases h with
  | missed hflag => cases hflag
  | block => exact absurd rfl hp
  | register | found | spared | wake | neverBlocked | expire | leave => simp [Deaf]

/-- With the flag up, each step of a waiter that is not deaf brings it nearer to returning. -/
theorem Next.left_lt (h : p.Next true p') (hp : ¬ p.Deaf) : p'.left < p.left := by
  cases h with
  | missed hflag => cases hflag
  | block => exact absurd rfl hp
  | register | found | spared | wake | neverBlocked | expire | leave => simp [left]

end Shutdown.Phase

namespace Signal

open Shutdown (Giver Phase Stage Step Waiter Worker)

variable {s s' : Signal} {a : Step} {history : List Step} {i : Nat}

/-! ### Nobody is deaf any more -/

/-- The flag is up, and nobody is deaf to it. -/
structure Heard (s : Signal) : Prop where
  flag : s.flag = true
  awake : ∀ {i p}, s.phase? i = some p → ¬ p.Deaf

theorem Heard.step (h : Stepped s a s') (hs : s.Heard) : s'.Heard := by
  refine ⟨h.flag_iff.2 (.inl hs.flag),
    h.phase_keeps (P := fun p => ¬ p.Deaf) (by simp [Phase.Deaf]) ?_ ?_ hs.awake⟩
  · rw [hs.flag]
    exact Phase.Next.not_deaf
  · exact fun {p _} _ _ => p.not_deaf_woken

/-! ### What is true of every state that is reached -/

/-- The flag was raised before anybody was told, and everybody was told before a call
that gives the signal returned. -/
structure Sound (s : Signal) : Prop where
  raised : ∀ {g}, g ∈ s.givers → g ≠ .called → s.flag = true
  told : ∀ {i p}, s.phase? i = some p → p.Told → s.flag = true
  heard : .returned ∈ s.givers → s.Heard

theorem sound_empty : ({} : Signal).Sound where
  raised h := nomatch h
  told h := nomatch h
  heard h := nomatch h

theorem Sound.flag_of_stored (hs : s.Sound) {j : Nat} (hj : s.givers[j]? = some .stored) :
    s.flag = true :=
  hs.raised (List.mem_of_getElem? hj) nofun

theorem Sound.step (h : Stepped s a s') (hs : s.Sound) : s'.Sound := by
  have hkeep (hflag : s.flag = true) : s'.flag = true := h.flag_iff.2 (.inl hflag)
  refine ⟨fun {g} hg hne => ?_, fun {i p'} hp' htold => ?_, fun hreturned => ?_⟩
  · cases h with
    | wait | move | work | rest | resume => exact hs.raised hg hne
    | give =>
      rcases List.mem_append.1 hg with hold | hnew
      · exact hs.raised hold hne
      · exact absurd (List.mem_singleton.1 hnew) hne
    | store => rfl
    | notify hj => exact hs.flag_of_stored hj
  · refine hkeep (h.phase_keeps
      (P := fun p => p.Told → s.flag = true) nofun ?_ ?_ hs.told hp' htold)
    · exact Phase.Next.told
    · -- who is woken is told, but the flag is up by then
      intro p j ha _ _
      subst ha
      cases h with
      | move ha => exact nomatch ha
      | notify hj => exact hs.flag_of_stored hj
  · have hold (hold : .returned ∈ s.givers) : s'.Heard := (hs.heard hold).step h
    cases h with
    | wait | move | work | rest | resume => exact hold hreturned
    | give => exact hold (by simpa using hreturned)
    | store hj =>
      rcases List.mem_or_eq_of_mem_set hreturned with hmem | heq
      · exact hold hmem
      · cases heq
    | notify hj =>
      -- this is the step that wakes everybody
      refine ⟨hs.flag_of_stored hj, fun {i p'} hp' => ?_⟩
      rw [phase?_map_wakeUp] at hp'
      obtain ⟨p, _, rfl⟩ := Option.map_eq_some_iff.1 hp'
      exact p.not_deaf_woken

theorem sound_of_steps? (h : steps? {} history = some s) : s.Sound :=
  steps?_keep Sound.step h sound_empty

/-! ### A call returns, with the signal -/

theorem result?_eq_some_false (h : Stepped s a s') (hflag : s.flag = true)
    (hs' : s'.result? i = some false) :
    s.result? i = some false := by
  refine Decidable.byContradiction fun hs => ?_
  refine h.phase_keeps (P := fun p => p ≠ .returned false) nofun ?_ ?_ ?_
    (result?_eq_some.1 hs') rfl
  · rw [hflag]
    exact fun hnext _ => hnext.ne_returned_false
  · exact fun _ => mt Phase.woken_eq_returned.1
  · rintro _ hp rfl
    exact hs (result?_eq_some.2 hp)

/-- How many steps of its own a call needs at most before it has returned. -/
def stepsLeft (s : Signal) (i : Nat) : Nat := (s.phase? i).elim 2 Phase.left

theorem stepsLeft_le : s.stepsLeft i ≤ 2 := by
  unfold stepsLeft
  cases s.phase? i with
  | none => exact Nat.le_refl 2
  | some p => exact p.left_le

/-- **Each step of a call's own brings it nearer to its return, and no other step delays that.** -/
theorem Heard.stepsLeft_add_le (h : Stepped s a s') (hs : s.Heard) :
    s'.stepsLeft i + (if a.waiter? = some i then 1 else 0) ≤ s.stepsLeft i := by
  have hchange := h.change i
  rw [hs.flag] at hchange
  unfold stepsLeft
  generalize hp : s.phase? i = p at hchange ⊢
  generalize s'.phase? i = p' at hchange ⊢
  cases hchange with
  | same _ ha =>
    rw [if_neg ha]
    exact Nat.le_refl _
  | called ha =>
    rw [if_neg ha]
    exact Nat.le_refl 2
  | own ha hnext =>
    rw [if_pos ha]
    exact hnext.left_lt (hs.awake hp)
  | woken p ha =>
    subst ha
    exact Nat.le_of_eq (Phase.left_woken p)

/-- The steps of a history that are a call's own. -/
def ownSteps (history : List Step) (i : Nat) : Nat := history.countP fun a => a.waiter? = some i

theorem Heard.stepsLeft_add_ownSteps_le (h : s.steps? history = some s') (hs : s.Heard) :
    s'.stepsLeft i + ownSteps history i ≤ s.stepsLeft i := by
  induction history generalizing s with
  | nil =>
    cases h
    exact Nat.le_refl _
  | cons a rest ih =>
    obtain ⟨t, ha, ht⟩ := steps?_cons.1 h
    have hfirst := hs.stepsLeft_add_le (stepped ha) (i := i)
    have hrest := ih ht (hs.step (stepped ha))
    unfold ownSteps at hrest ⊢
    rw [List.countP_cons]
    simp only [decide_eq_true_eq]
    omega

theorem result?_of_stepsLeft_eq_zero (h : s.stepsLeft i = 0) :
    ∃ signaled, s.result? i = some signaled := by
  unfold stepsLeft at h
  cases hp : s.phase? i with
  | none => simp [hp] at h
  | some p =>
    rw [hp] at h
    obtain ⟨signaled, rfl⟩ := Phase.eq_returned_of_left_eq_zero h
    exact ⟨signaled, result?_eq_some.2 hp⟩

/-- A call that has not returned can take a step, unless it is deaf. -/
theorem exists_step? {w : Waiter} (hw : s.waiters[i]? = some w) (hdeaf : ¬ w.phase.Deaf)
    (hnone : s.result? i = none) :
    ∃ a t, a.waiter? = some i ∧ s.step? a = some t := by
  have hmove {a : Step} {f : Waiter → Option Phase} (ha : a.waiter? = some i)
      (hstep : s.step? a = s.moveWaiter i f)
      (hf : (f w).isSome) : ∃ a t, a.waiter? = some i ∧ s.step? a = some t := by
    obtain ⟨p, hp⟩ := Option.isSome_iff_exists.1 hf
    exact ⟨a, _, ha, hstep.trans (moveWaiter_eq_some.2 ⟨w, p, hw, hp, rfl⟩)⟩
  obtain ⟨timed, phase⟩ := w
  cases phase with
  | called => exact hmove (a := .register i) rfl rfl rfl
  | registered woken => exact hmove (a := .look i) rfl rfl rfl
  | looked woken => exact hmove (a := .block i) rfl rfl rfl
  | blocked woken =>
    cases woken with
    | true => exact hmove (a := .wake i) rfl rfl rfl
    | false => exact absurd rfl hdeaf
  | expired => exact hmove (a := .look i) rfl rfl rfl
  | returned signaled =>
    have hreturned : s.result? i = some signaled := result?_eq_some.2 (phase?_of_getElem? hw)
    rw [hreturned] at hnone
    cases hnone

/-- What comes of a call once the signal has been given, after so many steps. -/
structure Delivered (s : Signal) (i : Nat) (ownSteps : Nat) : Prop where
  /-- It does not return as if its time were up. -/
  never_false : s.result? i ≠ some false
  /-- It is not stuck. -/
  goes_on : i < s.waiters.length → s.result? i = none →
    ∃ a t, a.waiter? = some i ∧ s.step? a = some t
  /-- Two steps of its own are enough. -/
  soon : 2 ≤ ownSteps → s.result? i = some true

/-- **Once the signal has been given, it gets to every call that has not returned, now or ever.** -/
theorem Heard.delivered (h : s.steps? history = some s') (hs : s.Heard)
    (hnone : s.result? i = none) :
    s'.Delivered i (ownSteps history i) := by
  have hs' : s'.Heard := steps?_keep Heard.step h hs
  have hfalse : s'.result? i ≠ some false := by
    have hkeep := steps?_keep (P := fun t => t.flag = true ∧ t.result? i ≠ some false)
      (fun hstep ht =>
        ⟨hstep.flag_iff.2 (.inl ht.1), fun hr => ht.2 (result?_eq_some_false hstep ht.1 hr)⟩) h
    exact (hkeep ⟨hs.flag, by simp [hnone]⟩).2
  refine ⟨hfalse, fun hi hnone' => ?_, fun htwo => ?_⟩
  · have hw := List.getElem?_eq_getElem hi
    exact exists_step? hw (hs'.awake (phase?_of_getElem? hw)) hnone'
  · have hleft : s'.stepsLeft i = 0 := by
      have := hs.stepsLeft_add_ownSteps_le h (i := i)
      have := s.stepsLeft_le (i := i)
      omega
    obtain ⟨signaled, hr⟩ := result?_of_stepsLeft_eq_zero hleft
    cases signaled with
    | true => exact hr
    | false => exact absurd hr hfalse

/-! ### Tasks that work in cycles -/

/-- How many cycles a task has begun. -/
def cyclesBegun (s : Signal) (k : Nat) : Nat := (s.workers[k]?).elim 0 Worker.cycles

/-- How many cycles a task will have begun if no call returns any more without the signal. -/
def bound (s : Signal) (w : Worker) : Nat :=
  match w.stage with
  | .waiting i => if s.result? i = some false then w.cycles + 1 else w.cycles
  | .working | .ended => w.cycles

/-- The same for the task of a number; one that has not begun yet will begin one cycle. -/
def cyclesBound (s : Signal) (k : Nat) : Nat := (s.workers[k]?).elim 1 s.bound

theorem bound_eq (s : Signal) (w : Worker) : s.bound w = w.cycles ∨ s.bound w = w.cycles + 1 := by
  unfold bound
  split
  · split
    · exact .inr rfl
    · exact .inl rfl
  · exact .inl rfl
  · exact .inl rfl

theorem cyclesBound_eq (s : Signal) (k : Nat) :
    s.cyclesBound k = s.cyclesBegun k ∨ s.cyclesBound k = s.cyclesBegun k + 1 := by
  unfold cyclesBegun cyclesBound
  cases s.workers[k]? with
  | none => exact .inr rfl
  | some w => exact bound_eq s w

theorem bound_resumeWorker {w w' : Worker} (h : s.resumeWorker w = some w') :
    s'.bound w' ≤ s.bound w := by
  unfold resumeWorker at h
  split at h
  · rename_i i hstage
    split at h
    · cases h
      show w.cycles ≤ s.bound w
      have := bound_eq s w
      omega
    · rename_i hphase
      cases h
      have hr : s.result? i = some false := result?_eq_some.2 hphase
      simp [bound, hstage, hr]
    · cases h
  · cases h

/-- With the flag up, nothing raises the bound of a task that stays as it is. -/
theorem bound_le (h : Stepped s a s') (hflag : s.flag = true) (w : Worker) :
    s'.bound w ≤ s.bound w := by
  unfold bound
  split
  · rename_i i _
    by_cases hs' : s'.result? i = some false
    · have hs : s.result? i = some false := result?_eq_some_false h hflag hs'
      simp only [if_pos hs', if_pos hs, Nat.le_refl]
    · rw [if_neg hs']
      split <;> omega
  · exact Nat.le_refl _
  · exact Nat.le_refl _

/-- **With the flag up, no task may begin more cycles than it might before.** -/
theorem cyclesBound_le (h : Stepped s a s') (hflag : s.flag = true) (k : Nat) :
    s'.cyclesBound k ≤ s.cyclesBound k := by
  have hsame (o : Option Worker) : o.elim 1 s'.bound ≤ o.elim 1 s.bound := by
    cases o with
    | none => exact Nat.le_refl 1
    | some w => exact bound_le h hflag w
  -- a task that goes on is replaced by one with no larger bound
  have hset {j : Nat} {w w' : Worker} (hj : s.workers[j]? = some w) (hw : s'.bound w' ≤ s.bound w) :
      ((s.workers.set j w')[k]?).elim 1 s'.bound ≤ (s.workers[k]?).elim 1 s.bound := by
    by_cases hk : j = k
    · subst hk
      rw [List.getElem?_set_self (List.getElem?_eq_some_iff.1 hj).1, hj]
      exact hw
    · rw [List.getElem?_set_ne hk]
      exact hsame _
  have hnew : s'.result? s.waiters.length ≠ some false := by
    intro hr
    have hphase := result?_eq_some.1 (result?_eq_some_false h hflag hr)
    rw [phase?, List.getElem?_eq_none (Nat.le_refl _)] at hphase
    cases hphase
  unfold cyclesBound
  cases h with
  | wait | move | give | store | notify => exact hsame _
  | work =>
    rcases Nat.lt_or_ge k s.workers.length with hk | hk
    · rw [List.getElem?_append_left hk]
      exact hsame _
    · rw [List.getElem?_append_right hk, List.getElem?_eq_none hk]
      cases k - s.workers.length with
      | zero => exact Nat.le_refl 1
      | succ => exact Nat.le_refl 1
  | rest hk =>
    exact hset hk (Nat.le_of_eq (if_neg hnew))
  | resume hk hw => exact hset hk (bound_resumeWorker hw)

theorem cyclesBegun_le (h : s.steps? history = some s') (hflag : s.flag = true) (k : Nat) :
    s'.cyclesBegun k ≤ s.cyclesBegun k + 1 := by
  have hkeep := steps?_keep (P := fun t => t.flag = true ∧ t.cyclesBound k ≤ s.cyclesBound k)
    (fun hstep ht =>
      ⟨hstep.flag_iff.2 (.inl ht.1), Nat.le_trans (cyclesBound_le hstep ht.1 k) ht.2⟩) h
  have hle : s'.cyclesBound k ≤ s.cyclesBound k := (hkeep ⟨hflag, Nat.le_refl _⟩).2
  have hbefore := cyclesBound_eq s k
  have hafter := cyclesBound_eq s' k
  omega

/-! ### The whole of it -/

/-- **No shutdown is lost**, in whatever order the steps of all calls come.

  * A call returns true only after the flag was raised.
  * When a call that gives the signal has returned, nobody blocks or is about to block without
    having been woken, and the signal gets to every call that has not returned or comes later.
  * From the first step of such a call on, which raises the flag, every task
  begins at most one more cycle. -/
theorem never_lost {earlier later : List Step} (h : steps? {} earlier = some s)
    (h' : s.steps? later = some s') :
    (∀ i, s.result? i = some true → ∃ j, .store j ∈ earlier) ∧
    (.returned ∈ s.givers →
      (∀ w ∈ s.waiters, w.phase ≠ .looked false ∧ w.phase ≠ .blocked false) ∧
      ∀ i, s.result? i = none → s'.Delivered i (ownSteps later i)) ∧
    ((∃ g ∈ s.givers, g ≠ .called) → ∀ k, s'.cyclesBegun k ≤ s.cyclesBegun k + 1) := by
  have hs : s.Sound := sound_of_steps? h
  refine ⟨fun i hr => ?_, fun hreturned => ⟨fun w hw => ?_, fun i hnone => ?_⟩, ?_⟩
  · have hflag : s.flag = true := hs.told (result?_eq_some.1 hr) rfl
    exact ((steps?_flag h).1 hflag).resolve_left nofun
  · obtain ⟨i, hi⟩ := List.mem_iff_getElem?.1 hw
    have hdeaf := (hs.heard hreturned).awake (phase?_of_getElem? hi)
    constructor
    · intro hlooked
      exact hdeaf (hlooked ▸ rfl)
    · intro hblocked
      exact hdeaf (hblocked ▸ rfl)
  · exact (hs.heard hreturned).delivered h' hnone
  · rintro ⟨g, hg, hne⟩ k
    exact cyclesBegun_le h' (hs.raised hg hne) k

/-- The call of a task that works in cycles returns before the signal is given.  Another call finds
the flag down just before that and blocks, and a third one finds it up before anybody is woken. -/
def sampleRace : List Step :=
  [.work, .rest 0, .register 0, .look 0, .block 0, .expire 0, .look 0,
    .wait true, .register 1, .look 1, .give, .wait false, .store 0, .block 1, .register 2,
    .look 2, .notify 0]

/-- What it leads to. -/
def sampleGiven : Signal where
  flag := true
  waiters := [⟨true, .returned false⟩, ⟨true, .blocked true⟩, ⟨false, .returned true⟩]
  givers := [.returned]
  workers := [⟨1, .waiting 0⟩]

/-- The task begins another cycle and calls once more, and the time of the blocked call is up. -/
def sampleEnd : List Step :=
  [.resume 0, .expire 1, .rest 0, .register 3, .look 1, .look 3, .resume 0]

/-- What that leads to. -/
def sampleEnded : Signal where
  flag := true
  waiters := [⟨true, .returned false⟩, ⟨true, .returned true⟩, ⟨false, .returned true⟩,
    ⟨true, .returned true⟩]
  givers := [.returned]
  workers := [⟨2, .ended⟩]

theorem never_lost_sampleRace :
    steps? {} sampleRace = some sampleGiven ∧ sampleGiven.steps? sampleEnd = some sampleEnded ∧
    (sampleGiven.result? 2 = some true ∧ ∃ j, .store j ∈ sampleRace) ∧
    (.returned ∈ sampleGiven.givers ∧
      ∀ w ∈ sampleGiven.waiters, w.phase ≠ .looked false ∧ w.phase ≠ .blocked false) ∧
    (∀ i ∈ [1, 3], sampleGiven.result? i = none ∧ sampleEnded.result? i = some true) ∧
    sampleGiven.cyclesBegun 0 = 1 ∧ sampleEnded.cyclesBegun 0 ≤ 2 := by
  have h : steps? {} sampleRace = some sampleGiven := by decide
  have h' : sampleGiven.steps? sampleEnd = some sampleEnded := by decide
  obtain ⟨hraised, hgiven, hcycles⟩ := never_lost h h'
  obtain ⟨hawake, hdelivered⟩ := hgiven (by decide)
  refine ⟨h, h', ⟨by decide, hraised 2 (by decide)⟩, ⟨by decide, hawake⟩, fun i hi => ?_,
    by decide, hcycles ⟨.returned, by decide, by decide⟩ 0⟩
  have hnone : sampleGiven.result? i = none := by
    revert i
    decide
  refine ⟨hnone, (hdelivered i hnone).soon ?_⟩
  revert i
  decide

end Signal

end Firewall
