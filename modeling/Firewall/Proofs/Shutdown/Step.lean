/-
What one step can do.

A step is one of eight kinds, and `Stepped` has a constructor for each: what it takes for
the step to be possible, and what it leaves.  The five steps of a waiter are one kind, and
`Phase.Next` says from which phase to which they lead.

Seen from one waiter a step is even less: nothing happens to it, or it is called, or the
step is its own, or it is woken (`Change`).  What is said of a waiter is proved from that.
-/
import Firewall.Shutdown.Signal

namespace Firewall

namespace Shutdown

/-- The waiter that a step is a step of. -/
def Step.waiter? : Step → Option Nat
  | register i | look i | block i | wake i | expire i => some i
  | wait _ | give | store _ | notify _ | work | rest _ | resume _ => none

namespace Phase

/-- What a waiter's own step can lead to, with the flag raised or down. -/
inductive Next (flag : Bool) : Phase → Phase → Prop
  | register : Next flag .called (.registered false)
  | found {woken : Bool} (h : flag = true) : Next flag (.registered woken) (.returned true)
  | missed {woken : Bool} (h : flag = false) : Next flag (.registered woken) (.looked woken)
  | block : Next flag (.looked false) (.blocked false)
  | spared : Next flag (.looked true) (.returned true)
  | wake : Next flag (.blocked true) (.returned true)
  | neverBlocked : Next flag .called .expired
  | expire {woken : Bool} : Next flag (.blocked woken) .expired
  | leave : Next flag .expired (.returned flag)

/-- What waking makes of a phase. -/
def woken : Phase → Phase
  | registered _ => .registered true
  | looked _ => .looked true
  | blocked _ => .blocked true
  | p => p

variable {flag : Bool} {p p' : Phase}

theorem next_lookAt (h : Signal.lookAt flag p = some p') : p.Next flag p' := by
  unfold Signal.lookAt at h
  split at h
  · cases h
    cases hflag : flag with
    | true => exact .found rfl
    | false => exact .missed rfl
  · cases h
    exact .leave
  · cases h

theorem next_blockOn (h : Signal.blockOn p = some p') : p.Next flag p' := by
  unfold Signal.blockOn at h
  split at h
  · rename_i woken
    cases h
    cases woken with
    | true => exact .spared
    | false => exact .block
  · cases h

theorem next_ite {w : Waiter} {q : Phase} (hnext : p.Next flag q)
    (h : (if w.phase = p then some q else none) = some p') : w.phase.Next flag p' := by
  split at h
  · rename_i hp
    cases h
    exact hp ▸ hnext
  · cases h

end Phase

end Shutdown

namespace Signal

open Shutdown (Giver Phase Step Waiter Worker)

variable {s s' : Signal} {a : Step} {i : Nat}

@[simp] theorem phase_wakeUp (w : Waiter) : (wakeUp w).phase = w.phase.woken := by
  unfold wakeUp Phase.woken
  split <;> simp [*]

/-! ### The kinds of steps -/

/-- What a step takes, and what it leaves. -/
inductive Stepped (s : Signal) : Step → Signal → Prop
  | wait (timed : Bool) :
    Stepped s (.wait timed) { s with waiters := s.waiters ++ [⟨timed, .called⟩] }
  | move {a : Step} {i : Nat} {w : Waiter} {p : Phase} (ha : a.waiter? = some i)
    (hw : s.waiters[i]? = some w)
    (hp : w.phase.Next s.flag p) :
      Stepped s a { s with waiters := s.waiters.set i { w with phase := p } }
  | give : Stepped s .give { s with givers := s.givers ++ [.called] }
  | store {j : Nat} (hj : s.givers[j]? = some .called) :
    Stepped s (.store j) { s with flag := true, givers := s.givers.set j .stored }
  | notify {j : Nat} (hj : s.givers[j]? = some .stored) :
    Stepped s (.notify j)
      { s with waiters := s.waiters.map wakeUp, givers := s.givers.set j .returned }
  | work : Stepped s .work { s with workers := s.workers ++ [{}] }
  | rest {k cycles : Nat} (hk : s.workers[k]? = some ⟨cycles, .working⟩) :
    Stepped s (.rest k) { s with
    waiters := s.waiters ++ [⟨true, .called⟩]
    workers := s.workers.set k ⟨cycles, .waiting s.waiters.length⟩ }
  | resume {k : Nat} {w w' : Worker} (hk : s.workers[k]? = some w)
    (hw : s.resumeWorker w = some w') :
    Stepped s (.resume k) { s with workers := s.workers.set k w' }

theorem moveWaiter_eq_some {f : Waiter → Option Phase} : s.moveWaiter i f = some s' ↔
    ∃ w p, s.waiters[i]? = some w ∧ f w = some p ∧
      { s with waiters := s.waiters.set i { w with phase := p } } = s' := by
  unfold moveWaiter
  simp only [Option.bind_eq_bind, Option.bind_eq_some_iff, Option.pure_def, Option.some.injEq]
  constructor
  · rintro ⟨w, hw, p, hp, rfl⟩
    exact ⟨w, p, hw, hp, rfl⟩
  · rintro ⟨w, p, hw, hp, rfl⟩
    exact ⟨w, hw, p, hp, rfl⟩

/-- **Every step is of one of the kinds.** -/
theorem stepped (h : s.step? a = some s') : Stepped s a s' := by
  -- the five steps of a waiter differ in the phases they lead from and to
  have hmove {i : Nat} {f : Waiter → Option Phase} (ha : a.waiter? = some i)
      (hf : ∀ w p, f w = some p → w.phase.Next s.flag p) (h : s.moveWaiter i f = some s') :
        Stepped s a s' := by
    obtain ⟨w, p, hw, hp, rfl⟩ := moveWaiter_eq_some.1 h
    exact .move ha hw (hf w p hp)
  cases a with
  | wait timed =>
    cases h
    exact .wait timed
  | register i => exact hmove rfl (fun w p hp => Phase.next_ite .register hp) h
  | look i => exact hmove rfl (fun w p hp => Phase.next_lookAt hp) h
  | block i => exact hmove rfl (fun w p hp => Phase.next_blockOn hp) h
  | wake i => exact hmove rfl (fun w p hp => Phase.next_ite .wake hp) h
  | expire i =>
    refine hmove rfl (fun w p hp => ?_) h
    split at hp
    · rename_i hcalled
      cases hp
      exact hcalled ▸ .neverBlocked
    · rename_i hblocked
      cases hp
      exact hblocked ▸ .expire
    · cases hp
  | give =>
    cases h
    exact .give
  | store j =>
    simp only [step?] at h
    split at h
    · rename_i hj
      cases h
      exact .store hj
    · cases h
  | notify j =>
    simp only [step?] at h
    split at h
    · rename_i hj
      cases h
      exact .notify hj
    · cases h
  | work =>
    cases h
    exact .work
  | rest k =>
    simp only [step?] at h
    split at h
    · rename_i hk
      cases h
      exact .rest hk
    · cases h
  | resume k =>
    simp only [step?, Option.bind_eq_bind, Option.bind_eq_some_iff, Option.pure_def,
      Option.some.injEq] at h
    obtain ⟨w, hk, w', hw, rfl⟩ := h
    exact .resume hk hw

/-! ### What a step does to one waiter -/

/-- How far the waiter of a number is, if there is one. -/
def phase? (s : Signal) (i : Nat) : Option Phase := (s.waiters[i]?).map Waiter.phase

theorem phase?_of_getElem? {w : Waiter} (hw : s.waiters[i]? = some w) :
    s.phase? i = some w.phase := by
  rw [phase?, hw, Option.map_some]

theorem result?_eq_some {signaled : Bool} :
    s.result? i = some signaled ↔ s.phase? i = some (.returned signaled) := by
  unfold result? phase?
  split
  · rename_i h
    simp [h]
  · rename_i h
    exact ⟨fun hn => (nomatch hn), fun hs => absurd hs (h signaled)⟩

/-- What a step makes of a waiter. -/
inductive Change (flag : Bool) (a : Step) (i : Nat) : Option Phase → Option Phase → Prop
  | same (p : Option Phase) (ha : a.waiter? ≠ some i) : Change flag a i p p
  | called (ha : a.waiter? ≠ some i) : Change flag a i none (some .called)
  | own {p p' : Phase} (ha : a.waiter? = some i) (hp : p.Next flag p') :
    Change flag a i (some p) (some p')
  | woken (p : Phase) {j : Nat} (ha : a = .notify j) : Change flag a i (some p) (some p.woken)

theorem change_append (timed : Bool) (ha : a.waiter? = none)
    (hs : s'.waiters = s.waiters ++ [⟨timed, .called⟩]) :
    Change s.flag a i (s.phase? i) (s'.phase? i) := by
  have hown : a.waiter? ≠ some i := by simp [ha]
  unfold phase?
  rw [hs]
  rcases Nat.lt_trichotomy i s.waiters.length with hi | rfl | hi
  · rw [List.getElem?_append_left hi]
    exact .same _ hown
  · rw [List.getElem?_concat_length, List.getElem?_eq_none (Nat.le_refl _)]
    exact .called hown
  · have hnew : (s.waiters ++ [(⟨timed, .called⟩ : Waiter)]).length ≤ i := by
      rw [List.length_append]
      exact hi
    rw [List.getElem?_eq_none hnew, List.getElem?_eq_none (Nat.le_of_lt hi)]
    exact .same _ hown

/-- Nothing happens to a waiter in a step that leaves the waiters as they are. -/
theorem change_of_waiters_eq (ha : a.waiter? = none) (hs : s'.waiters = s.waiters) :
    Change s.flag a i (s.phase? i) (s'.phase? i) := by
  unfold phase?
  rw [hs]
  exact .same _ (by simp [ha])

theorem phase?_map_wakeUp (s : Signal) (givers : List Giver) (i : Nat) :
    phase? { s with waiters := s.waiters.map wakeUp, givers } i = (s.phase? i).map Phase.woken := by
  unfold phase?
  rw [List.getElem?_map]
  cases s.waiters[i]? with
  | none => rfl
  | some w => exact congrArg some (phase_wakeUp w)

/-- **A waiter is called, goes on by itself, or is woken.** -/
theorem Stepped.change (h : Stepped s a s') (i : Nat) :
    Change s.flag a i (s.phase? i) (s'.phase? i) := by
  cases h with
  | wait timed => exact change_append timed rfl rfl
  | @move a m w p ha hw hp =>
    unfold phase?
    by_cases hm : m = i
    · subst hm
      have hlt : m < s.waiters.length := (List.getElem?_eq_some_iff.1 hw).1
      rw [List.getElem?_set_self hlt, hw]
      exact .own ha hp
    · rw [List.getElem?_set_ne hm]
      exact .same _ (by simpa [ha] using hm)
  | give => exact change_of_waiters_eq rfl rfl
  | store hj => exact change_of_waiters_eq rfl rfl
  | notify hj =>
    rw [phase?_map_wakeUp]
    cases s.phase? i with
    | none => exact .same none (by simp [Step.waiter?])
    | some p => exact .woken p rfl
  | work => exact change_of_waiters_eq rfl rfl
  | rest hk => exact change_append true rfl rfl
  | resume hk hw => exact change_of_waiters_eq rfl rfl

/-- What is true of a waiter when it is called stays true of it, if its own
steps and being woken keep it true. -/
theorem Stepped.phase_keeps {P : Phase → Prop} (h : Stepped s a s') (hcalled : P .called)
    (hown : ∀ {p p'}, p.Next s.flag p' → P p → P p')
    (hwoken : ∀ {p j}, a = .notify j → P p → P p.woken) (hs : ∀ {p}, s.phase? i = some p → P p)
    {p' : Phase} (hp' : s'.phase? i = some p') : P p' := by
  have hchange := h.change i
  rw [hp'] at hchange
  generalize hp : s.phase? i = p at hchange
  cases hchange with
  | same => exact hs hp
  | called => exact hcalled
  | own _ hnext => exact hown hnext (hs hp)
  | woken p ha => exact hwoken ha (hs hp)

/-! ### What a step does to the flag -/

theorem Stepped.flag_iff (h : Stepped s a s') :
    s'.flag = true ↔ s.flag = true ∨ ∃ j, a = .store j := by
  cases h with
  | store hj => simp
  | move ha hw hp =>
    have hstore : ¬ ∃ j, a = .store j := by
      rintro ⟨j, rfl⟩
      cases ha
    simp [hstore]
  | wait | give | notify | work | rest | resume => simp

/-! ### Histories -/

theorem steps?_cons {rest : List Step} :
    s.steps? (a :: rest) = some s' ↔ ∃ t, s.step? a = some t ∧ t.steps? rest = some s' := by
  simp only [steps?, List.foldlM_cons, Option.bind_eq_bind, Option.bind_eq_some_iff]

/-- **What every step keeps, a history keeps.** -/
theorem steps?_keep {P : Signal → Prop}
    (hstep : ∀ {s s' : Signal} {a : Step}, Stepped s a s' → P s → P s') {history : List Step}
    (h : s.steps? history = some s') (hs : P s) : P s' := by
  induction history generalizing s with
  | nil =>
    cases h
    exact hs
  | cons a rest ih =>
    obtain ⟨t, ha, ht⟩ := steps?_cons.1 h
    exact ih ht (hstep (stepped ha) hs)

theorem steps?_flag {history : List Step} (h : s.steps? history = some s') :
    s'.flag = true ↔ s.flag = true ∨ ∃ j, .store j ∈ history := by
  induction history generalizing s with
  | nil =>
    cases h
    simp
  | cons a rest ih =>
    obtain ⟨t, ha, ht⟩ := steps?_cons.1 h
    rw [ih ht, (stepped ha).flag_iff]
    simp only [List.mem_cons, or_assoc, exists_or, eq_comm]

end Signal

end Firewall
