/-
The signal that work is to end.

Many tasks wait for the signal, and many may give it, at the same time.  Waiting
and giving are not done in one go: a waiter first registers, so that it will be
woken, then looks at the flag, and only if the flag is down does it go on to
block, which it does not if it was woken meanwhile; who gives the signal first
raises the flag and then wakes whoever is registered by then.  `step?` is one such
step of one task, and a history is a list of steps that were all possible.

A waiter that registers before it looks cannot miss the signal: if it found the
flag down, the flag was raised later, and it was registered before that.
-/
namespace Firewall

namespace Shutdown

/-- How far a waiter is. -/
inductive Phase where
  /-- It has not registered yet. -/
  | called
  /-- It is registered and has not looked at the flag. -/
  | registered (woken : Bool)
  /-- It found the flag down and is about to block. -/
  | looked (woken : Bool)
  /-- It waits to be woken. -/
  | blocked (woken : Bool)
  /-- Its time is up, and it looks at the flag once more. -/
  | expired
  /-- It has returned, and told whether the signal was given. -/
  | returned (signaled : Bool)
  deriving DecidableEq, Repr

/-- A call that waits for the signal. -/
structure Waiter where
  /-- Whether it waits for a limited time. -/
  timed : Bool
  phase : Phase := .called
  deriving DecidableEq, Repr

/-- How far a call is that gives the signal. -/
inductive Giver where
  | called
  /-- The flag is raised, and nobody was woken yet. -/
  | stored
  | returned
  deriving DecidableEq, Repr

/-- A task that works in cycles and waits for the signal between each two. -/
inductive Stage where
  | working
  /-- It waits, with a call of its own. -/
  | waiting (waiter : Nat)
  | ended
  deriving DecidableEq, Repr

/-- A task that works in cycles, and how many it has begun. -/
structure Worker where
  cycles : Nat := 1
  stage : Stage := .working
  deriving DecidableEq, Repr

/-- A step of one task. -/
inductive Step where
  /-- A new call waits for the signal. -/
  | wait (timed : Bool)
  | register (waiter : Nat)
  /-- A waiter looks at the flag. -/
  | look (waiter : Nat)
  /-- A waiter that found the flag down blocks, or returns if it has been woken. -/
  | block (waiter : Nat)
  /-- A waiter that was woken returns. -/
  | wake (waiter : Nat)
  /-- The time of a waiter is up. -/
  | expire (waiter : Nat)
  /-- A new call gives the signal. -/
  | give
  | store (giver : Nat)
  /-- Whoever is registered is woken. -/
  | notify (giver : Nat)
  /-- A new task begins its first cycle. -/
  | work
  /-- A task is done with its cycle and waits. -/
  | rest (worker : Nat)
  /-- A task whose call has returned begins another cycle, or ends. -/
  | resume (worker : Nat)
  deriving DecidableEq, Repr

end Shutdown

open Shutdown (Giver Phase Stage Step Waiter Worker)

/-- The signal, and all calls and tasks that have to do with it. -/
structure Signal where
  flag : Bool := false
  waiters : List Waiter := []
  givers : List Giver := []
  workers : List Worker := []
  deriving DecidableEq, Repr

namespace Signal

/-! ### Steps -/

/-- A waiter that is registered has been woken. -/
def wakeUp (w : Waiter) : Waiter :=
  match w.phase with
  | .registered _ => { w with phase := .registered true }
  | .looked _ => { w with phase := .looked true }
  | .blocked _ => { w with phase := .blocked true }
  | _ => w

/-- What a waiter finds when it looks at the flag, if that is what it does next. -/
def lookAt (flag : Bool) : Phase → Option Phase
  | .registered woken => some (if flag then .returned true else .looked woken)
  | .expired => some (.returned flag)
  | _ => none

/-- What becomes of a waiter that is about to block, if it is. -/
def blockOn : Phase → Option Phase
  | .looked woken => some (if woken then .returned true else .blocked false)
  | _ => none

/-- Changes the phase of a waiter, if that is possible. -/
def moveWaiter (s : Signal) (i : Nat) (f : Waiter → Option Phase) : Option Signal := do
  let w ← s.waiters[i]?
  return { s with waiters := s.waiters.set i { w with phase := ← f w } }

/-- Where a task goes whose call has returned. -/
def resumeWorker (s : Signal) (w : Worker) : Option Worker :=
  match w.stage with
  | .waiting i => match (s.waiters[i]?).map Waiter.phase with
    | some (.returned true) => some { w with stage := .ended }
    | some (.returned false) => some ⟨w.cycles + 1, .working⟩
    | _ => none
  | _ => none

/-- One step, if it is possible. -/
def step? (s : Signal) : Step → Option Signal
  | .wait timed => some { s with waiters := s.waiters ++ [⟨timed, .called⟩] }
  | .register i => s.moveWaiter i fun w =>
    if w.phase = .called then some (.registered false) else none
  | .look i => s.moveWaiter i fun w => lookAt s.flag w.phase
  | .block i => s.moveWaiter i fun w => blockOn w.phase
  | .wake i => s.moveWaiter i fun w =>
    if w.phase = .blocked true then some (.returned true) else none
  | .expire i => s.moveWaiter i fun w => match w.timed, w.phase with
    | true, .called => some .expired
    | true, .blocked _ => some .expired
    | _, _ => none
  | .give => some { s with givers := s.givers ++ [.called] }
  | .store j => match s.givers[j]? with
    | some .called => some { s with flag := true, givers := s.givers.set j .stored }
    | _ => none
  | .notify j => match s.givers[j]? with
    | some .stored =>
      some { s with waiters := s.waiters.map wakeUp, givers := s.givers.set j .returned }
    | _ => none
  | .work => some { s with workers := s.workers ++ [{}] }
  | .rest k => match s.workers[k]? with
    | some ⟨cycles, .working⟩ => some { s with
        waiters := s.waiters ++ [⟨true, .called⟩]
        workers := s.workers.set k ⟨cycles, .waiting s.waiters.length⟩ }
    | _ => none
  | .resume k => do
    let w ← s.workers[k]?
    return { s with workers := s.workers.set k (← s.resumeWorker w) }

/-- A history: steps that are all possible, one after the other. -/
def steps? (s : Signal) (history : List Step) : Option Signal := history.foldlM step? s

/-! ### Calls that nothing else comes between -/

/-- A step, or nothing if it is not possible. -/
def attempt (s : Signal) (a : Step) : Signal := (s.step? a).getD s

/-- Whether the signal was given. -/
def isGiven (s : Signal) : Bool := s.flag

/-- What a call that waits has returned. -/
def result? (s : Signal) (i : Nat) : Option Bool :=
  match (s.waiters[i]?).map Waiter.phase with
  | some (.returned signaled) => some signaled
  | _ => none

/-- A call that waits, as far as it gets. -/
def settle (s : Signal) (i : Nat) : Signal :=
  [.register i, .look i, .block i, .wake i].foldl attempt s

/-- A call that waits, after its time. -/
def timeOut (s : Signal) (i : Nat) : Signal := [.expire i, .look i].foldl attempt s

/-- A call that waits begins; with the number of that call. -/
def enter (s : Signal) (timed : Bool) : Signal × Nat :=
  ((s.attempt (.wait timed)).settle s.waiters.length, s.waiters.length)

/-- What a call returns in the end. -/
def join (s : Signal) (i : Nat) : Signal × Option Bool :=
  let s := (s.settle i).timeOut i
  (s, s.result? i)

/-- Gives the signal. -/
def give (s : Signal) : Signal :=
  [.give, .store s.givers.length, .notify s.givers.length].foldl attempt s

end Signal

end Firewall
