/-
Work that is run in a world.

Work in a world is a function of the world it starts in: it gives a result or an error, and
the world it ends in.  A sequence does its first part and, unless that is given up, its
second in the world that the first one left.

So what every request keeps is kept by the work as a whole, however far it gets
(`Keeps.bind`): there is no need to say at which step it was given up.
-/
import Firewall.Error
import Firewall.Machine.World

namespace Firewall.Work

variable {α β : Type}

/-- Does work in a world. -/
def exec (work : Work (StateM World) α) (w : World) : Except Error α × World := work.run.run w

section

variable (w : World)

theorem exec_bind (work : Work (StateM World) α) (next : α → Work (StateM World) β) :
    exec (work >>= next) w = match exec work w with
      | (.ok a, w') => exec (next a) w'
      | (.error e, w') => (.error e, w') := by
  unfold exec
  rw [ExceptT.run_bind, StateT.run_bind]
  rcases work.run.run w with ⟨_ | a, w'⟩ <;> rfl

theorem exec_request (r : StateM World (Except Fault α)) : exec (request r) w = match r.run w with
      | (.ok a, w') => (.ok a, w')
      | (.error fault, w') => (.error (.system fault), w') := by
  unfold exec request
  rw [ExceptT.run_bind, StateT.run_bind, ExceptT.run_liftM, StateT.run_map]
  rcases StateT.run r w with ⟨_ | a, w'⟩ <;> rfl

theorem exec_tryCatch (work : Work (StateM World) α) (handler : Error → Work (StateM World) α) :
    exec (tryCatch work handler) w = match exec work w with
      | (.ok a, w') => (.ok a, w')
      | (.error e, w') => exec (handler e) w' := by
  unfold exec
  rw [ExceptT.run_tryCatch, StateT.run_bind]
  rcases work.run.run w with ⟨_ | a, w'⟩ <;> rfl

end

/-! ### Sequences taken apart -/

theorem exec_bind_eq_ok {work : Work (StateM World) α} {next : α → Work (StateM World) β}
    {w w' : World} {b : β} :
    exec (work >>= next) w = (.ok b, w') ↔
      ∃ a w₁, exec work w = (.ok a, w₁) ∧ exec (next a) w₁ = (.ok b, w') := by
  rw [exec_bind]
  constructor
  · intro h
    rcases hexec : exec work w with ⟨e | a, w₁⟩
    · rw [hexec] at h
      exact nomatch h
    · rw [hexec] at h
      exact ⟨a, w₁, rfl, h⟩
  · rintro ⟨a, w₁, hwork, hnext⟩
    rw [hwork]
    exact hnext

theorem exec_request_eq_ok {r : StateM World (Except Fault α)} {w w' : World} {a : α} :
    exec (request r) w = (.ok a, w') ↔ r.run w = (.ok a, w') := by
  rw [exec_request]
  constructor
  · intro h
    rcases hrun : r.run w with ⟨fault | b, w₁⟩
    · rw [hrun] at h
      exact nomatch h
    · rw [hrun] at h
      cases h
      rfl
  · intro h
    rw [h]

/-! ### What work keeps -/

/-- What holds before some work holds after it, whatever comes of it. -/
def Keeps (P : World → Prop) (work : Work (StateM World) α) : Prop := ∀ w, P w → P (exec work w).2

section

variable {P : World → Prop}

theorem Keeps.bind {work : Work (StateM World) α} {next : α → Work (StateM World) β}
    (hwork : Keeps P work)
    (hnext : ∀ a, Keeps P (next a)) : Keeps P (work >>= next) := by
  intro w h
  have hfirst := hwork w h
  rw [exec_bind]
  rcases hexec : exec work w with ⟨e | a, w'⟩
  · rwa [hexec] at hfirst
  · rw [hexec] at hfirst
    exact hnext a w' hfirst

theorem Keeps.request {r : StateM World (Except Fault α)} (h : ∀ w, P w → P (r.run w).2) :
    Keeps P (request r) := by
  intro w hw
  have hafter := h w hw
  rw [exec_request]
  rcases hrun : r.run w with ⟨fault | a, w'⟩
  · rwa [hrun] at hafter
  · rwa [hrun] at hafter

end

end Firewall.Work
