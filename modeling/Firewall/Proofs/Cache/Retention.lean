/-
How long the cache holds on to an answer.

`live_recorded` compares the cache with what was told at times that no event is after.  At any
other time the cache may have dropped more than is over: a purge, and a response that tells
something, drop what is over at their own time.  So an owner has a record exactly while
its last answer is not replaced and no later event has found it over
(`recorded_iff_heldUntil`), whatever the order of the times.
-/
import Firewall.Proofs.Cache.Memory

namespace Firewall.Cache

/-- The time at which an event drops what is over. -/
def Event.sweeps : Event → Option Instant
  | .response seen m =>
    match Dns.Observation.ofMessage m with
    | .ok _ => some seen
    | .error _ => none
  | .purge now => some now

/-- What an event leaves before it tells anything. -/
def swept (e : Event) (memory : Option Memory) : Option Memory :=
  match e.sweeps with
  | some t => live t memory
  | none => memory

theorem recorded_after (c : Cache) (e : Event) (owner : Owner) :
    (c.after e).recorded owner = recalled owner (swept e (c.recorded owner)) e := by
  unfold recalled swept
  cases e with
  | purge t => exact recorded_purge c t owner
  | response seen m =>
    cases hm : Dns.Observation.ofMessage m with
    | error e =>
      rw [after_response_of_error hm, observed_of_error hm]
      simp only [Event.sweeps, hm]
    | ok o =>
      rw [after_response_of_ok hm, recorded_observe, observed_of_ok hm, recorded_purge]
      simp only [Event.sweeps, hm]
      by_cases hname : o.name = owner.fqdn
      · rw [if_pos hname, if_pos hname]
        rfl
      · rw [if_neg hname, if_neg hname]
        rfl

/-- Dropping what is over at a time keeps what counts then, and its time. -/
theorem live_expiration {t expiration : Instant} {memory : Option Memory} :
    (live t memory).map (·.expiration) = some expiration ↔
      memory.map (·.expiration) = some expiration ∧ t < expiration := by
  unfold live
  simp only [Option.map_eq_some_iff, Option.filter_eq_some_iff]
  constructor
  · rintro ⟨m, ⟨hm, hlive⟩, rfl⟩
    exact ⟨⟨m, hm, rfl⟩, of_decide_eq_true hlive⟩
  · rintro ⟨⟨m, hm, rfl⟩, ht⟩
    exact ⟨m, ⟨hm, decide_eq_true ht⟩, rfl⟩

/-! ### The last answer and what came later -/

variable {events later : List Event} {e : Event} {owner : Owner} {seen : Instant}
  {o : Dns.Observation}

/-- The last answer of a run that goes on comes with its last event, or came before. -/
private theorem split_append_singleton {before : List Event} {x : Event}
    (h : events ++ [e] = before ++ x :: later) :
    (later = [] ∧ x = e) ∨ ∃ rest, later = rest ++ [e] ∧ events = before ++ x :: rest := by
  rcases List.eq_nil_or_concat later with rfl | ⟨rest, y, rfl⟩
  · obtain ⟨-, hx⟩ := List.append_inj' h rfl
    exact .inl ⟨rfl, (List.cons.inj hx).1.symm⟩
  · rw [List.concat_eq_append, ← List.cons_append, ← List.append_assoc] at h
    obtain ⟨hevents, hy⟩ := List.append_inj' h rfl
    rw [List.concat_eq_append, (List.cons.inj hy).1]
    exact .inr ⟨rest, rfl, hevents⟩

/-- An event that brings no addresses comes later than the last answer. -/
theorem lastAnswer_append_of_quiet (hquiet : e.Quiet owner) :
    LastAnswer (events ++ [e]) owner seen o later ↔
    ∃ rest, later = rest ++ [e] ∧ LastAnswer events owner seen o rest := by
  constructor
  · rintro ⟨⟨before, x, heq, hobserved⟩, haddresses, hlast⟩
    rcases split_append_singleton heq with ⟨-, rfl⟩ | ⟨rest, rfl, hevents⟩
    · exact absurd (hquiet seen o hobserved) haddresses
    · exact ⟨rest, rfl, ⟨before, x, hevents, hobserved⟩, haddresses,
        fun z hz => hlast z (List.mem_append_left _ hz)⟩
  · rintro ⟨rest, rfl, ⟨before, x, heq, hobserved⟩, haddresses, hlast⟩
    refine ⟨⟨before, x, ?_, hobserved⟩, haddresses, ?_⟩
    · rw [heq, List.append_assoc, List.cons_append]
    · rw [List.forall_mem_append]
      exact ⟨hlast, List.forall_mem_singleton.2 hquiet⟩

theorem lastAnswer_append_of_answer (hobserved : e.observed owner.fqdn = some (seen, o))
    (haddresses : o.ofFamily owner.family ≠ []) {seen' : Instant} {o' : Dns.Observation} :
    LastAnswer (events ++ [e]) owner seen' o' later ↔ later = [] ∧ seen' = seen ∧ o' = o := by
  constructor
  · rintro ⟨⟨before, x, heq, hobserved'⟩, -, hlast⟩
    rcases split_append_singleton heq with ⟨rfl, rfl⟩ | ⟨rest, rfl, -⟩
    · cases hobserved.symm.trans hobserved'
      exact ⟨rfl, rfl, rfl⟩
    · exact absurd (hlast e (List.mem_append_right _ List.mem_cons_self) seen o hobserved)
        haddresses
  · rintro ⟨rfl, rfl, rfl⟩
    exact ⟨⟨events, e, rfl, hobserved⟩, haddresses, by simp⟩

/-- An answer is held, and counts until a time: it is the last one for the owner,
and no later event found it over. -/
def HeldUntil (events : List Event) (owner : Owner) (expiration : Instant) : Prop :=
  ∃ seen o later, LastAnswer events owner seen o later ∧
  expiration = seen.addSeconds (o.ttl owner.family) ∧
    ∀ e ∈ later, ∀ t, e.sweeps = some t → t < expiration

theorem not_heldUntil_nil {expiration : Instant} : ¬ HeldUntil [] owner expiration := by
  rintro ⟨seen, o, later, ⟨⟨before, e, heq, -⟩, -, -⟩, -⟩
  exact absurd heq (by simp)

theorem heldUntil_append_of_quiet (hquiet : e.Quiet owner) {expiration : Instant} :
    HeldUntil (events ++ [e]) owner expiration ↔
      HeldUntil events owner expiration ∧ ∀ t, e.sweeps = some t → t < expiration := by
  unfold HeldUntil
  simp only [lastAnswer_append_of_quiet hquiet]
  constructor
  · rintro ⟨seen, o, later, ⟨rest, rfl, hanswer⟩, hexpiration, hsweeps⟩
    rw [List.forall_mem_append] at hsweeps
    exact ⟨⟨seen, o, rest, hanswer, hexpiration, hsweeps.1⟩, hsweeps.2 e List.mem_cons_self⟩
  · rintro ⟨⟨seen, o, rest, hanswer, hexpiration, hsweeps⟩, he⟩
    refine ⟨seen, o, rest ++ [e], ⟨rest, rfl, hanswer⟩, hexpiration, ?_⟩
    rw [List.forall_mem_append]
    exact ⟨hsweeps, List.forall_mem_singleton.2 he⟩

theorem heldUntil_append_of_answer (hobserved : e.observed owner.fqdn = some (seen, o))
    (haddresses : o.ofFamily owner.family ≠ []) {expiration : Instant} :
    HeldUntil (events ++ [e]) owner expiration ↔
      expiration = seen.addSeconds (o.ttl owner.family) := by
  unfold HeldUntil
  simp only [lastAnswer_append_of_answer hobserved haddresses]
  constructor
  · rintro ⟨seen', o', later, ⟨-, rfl, rfl⟩, hexpiration, -⟩
    exact hexpiration
  · intro hexpiration
    exact ⟨seen, o, [], ⟨rfl, rfl, rfl⟩, hexpiration, by simp⟩

/-- **An owner has a record exactly while its last answer is held.** -/
theorem recorded_iff_heldUntil (forwarder : Endpoint) (events : List Event) (owner : Owner)
    (expiration : Instant) :
    (((fresh forwarder).run events).recorded owner).map (·.expiration) = some expiration ↔
      HeldUntil events owner expiration := by
  induction events using List.reverseRecOn with
  | nil =>
    refine iff_of_false ?_ not_heldUntil_nil
    exact fun h => nomatch h
  | append_singleton events e ih =>
    rw [run_append_singleton, recorded_after]
    generalize ((fresh forwarder).run events).recorded owner = memory at ih
    by_cases hquiet : e.Quiet owner
    · rw [heldUntil_append_of_quiet hquiet, ← ih]
      have hrecall :
          (recalled owner (swept e memory) e).map (·.expiration) =
            (swept e memory).map (·.expiration) := by
        rcases recalled_of_quiet hquiet (swept e memory) with ⟨-, heq⟩ | ⟨-, heq⟩
        · rw [heq, Option.map_map]
          rfl
        · rw [heq]
      rw [hrecall]
      unfold swept
      cases e.sweeps with
      | none => simp
      | some t =>
        simp only [Option.some.injEq, forall_eq']
        exact live_expiration
    · obtain ⟨seen, o, hobserved, haddresses⟩ := exists_answer_of_not_quiet hquiet
      rw [heldUntil_append_of_answer hobserved haddresses]
      simp only [recalled, hobserved, heard, if_neg haddresses, Option.map_some, Option.some.injEq]
      exact eq_comm

end Firewall.Cache
