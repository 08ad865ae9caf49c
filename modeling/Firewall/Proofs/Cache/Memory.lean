/-
The cache remembers the last answer, and no longer than it counts.

What a run has told of an owner is written down without the cache, response by response
and with nothing ever dropped (`remembered`).  The cache drops what is over, but only
what is over: at a time that no event of the run is after, what still counts in the
cache is what still counts of what was told (`live_recorded`).

Why dropping does no harm: an answer replaces whatever was there, and clearing an
owner's addresses leaves its time alone, so what is over stays over until it is
answered anew.  Nothing here asks the times of a run to be in order.
-/
import Mathlib.Data.List.Induction
import Firewall.Proofs.Cache.Run

namespace Firewall

namespace Cache

/-! ### What was told -/

/-- What was told of an owner: addresses, and until when they count. -/
structure Memory where
  members : Ascending Address
  expiration : Instant
  deriving DecidableEq

theorem Memory.ext {m m' : Memory} (hm : m.members = m'.members)
    (he : m.expiration = m'.expiration) : m = m' := by
  cases m; cases m'; cases hm; cases he; rfl

/-- Whether it still counts at a time. -/
def Memory.isLive (m : Memory) (now : Instant) : Bool := now < m.expiration

/-- The same, with its addresses cleared. -/
def Memory.cleared (m : Memory) : Memory := { m with members := ∅ }

/-- What an event tells of a name: when it was seen, and what was observed. -/
def Event.observed (name : String) : Event → Option (Instant × Dns.Observation)
  | .response seen m =>
    match Dns.Observation.ofMessage m with
    | .ok o => if o.name = name then some (seen, o) else none
    | .error _ => none
  | .purge _ => none

theorem observed_of_ok {seen : Instant} {m : Dns.Message} {o : Dns.Observation}
    (h : Dns.Observation.ofMessage m = .ok o) (name : String) :
    (Event.response seen m).observed name = if o.name = name then some (seen, o) else none := by
  simp only [Event.observed, h]

theorem observed_of_error {seen : Instant} {m : Dns.Message} {e : Dns.Malformed}
    (h : Dns.Observation.ofMessage m = .error e) (name : String) :
    (Event.response seen m).observed name = none := by
  simp only [Event.observed, h]

theorem of_observed {e : Event} {name : String} {seen : Instant} {o : Dns.Observation}
    (h : e.observed name = some (seen, o)) :
    ∃ m, e = .response seen m ∧ Dns.Observation.ofMessage m = .ok o ∧ o.name = name := by
  cases e with
  | purge now => exact nomatch h
  | response t m =>
    cases hm : Dns.Observation.ofMessage m with
    | error _ =>
      rw [observed_of_error hm] at h
      exact nomatch h
    | ok o' =>
      rw [observed_of_ok hm] at h
      split at h
      · rename_i hname
        cases h
        exact ⟨m, rfl, hm, hname⟩
      · exact nomatch h

/-- What is remembered of a family after an observation. -/
def heard (seen : Instant) (o : Dns.Observation) (family : Family) (memory : Option Memory) :
    Option Memory :=
  if o.ofFamily family = [] then
    if o.askedFor family then memory.map Memory.cleared else memory
  else some ⟨o.members family, seen.addSeconds (o.ttl family)⟩

/-- What is remembered of an owner after one more event. -/
def recalled (owner : Owner) (memory : Option Memory) (e : Event) : Option Memory :=
  match e.observed owner.fqdn with
  | some (seen, o) => heard seen o owner.family memory
  | none => memory

/-- What a run has told of an owner. -/
def remembered (events : List Event) (owner : Owner) : Option Memory :=
  events.foldl (recalled owner) none

theorem remembered_append_singleton (events : List Event) (e : Event) (owner : Owner) :
    remembered (events ++ [e]) owner = recalled owner (remembered events owner) e :=
      List.foldl_append

/-! ### What is recorded -/

/-- What the cache has recorded of an owner. -/
def recorded (c : Cache) (owner : Owner) : Option Memory :=
  (c.records.get? owner).map fun r => ⟨r.members, r.expiration⟩

theorem recorded_purge (c : Cache) (now : Instant) (owner : Owner) :
    (c.purge now).recorded owner = (c.recorded owner).filter (·.isLive now) := by
  unfold recorded
  rw [get?_purge]
  cases c.records.get? owner with
  | none => rfl
  | some r =>
    have hlive : (Memory.mk r.members r.expiration).isLive now = r.isLive now := rfl
    simp only [Option.filter_some, Option.map_some, hlive]
    split <;> rfl

theorem recorded_observeFamily (c : Cache) (seen : Instant) (o : Dns.Observation) (family : Family)
    (owner : Owner) : (c.observeFamily seen o family).1.recorded owner
      = if owner = ⟨o.name, family⟩ then heard seen o family (c.recorded owner)
        else c.recorded owner := by
  unfold recorded
  rw [get?_observeFamily]
  by_cases howner : owner = ⟨o.name, family⟩
  · rw [if_pos howner, if_pos howner, howner, nextRecord, heard]
    by_cases hnone : o.ofFamily family = []
    · rw [if_pos hnone, if_pos hnone]
      cases c.records.get? ⟨o.name, family⟩ <;> cases o.askedFor family <;> rfl
    · rw [if_neg hnone, if_neg hnone]
      rfl
  · rw [if_neg howner, if_neg howner]

theorem recorded_observe (c : Cache) (seen : Instant) (o : Dns.Observation) (owner : Owner) :
    (c.observe seen o).1.recorded owner = if o.name = owner.fqdn
      then heard seen o owner.family ((c.purge seen).recorded owner)
        else (c.purge seen).recorded owner := by
  rw [observe_fst, recorded_observeFamily, recorded_observeFamily]
  obtain ⟨fqdn, family⟩ := owner
  by_cases hname : o.name = fqdn
  · cases family <;> simp [hname]
  · have hne : ∀ f, (⟨fqdn, family⟩ : Owner) ≠ ⟨o.name, f⟩ :=
      fun f heq => hname (congrArg Owner.fqdn heq).symm
    rw [if_neg (hne _), if_neg (hne _), if_neg hname]

/-! ### What counts of it -/

/-- What is remembered and still counts at a time. -/
def live (now : Instant) (memory : Option Memory) : Option Memory := memory.filter (·.isLive now)

private theorem live_live {t now : Instant} (h : t ≤ now) (memory : Option Memory) :
    live now (live t memory) = live now memory := by
  cases memory with
  | none => rfl
  | some m =>
    by_cases hnow : m.isLive now = true
    · have ht : m.isLive t = true := by
        have hlt : now < m.expiration := of_decide_eq_true hnow
        exact decide_eq_true (Instant.lt_of_le_of_lt h hlt)
      simp [live, Option.filter_some, ht]
    · by_cases ht : m.isLive t = true <;> simp [live, Option.filter_some, ht, hnow]

/-- What an observation leaves that counts depends on what counted before. -/
private theorem live_heard {a b : Option Memory} {now : Instant} (h : live now a = live now b)
    (seen : Instant) (o : Dns.Observation) (family : Family) :
    live now (heard seen o family a) = live now (heard seen o family b) := by
  have hcleared : ∀ memory : Option Memory,
      live now (memory.map Memory.cleared) = (live now memory).map Memory.cleared := by
    intro memory
    cases memory with
    | none => rfl
    | some m =>
      have hlive : m.cleared.isLive now = m.isLive now := rfl
      by_cases hm : m.isLive now = true <;> simp [live, Option.filter_some, hlive, hm]
  unfold heard
  split
  · split
    · rw [hcleared, hcleared, h]
    · exact h
  · rfl

/-- **What counts in the cache is what counts of what was told**, at
every time that no event is after. -/
theorem live_recorded (forwarder : Endpoint) (events : List Event) {now : Instant}
    (h : ∀ e ∈ events, e.time ≤ now) (owner : Owner) :
    live now (((fresh forwarder).run events).recorded owner) =
      live now (remembered events owner) := by
  induction events using List.reverseRecOn with
  | nil => rfl
  | append_singleton events e ih =>
    have hbefore := ih fun x hx => h x (List.mem_append_left [e] hx)
    have htime : e.time ≤ now := h e (List.mem_append_right events List.mem_cons_self)
    rw [run_append_singleton, remembered_append_singleton]
    generalize (fresh forwarder).run events = c at hbefore
    have hpurged : ∀ t, t ≤ now →
        live now ((c.purge t).recorded owner) = live now (remembered events owner) := by
      intro t ht
      rw [recorded_purge, ← hbefore]
      exact live_live ht (c.recorded owner)
    unfold recalled
    cases e with
    | purge t => exact hpurged t htime
    | response seen m =>
      cases hm : Dns.Observation.ofMessage m with
      | error e =>
        rw [after_response_of_error hm, observed_of_error hm]
        exact hbefore
      | ok o =>
        rw [after_response_of_ok hm, recorded_observe, observed_of_ok hm]
        by_cases hname : o.name = owner.fqdn
        · rw [if_pos hname, if_pos hname]
          exact live_heard (hpurged seen htime) seen o owner.family
        · rw [if_neg hname, if_neg hname]
          exact hpurged seen htime

/-! ### The last answer -/

/-- An event brings an owner no addresses. -/
def Event.Quiet (owner : Owner) (e : Event) : Prop :=
  ∀ seen o, e.observed owner.fqdn = some (seen, o) → o.ofFamily owner.family = []

theorem exists_answer_of_not_quiet {owner : Owner} {e : Event} (h : ¬ e.Quiet owner) :
    ∃ seen o, e.observed owner.fqdn = some (seen, o) ∧ o.ofFamily owner.family ≠ [] := by
  unfold Event.Quiet at h
  simpa only [not_forall, exists_prop] using h

/-- An event clears an owner's addresses: they were asked for, and none came back. -/
def Event.Clears (owner : Owner) (e : Event) : Prop :=
  ∃ seen o, e.observed owner.fqdn = some (seen, o) ∧ o.ofFamily owner.family = [] ∧
  o.askedFor owner.family = true

/-- The last observation of a run that brought an owner addresses, and what came later. -/
structure LastAnswer (events : List Event) (owner : Owner) (seen : Instant) (o : Dns.Observation)
    (later : List Event) : Prop where
  split : ∃ before e, events = before ++ e :: later ∧ e.observed owner.fqdn = some (seen, o)
  addresses : o.ofFamily owner.family ≠ []
  last : ∀ e ∈ later, e.Quiet owner

theorem recalled_of_quiet {owner : Owner} {e : Event} (h : e.Quiet owner) (memory : Option Memory) :
    (e.Clears owner ∧ recalled owner memory e = memory.map Memory.cleared) ∨
      (¬ e.Clears owner ∧ recalled owner memory e = memory) := by
  unfold recalled heard
  cases hobserved : e.observed owner.fqdn with
  | none =>
    refine .inr ⟨?_, rfl⟩
    rintro ⟨seen, o, hsome, -⟩
    exact absurd (hobserved.symm.trans hsome) (by simp)
  | some observed =>
    obtain ⟨seen, o⟩ := observed
    have hnone := h seen o hobserved
    by_cases hasked : o.askedFor owner.family = true
    · refine .inl ⟨⟨seen, o, hobserved, hnone, hasked⟩, ?_⟩
      simp only [hnone, hasked, if_true]
    · refine .inr ⟨?_, ?_⟩
      · rintro ⟨seen', o', hsome, -, hasked'⟩
        cases hobserved.symm.trans hsome
        exact hasked hasked'
      · simp only [hnone, hasked, if_true, Bool.false_eq_true, if_false]

private theorem foldl_of_quiet {owner : Owner} {later : List Event} (h : ∀ e ∈ later, e.Quiet owner)
    (memory : Option Memory) :
    ((∃ e ∈ later, e.Clears owner) ∧
      later.foldl (recalled owner) memory = memory.map Memory.cleared) ∨
      ((¬ ∃ e ∈ later, e.Clears owner) ∧ later.foldl (recalled owner) memory = memory) := by
  induction later generalizing memory with
  | nil => exact .inr ⟨by simp, rfl⟩
  | cons e rest ih =>
    have hrest := ih (fun x hx => h x (List.mem_cons_of_mem e hx)) (recalled owner memory e)
    have htwice : (memory.map Memory.cleared).map Memory.cleared = memory.map Memory.cleared := by
      cases memory <;> rfl
    simp only [List.foldl_cons, List.mem_cons, exists_eq_or_imp]
    rcases recalled_of_quiet (h e List.mem_cons_self) memory
      with ⟨hclears, hrecall⟩ | ⟨hclears, hrecall⟩
    · rw [hrecall] at hrest ⊢
      refine .inl ⟨.inl hclears, ?_⟩
      rcases hrest with ⟨-, heq⟩ | ⟨-, heq⟩
      · rw [heq, htwice]
      · exact heq
    · rw [hrecall] at hrest ⊢
      rcases hrest with ⟨hlater, heq⟩ | ⟨hlater, heq⟩
      · exact .inl ⟨.inr hlater, heq⟩
      · exact .inr ⟨not_or.2 ⟨hclears, hlater⟩, heq⟩

/-- A run brought an owner no addresses, or there is a last time that it did. -/
private theorem quiet_or_lastAnswer (events : List Event) (owner : Owner) :
    (∀ e ∈ events, e.Quiet owner) ∨ ∃ seen o later, LastAnswer events owner seen o later := by
  induction events with
  | nil => exact .inl (by simp)
  | cons e rest ih =>
    rcases ih with hquiet | ⟨seen, o, later, hanswer⟩
    · by_cases he : e.Quiet owner
      · exact .inl (List.forall_mem_cons.2 ⟨he, hquiet⟩)
      · refine .inr ?_
        obtain ⟨seen, o, hobserved, haddresses⟩ := exists_answer_of_not_quiet he
        exact ⟨seen, o, rest, ⟨⟨[], e, rfl, hobserved⟩, haddresses, hquiet⟩⟩
    · obtain ⟨before, x, heq, hobserved⟩ := hanswer.split
      refine .inr ⟨seen, o, later,
        ⟨⟨e :: before, x, ?_, hobserved⟩, hanswer.addresses, hanswer.last⟩⟩
      rw [heq, List.cons_append]

/-- **What a run has told of an owner is its last answer**, cleared if it was asked
for later and did not come back. -/
theorem remembered_eq_some_iff {events : List Event} {owner : Owner} {m : Memory} :
    remembered events owner = some m ↔ ∃ seen o later, LastAnswer events owner seen o later ∧
      m.expiration = seen.addSeconds (o.ttl owner.family) ∧
      (((∃ e ∈ later, e.Clears owner) ∧ m.members = ∅) ∨
        ((¬ ∃ e ∈ later, e.Clears owner) ∧ m.members = o.members owner.family)) := by
  have hfold : ∀ {seen o later}, LastAnswer events owner seen o later → remembered events owner
      = later.foldl (recalled owner)
        (some ⟨o.members owner.family, seen.addSeconds (o.ttl owner.family)⟩) := by
    intro seen o later hanswer
    obtain ⟨before, e, heq, hobserved⟩ := hanswer.split
    rw [remembered, heq, List.foldl_append, List.foldl_cons]
    simp only [recalled, hobserved, heard, if_neg hanswer.addresses]
  constructor
  · intro hm
    rcases quiet_or_lastAnswer events owner with hquiet | ⟨seen, o, later, hanswer⟩
    · rcases foldl_of_quiet hquiet none with ⟨-, heq⟩ | ⟨-, heq⟩
      · exact absurd (hm.symm.trans heq) (by simp)
      · exact absurd (hm.symm.trans heq) (by simp)
    · refine ⟨seen, o, later, hanswer, ?_⟩
      rw [hfold hanswer] at hm
      rcases foldl_of_quiet hanswer.last _ with ⟨hclears, heq⟩ | ⟨hclears, heq⟩
      · cases heq.symm.trans hm
        exact ⟨rfl, .inl ⟨hclears, rfl⟩⟩
      · cases heq.symm.trans hm
        exact ⟨rfl, .inr ⟨hclears, rfl⟩⟩
  · rintro ⟨seen, o, later, hanswer, hexpiration, hmembers⟩
    rw [hfold hanswer]
    have hlater := foldl_of_quiet hanswer.last
      (some ⟨o.members owner.family, seen.addSeconds (o.ttl owner.family)⟩)
    rcases hlater with ⟨hclears, heq⟩ | ⟨hclears, heq⟩
    · rcases hmembers with ⟨-, hnone⟩ | ⟨hno, -⟩
      · rw [heq]
        exact congrArg some (Memory.ext hnone.symm hexpiration.symm)
      · exact absurd hclears hno
    · rcases hmembers with ⟨hsome, -⟩ | ⟨-, hall⟩
      · exact absurd hsome hclears
      · rw [heq]
        exact congrArg some (Memory.ext hall.symm hexpiration.symm)

/-- **The addresses that are recorded and count are those of the last answer,** unless they were
asked for later and did not come back. -/
theorem answered_iff_recorded (forwarder : Endpoint) {events : List Event} {now : Instant}
    (h : ∀ e ∈ events, e.time ≤ now) {owner : Owner} {a : Address} :
    (∃ seen o later, LastAnswer events owner seen o later ∧
      now < seen.addSeconds (o.ttl owner.family) ∧ a ∈ o.members owner.family ∧
      ¬ ∃ e ∈ later, e.Clears owner) ↔
    ∃ r, ((fresh forwarder).run events).records.get? owner = some r ∧ r.isLive now = true ∧
      a ∈ r.members := by
  have hlive := live_recorded forwarder events h owner
  have hremembered : (∃ seen o later, LastAnswer events owner seen o later ∧
      now < seen.addSeconds (o.ttl owner.family) ∧ a ∈ o.members owner.family ∧
      ¬ ∃ e ∈ later, e.Clears owner) ↔
      ∃ m, live now (remembered events owner) = some m ∧ a ∈ m.members := by
    simp only [live, Option.filter_eq_some_iff, remembered_eq_some_iff]
    constructor
    · rintro ⟨seen, o, later, hanswer, hnow, ha, hclears⟩
      refine ⟨⟨o.members owner.family, _⟩,
        ⟨⟨seen, o, later, hanswer, rfl, .inr ⟨hclears, rfl⟩⟩, ?_⟩, ha⟩
      exact decide_eq_true hnow
    · rintro ⟨m, ⟨⟨seen, o, later, hanswer, hexpiration, hmembers⟩, hcounts⟩, ha⟩
      have hnow : now < m.expiration := of_decide_eq_true hcounts
      rw [hexpiration] at hnow
      rcases hmembers with ⟨-, hnone⟩ | ⟨hclears, hall⟩
      · rw [hnone] at ha
        exact absurd ha Ascending.not_mem_empty
      · rw [hall] at ha
        exact ⟨seen, o, later, hanswer, hnow, ha, hclears⟩
  rw [hremembered, ← hlive]
  simp only [live, recorded, Option.filter_eq_some_iff, Option.map_eq_some_iff]
  constructor
  · rintro ⟨m, ⟨⟨r, hr, rfl⟩, hcounts⟩, ha⟩
    exact ⟨r, hr, hcounts, ha⟩
  · rintro ⟨r, hr, hcounts, ha⟩
    exact ⟨⟨r.members, r.expiration⟩, ⟨⟨r, hr, rfl⟩, hcounts⟩, ha⟩

end Cache

end Firewall
