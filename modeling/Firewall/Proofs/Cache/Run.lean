/-
What a response or a purge does to the cache.

A run is a list of responses and purges.  `observeFamily_cases` says once what a response
does for one family: it sets the owner's record, clears its addresses, or leaves the
cache alone.  Everything that is known of runs is derived from it and from `purge`; what
becomes of each record and of the restored sets is read off it here (`get?_observeFamily`,
`restored_observeFamily`).

Of the names, what matters is that the cache and the registry agree.  Each record and
each restored set carries the name that its owner is registered under, and no two owners
are registered under one name (`Coherent`).
-/
import Firewall.Cache.Basic
import Firewall.Proofs.Cache.Registry

namespace Firewall.Cache

/-- Something that happens to the cache. -/
inductive Event where
  | response (seen : Instant) (message : Dns.Message)
  | purge (now : Instant)

/-- When it happens. -/
def Event.time : Event → Instant
  | response seen _ => seen
  | purge now => now

/-- The cache after something has happened.  A message that tells nothing changes nothing. -/
def after (c : Cache) : Event → Cache
  | .response seen message =>
    match c.apply seen message with
    | .ok (c, _) => c
    | .error _ => c
  | .purge now => c.purge now

/-- The cache after a run. -/
def run (c : Cache) (events : List Event) : Cache := events.foldl after c

theorem run_append_singleton (c : Cache) (events : List Event) (e : Event) :
    c.run (events ++ [e]) = (c.run events).after e := List.foldl_append

/-! ### What a purge leaves -/

theorem get?_purge (c : Cache) (now : Instant) (owner : Owner) :
    (c.purge now).records.get? owner = (c.records.get? owner).filter (·.isLive now) := by
  show (c.records.filter fun _ r => r.isLive now).get? owner = _
  rw [Dictionary.get?_filter]

theorem get?_purge_eq_some {c : Cache} {now : Instant} {owner : Owner} {r : Record} :
    (c.purge now).records.get? owner = some r ↔
      c.records.get? owner = some r ∧ now < r.expiration := by
  rw [get?_purge, Option.filter_eq_some_iff]
  exact and_congr_right fun _ => decide_eq_true_iff

theorem mem_restored_purge {c : Cache} {now : Instant} {s : NamedSet} :
    s ∈ (c.purge now).restored ↔ s ∈ c.restored ∧ now < s.expiration := by
  show s ∈ c.restored.filter _ ↔ _
  rw [List.mem_filter]
  exact and_congr_right fun _ => decide_eq_true_iff

/-! ### What a response does for one family -/

/-- The record that an answer makes for an owner. -/
def answered (c : Cache) (seen : Instant) (o : Dns.Observation) (family : Family) : Record where
  setName := ((c.records.get? ⟨o.name, family⟩).map (·.setName)).getD
    (c.names.nameFor ⟨o.name, family⟩)
  members := o.members family
  expiration := seen.addSeconds (o.ttl family)

/-- The cache after addresses of a family were answered. -/
def setRecord (c : Cache) (owner : Owner) (r : Record) : Cache :=
  { c with
    records := c.records.insert owner r
    names := c.names.register owner
    restored := c.restored.filter fun s => s.owner ≠ owner }

/-- The cache after an owner's addresses were cleared. -/
def clearRecord (c : Cache) (owner : Owner) (r : Record) : Cache :=
  { c with records := c.records.insert owner { r with members := ∅ } }

/-- **What a response does for one family**: addresses make a record, an answer without addresses
clears the record if they were asked for, and nothing else happens. -/
theorem observeFamily_cases (c : Cache) (seen : Instant) (o : Dns.Observation) (family : Family) :
    (o.ofFamily family ≠ [] ∧
      (c.observeFamily seen o family).1 = c.setRecord ⟨o.name, family⟩ (c.answered seen o family)) ∨
    (o.ofFamily family = [] ∧ o.askedFor family = true ∧ ∃ r,
      c.records.get? ⟨o.name, family⟩ = some r ∧
      (c.observeFamily seen o family).1 = c.clearRecord ⟨o.name, family⟩ r) ∨
    (o.ofFamily family = [] ∧ (o.askedFor family = false ∨ c.records.get? ⟨o.name, family⟩ = none) ∧
      (c.observeFamily seen o family).1 = c) := by
  unfold observeFamily
  by_cases hnone : o.ofFamily family = []
  · rw [if_pos hnone]
    cases hknown : c.records.get? ⟨o.name, family⟩ with
    | none => exact .inr (.inr ⟨hnone, .inr rfl, rfl⟩)
    | some r =>
      by_cases hasked : o.askedFor family = true
      · refine .inr (.inl ⟨hnone, hasked, r, rfl, ?_⟩)
        by_cases hmembers : r.members.isEmpty = true
        · -- there was nothing to clear
          have hr : ({ r with members := ∅ } : Record) = r := by
            have hempty : r.members = ∅ := Ascending.ext_toList (List.isEmpty_iff.1 hmembers)
            rw [← hempty]
          simp [hmembers, clearRecord, hr, Dictionary.insert_of_get? hknown]
        · simp [hasked, hmembers, clearRecord]
      · simp only [Bool.not_eq_true] at hasked
        refine .inr (.inr ⟨hnone, .inl hasked, ?_⟩)
        simp [hasked]
  · rw [if_neg hnone]
    refine .inl ⟨hnone, ?_⟩
    unfold setRecord answered
    cases c.records.get? ⟨o.name, family⟩ <;> rfl

/-- The record that an owner has after a response for its family: that of an answer, or the one that
it had, cleared if its addresses were asked for. -/
def nextRecord (c : Cache) (seen : Instant) (o : Dns.Observation) (family : Family) :
    Option Record :=
  if o.ofFamily family = [] then
    (c.records.get? ⟨o.name, family⟩).map fun r => if o.askedFor family then { r with members := ∅ }
      else r
  else some (c.answered seen o family)

/-- **What a response for one family does to every record.** -/
theorem get?_observeFamily (c : Cache) (seen : Instant) (o : Dns.Observation) (family : Family)
    (owner : Owner) :
    (c.observeFamily seen o family).1.records.get? owner
      = if owner = ⟨o.name, family⟩ then c.nextRecord seen o family else c.records.get? owner := by
  unfold nextRecord
  rcases observeFamily_cases c seen o family
    with ⟨hsome, heq⟩ | ⟨hnone, hasked, r, hr, heq⟩ | ⟨hnone, hquiet, heq⟩
  · rw [heq, if_neg hsome]
    show (c.records.insert _ _).get? owner = _
    by_cases howner : owner = ⟨o.name, family⟩
    · rw [if_pos howner, howner, Dictionary.get?_insert_self]
    · rw [if_neg howner, Dictionary.get?_insert_of_ne fun heq => howner heq.symm]
  · rw [heq, if_pos hnone, hr, hasked]
    show (c.records.insert _ _).get? owner = _
    by_cases howner : owner = ⟨o.name, family⟩
    · rw [if_pos howner, howner, Dictionary.get?_insert_self]
      rfl
    · rw [if_neg howner, Dictionary.get?_insert_of_ne fun heq => howner heq.symm]
  · rw [heq, if_pos hnone]
    by_cases howner : owner = ⟨o.name, family⟩
    · rw [if_pos howner, howner]
      rcases hquiet with hasked | hunknown
      · simp [hasked]
      · simp [hunknown]
    · rw [if_neg howner]

/-- An answer takes the place of what was restored for its owner; otherwise
nothing that was restored is lost. -/
theorem restored_observeFamily (c : Cache) (seen : Instant) (o : Dns.Observation)
    (family : Family) :
    (c.observeFamily seen o family).1.restored
      = if o.ofFamily family = [] then c.restored
        else c.restored.filter fun s => s.owner ≠ ⟨o.name, family⟩ := by
  rcases observeFamily_cases c seen o family
    with ⟨hsome, heq⟩ | ⟨hnone, -, r, -, heq⟩ | ⟨hnone, -, heq⟩
  · rw [heq, if_neg hsome]
    rfl
  · rw [heq, if_pos hnone]
    rfl
  · rw [heq, if_pos hnone]

theorem observe_fst (c : Cache) (seen : Instant) (o : Dns.Observation) : (c.observe seen o).1
    = (((c.purge seen).observeFamily seen o .v4).1.observeFamily seen o .v6).1 := rfl

/-- **A step of a run**: a purge, and for a message that tells something what its addresses do. -/
theorem after_response_of_ok {c : Cache} {seen : Instant} {m : Dns.Message} {o : Dns.Observation}
    (h : Dns.Observation.ofMessage m = .ok o) :
    c.after (.response seen m) = (c.observe seen o).1 := by
  simp only [after, apply, h]
  rfl

theorem after_response_of_error {c : Cache} {seen : Instant} {m : Dns.Message} {e : Dns.Malformed}
    (h : Dns.Observation.ofMessage m = .error e) : c.after (.response seen m) = c := by
  simp only [after, apply, h]
  rfl

theorem apply_eq_ok {c : Cache} {seen : Instant} {m : Dns.Message} {result : Cache × Bool} :
    c.apply seen m = .ok result ↔
      ∃ o, Dns.Observation.ofMessage m = .ok o ∧ c.observe seen o = result := by
  unfold apply
  cases Dns.Observation.ofMessage m with
  | error e => simp [Except.map]
  | ok o => simp [Except.map]

/-- What a purge keeps, and what a response for one family keeps, is kept by every event. -/
theorem after_induction {motive : Cache → Prop}
    (hpurge : ∀ {c} now, motive c → motive (c.purge now))
    (hfamily : ∀ {c} seen {m o} family, Dns.Observation.ofMessage m = .ok o → motive c →
      motive (c.observeFamily seen o family).1) {c : Cache} (h : motive c) (e : Event) :
        motive (c.after e) := by
  cases e with
  | purge now => exact hpurge now h
  | response seen m =>
    cases hm : Dns.Observation.ofMessage m with
    | error e =>
      rw [after_response_of_error hm]
      exact h
    | ok o =>
      rw [after_response_of_ok hm, observe_fst]
      exact hfamily seen .v6 hm (hfamily seen .v4 hm (hpurge seen h))

/-- What a purge keeps, and what a response for one family keeps, is kept by every run. -/
theorem run_induction {motive : Cache → Prop} (hpurge : ∀ {c} now, motive c → motive (c.purge now))
    (hfamily : ∀ {c} seen o family, motive c → motive (c.observeFamily seen o family).1) {c : Cache}
    (h : motive c)
    (events : List Event) : motive (c.run events) := by
  induction events generalizing c with
  | nil => exact h
  | cons e rest ih =>
    exact ih (after_induction hpurge (fun seen _ o family _ => hfamily seen o family) h e)

/-! ### Names -/

/-- The registry and the cache agree on names. -/
structure Coherent (c : Cache) : Prop where
  /-- A record carries the name of its owner. -/
  recorded : ∀ {o r}, c.records.get? o = some r → c.names.name? o = some r.setName
  /-- So does a restored set. -/
  restored : ∀ {s}, s ∈ c.restored → c.names.name? s.owner = some s.setName
  /-- No name has two owners. -/
  injective : c.names.Injective

namespace Coherent

theorem fresh (forwarder : Endpoint) : (Cache.fresh forwarder).Coherent where
  recorded h := nomatch h
  restored h := nomatch h
  injective _ _ _ h := nomatch h

theorem purge {c : Cache} (h : c.Coherent) (now : Instant) : (c.purge now).Coherent := by
  have hkept : ∀ {o name}, c.names.name? o = some name → (c.purge now).declares o = true →
      (c.purge now).names.name? o = some name := by
    intro o name hname hdeclared
    show (c.names.retain _).name? o = some name
    rw [Registry.name?_retain, Option.filter_eq_some_iff]
    exact ⟨hname, hdeclared⟩
  constructor
  · intro o r hr
    refine hkept (h.recorded (get?_purge_eq_some.1 hr).1) ?_
    unfold declares Dictionary.contains
    rw [hr]
    rfl
  · intro s hs
    refine hkept (h.restored (mem_restored_purge.1 hs).1) ?_
    unfold declares
    rw [Bool.or_eq_true, List.any_eq_true]
    exact .inr ⟨s, hs, by simp⟩
  · exact h.injective.retain _

/-- Under a coherent registry an answer keeps the name that its owner has. -/
theorem setName_answered {c : Cache} (h : c.Coherent) (seen : Instant) (o : Dns.Observation)
    (family : Family) :
    (c.answered seen o family).setName = c.names.nameFor ⟨o.name, family⟩ := by
  unfold answered
  cases hknown : c.records.get? ⟨o.name, family⟩ with
  | none => rfl
  | some r => exact (Registry.nameFor_of_name? (h.recorded hknown)).symm

theorem setRecord {c : Cache} (h : c.Coherent) {owner : Owner} {r : Record}
    (hr : r.setName = c.names.nameFor owner) : (c.setRecord owner r).Coherent := by
  constructor
  · intro o r' hr'
    have hget : (c.records.insert owner r).get? o = some r' := hr'
    show (c.names.register owner).name? o = some r'.setName
    rw [Registry.name?_register]
    by_cases ho : owner = o
    · rw [← ho, Dictionary.get?_insert_self] at hget
      rw [if_pos ho, ← hr, Option.some.inj hget]
    · rw [Dictionary.get?_insert_of_ne ho] at hget
      rw [if_neg ho, h.recorded hget]
  · intro s hs
    obtain ⟨hs, hne⟩ := List.mem_filter.1 hs
    show (c.names.register owner).name? s.owner = some s.setName
    rw [Registry.name?_register, if_neg fun heq => by simp [heq] at hne, h.restored hs]
  · exact h.injective.register owner

theorem clearRecord {c : Cache} (h : c.Coherent) {owner : Owner} {r : Record}
    (hr : c.records.get? owner = some r) : (c.clearRecord owner r).Coherent := by
  constructor
  · intro o r' hr'
    have hget : (c.records.insert owner { r with members := ∅ }).get? o = some r' := hr'
    show c.names.name? o = some r'.setName
    by_cases ho : owner = o
    · rw [← ho, Dictionary.get?_insert_self] at hget
      rw [← ho, h.recorded hr, ← Option.some.inj hget]
    · rw [Dictionary.get?_insert_of_ne ho] at hget
      exact h.recorded hget
  · exact h.restored
  · exact h.injective

theorem observeFamily {c : Cache} (h : c.Coherent) (seen : Instant) (o : Dns.Observation)
    (family : Family) :
    (c.observeFamily seen o family).1.Coherent := by
  rcases observeFamily_cases c seen o family with ⟨-, heq⟩ | ⟨-, -, r, hr, heq⟩ | ⟨-, -, heq⟩
  · rw [heq]
    exact h.setRecord (h.setName_answered seen o family)
  · rw [heq]
    exact h.clearRecord hr
  · rw [heq]
    exact h

theorem observe {c : Cache} (h : c.Coherent) (seen : Instant) (o : Dns.Observation) :
    (c.observe seen o).1.Coherent :=
  ((h.purge seen).observeFamily seen o .v4).observeFamily seen o .v6

/-- **Every run keeps the registry coherent.** -/
theorem run {c : Cache} (h : c.Coherent) (events : List Event) : (c.run events).Coherent :=
  run_induction (fun now hc => hc.purge now)
    (fun seen o family hc => hc.observeFamily seen o family) h events

end Coherent

/-! ### What no response brings -/

theorem restored_run {c : Cache} (h : c.restored = []) (events : List Event) :
    (c.run events).restored = [] := by
  refine run_induction (motive := fun c => c.restored = []) ?_ ?_ h events
  · intro c now hc
    show c.restored.filter _ = []
    rw [hc, List.filter_nil]
  · intro c seen o family hc
    show (c.observeFamily seen o family).1.restored = []
    rw [restored_observeFamily, hc, List.filter_nil, ite_self]

/-- Every name in the registry is a candidate of its owner. -/
def Derived (c : Cache) : Prop :=
  ∀ ⦃o name⦄, c.names.name? o = some name → ∃ k, name = Registry.candidate o k

theorem Derived.fresh (forwarder : Endpoint) : (Cache.fresh forwarder).Derived := by
  intro o name hname
  exact nomatch hname

theorem derived_run {c : Cache} (h : c.Derived) (events : List Event) : (c.run events).Derived := by
  refine run_induction (motive := Derived) ?_ ?_ h events
  · intro c now hc o name hname
    have hretained : (c.names.retain _).name? o = some name := hname
    rw [Registry.name?_retain, Option.filter_eq_some_iff] at hretained
    exact hc hretained.1
  · intro c seen o family hc
    rcases observeFamily_cases c seen o family with ⟨-, heq⟩ | ⟨-, -, r, -, heq⟩ | ⟨-, -, heq⟩
    · rw [heq]
      intro owner name hname
      have hregistered : (c.names.register ⟨o.name, family⟩).name? owner = some name := hname
      rw [Registry.name?_register] at hregistered
      split at hregistered
      · rename_i howner
        cases hregistered
        rw [← howner, Registry.nameFor]
        cases hknown : c.names.name? ⟨o.name, family⟩ with
        | none => exact Registry.exists_freshName_eq c.names ⟨o.name, family⟩
        | some name => exact hc hknown
      · exact hc hregistered
    · rw [heq]
      exact hc
    · rw [heq]
      exact hc

end Firewall.Cache
