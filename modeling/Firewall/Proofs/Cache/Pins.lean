/-
What holds a name.

The registry keeps a name as long as a record or a restored set carries it, whether or not
the record or set still counts.  `Pins` says who carries which name and until when, and forgets
the addresses: they have no part in how names come and go.

Seen this way there are three changes.  A purge takes what is over; an answer puts
one new time in place of everything that its owner had; a restored set is added.
Clearing an owner's addresses is none.
-/
import Firewall.Proofs.Cache.History

namespace Firewall.Cache

/-- A record or a restored set of an owner carries a name, and counts until a time. -/
def Pins (c : Cache) (o : Owner) (name : String) (expiration : Instant) : Prop :=
  (∃ r, c.records.get? o = some r ∧ r.setName = name ∧ r.expiration = expiration) ∨
    ∃ s ∈ c.restored, s.owner = o ∧ s.setName = name ∧ s.expiration = expiration

variable {c : Cache} {o owner : Owner} {name : String} {expiration : Instant}

/-- An owner has something that carries a name exactly if it is declared. -/
theorem declares_iff_pins : c.declares o = true ↔ ∃ name expiration, c.Pins o name expiration := by
  unfold declares Dictionary.contains
  rw [Bool.or_eq_true, Option.isSome_iff_exists, List.any_eq_true]
  constructor
  · rintro (⟨r, hr⟩ | ⟨s, hs, hs'⟩)
    · exact ⟨r.setName, r.expiration, .inl ⟨r, hr, rfl, rfl⟩⟩
    · exact ⟨s.setName, s.expiration, .inr ⟨s, hs, of_decide_eq_true hs', rfl, rfl⟩⟩
  · rintro ⟨name, expiration, ⟨r, hr, -⟩ | ⟨s, hs, hs', -⟩⟩
    · exact .inl ⟨r, hr⟩
    · exact .inr ⟨s, hs, decide_eq_true hs'⟩

theorem not_pins_fresh (forwarder : Endpoint) : ¬ (fresh forwarder).Pins o name expiration := by
  rintro (⟨r, hr, -⟩ | ⟨s, hs, -⟩)
  · exact nomatch hr
  · exact nomatch hs

/-- **A purge takes what is over, and nothing else.** -/
theorem pins_purge (now : Instant) :
    (c.purge now).Pins o name expiration ↔ c.Pins o name expiration ∧ now < expiration := by
  unfold Pins
  simp only [get?_purge_eq_some, mem_restored_purge]
  constructor
  · rintro (⟨r, ⟨hr, hnow⟩, hname, rfl⟩ | ⟨s, ⟨hs, hnow⟩, ho, hname, rfl⟩)
    · exact ⟨.inl ⟨r, hr, hname, rfl⟩, hnow⟩
    · exact ⟨.inr ⟨s, hs, ho, hname, rfl⟩, hnow⟩
  · rintro ⟨⟨r, hr, hname, rfl⟩ | ⟨s, hs, ho, hname, rfl⟩, hnow⟩
    · exact .inl ⟨r, ⟨hr, hnow⟩, hname, rfl⟩
    · exact .inr ⟨s, ⟨hs, hnow⟩, ho, hname, rfl⟩

/-! ### Responses -/

theorem pins_setRecord_self {r : Record} :
    (c.setRecord owner r).Pins owner name expiration ↔
      r.setName = name ∧ r.expiration = expiration := by
  unfold Pins setRecord
  simp only [Dictionary.get?_insert_self, List.mem_filter, decide_eq_true_eq, Option.some.injEq,
    exists_eq_left']
  constructor
  · rintro (h | ⟨s, ⟨-, hne⟩, ho, -⟩)
    · exact h
    · exact absurd ho hne
  · exact .inl

theorem pins_setRecord_of_ne {r : Record} (h : o ≠ owner) :
    (c.setRecord owner r).Pins o name expiration ↔ c.Pins o name expiration := by
  unfold Pins setRecord
  simp only [Dictionary.get?_insert_of_ne h.symm, List.mem_filter, decide_eq_true_eq]
  refine or_congr_right (exists_congr fun s => ?_)
  constructor
  · rintro ⟨⟨hs, -⟩, hset⟩
    exact ⟨hs, hset⟩
  · rintro ⟨hs, ho, hset⟩
    exact ⟨⟨hs, ho ▸ h⟩, ho, hset⟩

theorem pins_clearRecord {r : Record} (hr : c.records.get? owner = some r) :
    (c.clearRecord owner r).Pins o name expiration ↔ c.Pins o name expiration := by
  unfold Pins clearRecord
  refine or_congr_left ?_
  by_cases ho : owner = o
  · simp only [← ho, Dictionary.get?_insert_self, hr, Option.some.injEq, exists_eq_left']
  · simp only [Dictionary.get?_insert_of_ne ho]

variable (c) (seen : Instant) {obs : Dns.Observation} (family : Family)

/-- An answer puts its own time in place of everything that its owner had. -/
theorem pins_observeFamily_of_answer (h : obs.ofFamily family ≠ []) :
    (c.observeFamily seen obs family).1.Pins ⟨obs.name, family⟩ name expiration ↔
      (c.answered seen obs family).setName = name ∧
      seen.addSeconds (obs.ttl family) = expiration := by
  rcases observeFamily_cases c seen obs family with ⟨-, heq⟩ | ⟨hnone, -⟩ | ⟨hnone, -⟩
  · rw [heq]
    exact pins_setRecord_self
  · exact absurd hnone h
  · exact absurd hnone h

/-- Nothing changes for the other owners, and for no owner where no addresses came back. -/
theorem pins_observeFamily_of_quiet (h : o = ⟨obs.name, family⟩ → obs.ofFamily family = []) :
    (c.observeFamily seen obs family).1.Pins o name expiration ↔ c.Pins o name expiration := by
  rcases observeFamily_cases c seen obs family with ⟨hsome, heq⟩ | ⟨-, -, r, hr, heq⟩ | ⟨-, -, heq⟩
  · rw [heq]
    exact pins_setRecord_of_ne fun ho => hsome (h ho)
  · rw [heq]
    exact pins_clearRecord hr
  · rw [heq]

variable {c}

/-! ### Restored sets -/

/-- **A set that is taken up is added to what there is.** -/
theorem pins_restoreOne? {c' : Cache} {s : NamedSet} (h : c.restoreOne? s = some c') :
    c'.Pins o name expiration ↔ c.Pins o name expiration ∨
      (s.qualified.owner = o ∧ s.setName = name ∧ s.expiration = expiration) := by
  obtain ⟨names, -, -, rfl⟩ := restoreOne?_eq_some h
  unfold Pins
  simp only [List.mem_append, List.mem_singleton, or_and_right, exists_or, exists_eq_left, or_assoc]
  rfl

end Firewall.Cache
