/-
Until a name is answered again.

A restored set stands in for its owner as long as no record of the owner counts.  An answer
with addresses puts an end to that: it takes the place of the restored set, and from then on
nothing but its addresses is found.  A response that was asked for the addresses and came back
without any clears the record, but not what was restored, so a restored set that counts longer
than the record comes to light again.

What is kept from then on is that only certain addresses can be found of the owner (`FindsOnly`):
the record has no others, and a restored set that has others is over before the record is.  A purge
takes what is over, so it cannot take the record and leave such a set, and what is told of other
names is not noticed (`FindsOnly.perform`).
-/
import Mathlib.Data.List.Nodup
import Firewall.Proofs.Cache.Response

namespace Firewall

namespace Cache

variable {c d : Cache} {owner : Owner} {now seen t : Instant} {s : NamedSet} {told : Address → Prop}

/-! ### What stands in -/

/-- What was restored for an owner is found where no record of the owner counts. -/
theorem Consistent.setOf?_of_restored (hc : c.Consistent) (hs : s ∈ c.restored)
    (hlive : now < s.expiration)
    (hrecord : ∀ r, c.records.get? s.owner = some r → r.expiration ≤ now) :
    c.setOf? true now s.owner = some s := by
  have hnone : (c.records.get? s.owner).filter (·.isLive now) = none := by
    refine Option.filter_eq_none_iff.2 fun r hr hcounts => ?_
    have hnow : now < r.expiration := of_decide_eq_true hcounts
    exact Instant.not_le.2 hnow (hrecord r hr)
  have howners : (c.restored.map NamedSet.owner).Nodup :=
    List.pairwise_map.2 (hc.distinct_owners.imp fun h => h.2)
  have hmem : s ∈ c.liveRestored now := List.mem_filter.2 ⟨hs, decide_eq_true hlive⟩
  have hsome : ((c.liveRestored now).find? fun t => t.owner = s.owner).isSome = true := by
    rw [List.find?_isSome]
    exact ⟨s, hmem, decide_eq_true rfl⟩
  obtain ⟨t, ht⟩ := Option.isSome_iff_exists.1 hsome
  have howner := List.find?_some ht
  have hsame : t = s :=
    List.inj_on_of_nodup_map howners (List.mem_filter.1 (List.mem_of_find?_eq_some ht)).1 hs
    (of_decide_eq_true howner)
  unfold setOf?
  rw [hnone, Option.map_none, Option.none_or, if_pos rfl, ht, hsame]

/-! ### Only certain addresses -/

/-- Of an owner only certain addresses can be found, now and later. -/
structure FindsOnly (c : Cache) (owner : Owner) (told : Address → Prop) : Prop where
  record : ∀ r, c.records.get? owner = some r → ∀ a ∈ r.members, told a
  /-- What was restored has no other addresses, or is over before the record is. -/
  restored : ∀ s ∈ c.restored, s.owner = owner →
    (∀ a ∈ s.addresses, told a) ∨ ∃ r, c.records.get? owner = some r ∧ s.expiration ≤ r.expiration

namespace FindsOnly

theorem addresses (h : c.FindsOnly owner told) {forPersist : Bool}
    (hs : c.setOf? forPersist now owner = some s) :
    ∀ a ∈ s.addresses, told a := by
  unfold setOf? at hs
  rcases Option.or_eq_some_iff.1 hs with hs | ⟨hnone, hs⟩
  · obtain ⟨r, hr, rfl⟩ := Option.map_eq_some_iff.1 hs
    exact h.record r (Option.filter_eq_some_iff.1 hr).1
  · cases forPersist with
    | false => exact nomatch hs
    | true =>
      obtain ⟨hmem, hlive⟩ := List.mem_filter.1 (List.mem_of_find?_eq_some hs)
      have howner := List.find?_some hs
      rcases h.restored s hmem (of_decide_eq_true howner) with htold | ⟨r, hr, hle⟩
      · exact htold
      · -- then the record would count, and be found instead
        have hnow : now < s.expiration := of_decide_eq_true hlive
        have hcounts : r.isLive now = true := decide_eq_true (Instant.lt_of_lt_of_le hnow hle)
        rw [hr, Option.filter_some, if_pos hcounts] at hnone
        exact nomatch hnone

theorem of_sameOf (h : d.FindsOnly owner told) (hsame : SameOf owner c d) :
    c.FindsOnly owner told where
  record r hr := h.record r (hsame.record ▸ hr)
  restored s hs howner := by
    have hmem : s ∈ c.restored.filter fun s => s.owner = owner :=
      List.mem_filter.2 ⟨hs, decide_eq_true howner⟩
    rw [hsame.restored] at hmem
    rw [hsame.record]
    exact h.restored s (List.mem_filter.1 hmem).1 howner

/-- **A purge cannot take the record and leave what is over before it.** -/
theorem purge (h : c.FindsOnly owner told) (t : Instant) : (c.purge t).FindsOnly owner told where
  record r hr := h.record r (get?_purge_eq_some.1 hr).1
  restored s hs howner := by
    obtain ⟨hs, hlive⟩ := mem_restored_purge.1 hs
    refine (h.restored s hs howner).imp_right ?_
    rintro ⟨r, hr, hle⟩
    exact ⟨r, get?_purge_eq_some.2 ⟨hr, Instant.lt_of_lt_of_le hlive hle⟩, hle⟩

end FindsOnly

/-! ### Until the name is answered again -/

/-- What tells a cache nothing of a name, and restores nothing. -/
def Operation.SilentOn (name : String) : Operation → Prop
  | .event e => e.observed name = none
  | .restore _ => False
  | .forward _ => True

/-- **Only these addresses are found after one more operation**, if that is silent on the name. -/
theorem FindsOnly.perform (h : c.FindsOnly owner told) {operation : Operation}
    (hsilent : operation.SilentOn owner.fqdn) :
    (c.perform operation).FindsOnly owner told := by
  cases operation with
  | restore sets => exact absurd hsilent id
  | forward forwarder => exact ⟨h.record, h.restored⟩
  | event e =>
    cases e with
    | purge t => exact h.purge t
    | response seen m =>
      show (c.after (.response seen m)).FindsOnly owner told
      cases hm : Dns.Observation.ofMessage m with
      | error e =>
        rw [after_response_of_error hm]
        exact h
      | ok o =>
        have hobserved : (Event.response seen m).observed owner.fqdn = none := hsilent
        rw [observed_of_ok hm] at hobserved
        have hname : owner.fqdn ≠ o.name := by
          intro heq
          rw [if_pos heq.symm] at hobserved
          exact nomatch hobserved
        rw [after_response_of_ok hm]
        exact (h.purge seen).of_sameOf (sameOf_observe_of_ne c seen o hname)

/-- **Only these addresses are found until the name is answered again**,
or something is restored. -/
theorem FindsOnly.history (h : c.FindsOnly owner told) {operations : List Operation}
    (hsilent : ∀ operation ∈ operations, operation.SilentOn owner.fqdn) :
    (c.history operations).FindsOnly owner told := by
  induction operations generalizing c with
  | nil => exact h
  | cons operation rest ih =>
    obtain ⟨hfirst, hrest⟩ := List.forall_mem_cons.1 hsilent
    exact ih (h.perform hfirst) hrest

/-! ### What a response leaves of what was restored -/

/-- What was restored for an owner and still counts has no other addresses,
or is over before the record is. -/
def Superseded (c : Cache) (owner : Owner) (seen : Instant) (told : Address → Prop) : Prop :=
  ∀ s ∈ c.restored, s.owner = owner → seen < s.expiration →
    (∀ a ∈ s.addresses, told a) ∨ ∃ r, c.records.get? owner = some r ∧ s.expiration ≤ r.expiration

variable {m : Dns.Message} {c' : Cache} {changed : Bool} {family : Family}

/-- Where the asked addresses came back, or what was restored is
superseded, only what came back is found. -/
theorem Effect.findsOnly (h : c.Effect seen m c' changed) (hasked : m.asks family = true)
    (hgiven : m.GivesFamily family ∨ c.Superseded ⟨m.subject, family⟩ seen fun a => ∃ ttl,
      m.Gives a ttl) :
    c'.FindsOnly ⟨m.subject, family⟩ fun a => ∃ ttl, m.Gives a ttl := by
  by_cases hgives : m.GivesFamily family
  · obtain ⟨r, ttl, hr, hmembers, -⟩ := h.answered family hgives
    refine ⟨fun r' hr' a ha => ?_, fun s hs howner => ?_⟩
    · cases hr.symm.trans hr'
      exact ((hmembers a).1 ha).1
    · -- nothing that was restored for this owner is left
      obtain ⟨-, hquiet⟩ := (h.restored s).1 hs
      have hfamily : s.family = family := congrArg Owner.family howner
      exact absurd (hfamily ▸ hgives) (hquiet (congrArg Owner.fqdn howner))
  · have hrecord := h.quiet family hgives
    simp only [hasked, if_true] at hrecord
    refine ⟨fun r hr a ha => ?_, fun s hs howner => ?_⟩
    · rw [hrecord] at hr
      obtain ⟨r', -, rfl⟩ := Option.map_eq_some_iff.1 hr
      exact absurd ha Ascending.not_mem_empty
    · obtain ⟨⟨hs, hlive⟩, -⟩ := (h.restored s).1 hs
      refine (hgiven.resolve_left hgives s hs howner hlive).imp_right ?_
      rintro ⟨r, hr, hle⟩
      have hcounts : r.isLive seen = true := decide_eq_true (Instant.lt_of_lt_of_le hlive hle)
      refine ⟨{ r with members := ∅ }, ?_, hle⟩
      rw [hrecord, hr, Option.filter_some, if_pos hcounts]
      rfl

/-- A restored set that is not superseded is found at some time, where no address came back. -/
theorem Effect.exists_found (h : c.Effect seen m c' changed) (hc : c'.Consistent)
    (hgives : ¬ m.GivesFamily family) (hs : s ∈ c.restored) (howner : s.owner = ⟨m.subject, family⟩)
    (hlive : seen < s.expiration)
    (hrecord : ¬ ∃ r, c.records.get? ⟨m.subject, family⟩ = some r ∧ s.expiration ≤ r.expiration) :
    ∃ now, seen ≤ now ∧ s ∈ c'.setsForRendering now := by
  have hfamily : s.family = family := congrArg Owner.family howner
  have hkept : s ∈ c'.restored := (h.restored s).2 ⟨⟨hs, hlive⟩, fun _ => hfamily ▸ hgives⟩
  -- the record is over at some time before the set is
  have htime : ∃ now, seen ≤ now ∧ now < s.expiration ∧
      ∀ r, c.records.get? ⟨m.subject, family⟩ = some r → r.expiration ≤ now := by
    cases hr : c.records.get? ⟨m.subject, family⟩ with
    | none => exact ⟨seen, Instant.le_refl seen, hlive, fun _ h => nomatch h⟩
    | some r =>
      have hbefore : r.expiration < s.expiration := Instant.not_le.1 fun hle => hrecord ⟨r, hr, hle⟩
      by_cases hover : r.expiration ≤ seen
      · exact ⟨seen, Instant.le_refl seen, hlive, by rintro _ ⟨⟩; exact hover⟩
      · exact ⟨r.expiration, Instant.le_of_lt (Instant.not_le.1 hover), hbefore,
          by rintro _ ⟨⟩; exact Instant.le_refl _⟩
  obtain ⟨now, hseen, hnow, hover⟩ := htime
  refine ⟨now, hseen, hc.mem_setsForRendering_iff.2 (hc.setOf?_of_restored hkept hnow ?_)⟩
  intro r hr
  rw [howner, h.quiet family hgives] at hr
  obtain ⟨r', hr', rfl⟩ := Option.map_eq_some_iff.1 hr
  have hexpiration := hover r' (Option.filter_eq_some_iff.1 hr').1
  split
  · exact hexpiration
  · exact hexpiration

/--
**A response replaces what was restored exactly if it gives addresses**, or if what was
restored is superseded.  Take any cache that can occur, and a response that is asked for the
addresses of a family.  Until the name is answered again or something is restored, every set
that is found for the name and that family has only addresses which the response gave, if and
only if it gave some of that family, or every restored set of this owner that still counts had
no others or does not count longer than the record.
-/
theorem restored_replaced_iff (forwarder : Endpoint) (operations : List Operation) {seen : Instant}
    {m : Dns.Message} {c' : Cache} {changed : Bool}
    (h : ((fresh forwarder).history operations).apply seen m = .ok (c', changed)) {family : Family}
    (hasked : m.asks family = true) :
    (∀ later : List Operation, (∀ operation ∈ later, operation.SilentOn m.subject) →
      ∀ now, seen ≤ now →
      ∀ s : NamedSet, s.owner = ⟨m.subject, family⟩ →
        (s ∈ (c'.history later).setsForRendering now ∨
          ∃ selector, s ∈ (c'.history later).setsFor selector true now) →
        ∀ a ∈ s.addresses, ∃ ttl, m.Gives a ttl) ↔
      m.GivesFamily family ∨
        ((fresh forwarder).history operations).Superseded ⟨m.subject, family⟩ seen
          fun a => ∃ ttl, m.Gives a ttl := by
  have hc : ((fresh forwarder).history operations).Consistent :=
    (Consistent.fresh forwarder).history operations
  generalize (fresh forwarder).history operations = c at h hc ⊢
  obtain ⟨hafter, heffect⟩ := hc.toCoherent.effect_of_apply h
  have hc' : c'.Consistent := hafter ▸ hc.after (.response seen m)
  constructor
  · intro hfound
    by_cases hgives : m.GivesFamily family
    · exact .inl hgives
    · refine .inr fun s hs howner hlive => ?_
      by_cases hrecord : ∃ r, c.records.get? ⟨m.subject, family⟩ = some r ∧
        s.expiration ≤ r.expiration
      · exact .inr hrecord
      · obtain ⟨now, hseen, hrendered⟩ := heffect.exists_found hc' hgives hs howner hlive hrecord
        exact .inl (hfound [] (by simp) now hseen s howner (.inl hrendered))
  · intro hgiven later hsilent now _ s howner hfound
    have honly := (heffect.findsOnly hasked hgiven).history hsilent
    have hset : (c'.history later).setOf? true now ⟨m.subject, family⟩ = some s := by
      rw [← howner]
      rcases hfound with hrendered | ⟨selector, hlisted⟩
      · exact (hc'.history later).mem_setsForRendering_iff.1 hrendered
      · exact (mem_setsFor_iff_setOf?.1 hlisted).1
    exact honly.addresses hset

/-- A set that was saved with an address that its name has no more. -/
def sampleStale : NamedSet :=
  ⟨"example.com.", "fqdn_example_com_v4", [⟨.v4, 0xC0000201, by decide⟩],
    .ofSeconds 1700000300, .v4⟩

/-- The set is restored, and then its name is answered with another address: from
then on only that one is found. -/
theorem restored_replaced_sampleStale :
    let c := (fresh default).history [.restore [sampleStale]]
    let seen := Instant.ofSeconds 1700000000
    let m := sampleAnswer "Example.com" 60
    sampleStale ∈ c.setsForRendering seen ∧ m.asks .v4 = true ∧
      ∃ c', c.apply seen m = .ok (c', true) ∧
      ∀ now, seen ≤ now → ∀ s ∈ c'.setsForRendering now, s.owner = ⟨"example.com.", .v4⟩ →
        ∀ a ∈ s.addresses, a = sampleAddress := by
  intro c seen m
  have hasked : m.asks .v4 = true := rfl
  refine ⟨by decide +kernel, hasked, ?_⟩
  have happly : c.apply seen m =
      .ok ((c.observe seen ⟨"example.com.", some .a, [(sampleAddress, 60)]⟩).1, true) := by
    decide +kernel
  have hgives : ∀ {a}, (∃ ttl, m.Gives a ttl) ↔ a = sampleAddress := by
    intro a
    simp [Dns.Message.Gives, m, sampleAnswer, eq_comm]
  have hfound := (restored_replaced_iff default [.restore [sampleStale]] happly hasked).2
    (.inl ⟨sampleAddress, 60, ⟨_, List.mem_singleton_self _, rfl, rfl⟩, rfl⟩)
  refine ⟨_, happly, fun now hnow s hs howner a ha => hgives.1 ?_⟩
  rw [show m.subject = "example.com." by decide +kernel] at hfound
  exact hfound [] (by simp) now hnow s howner (.inl hs) a ha

/-- The set is restored, and then its addresses are asked for and none comes back: the set is still
rendered and still found, with an address that no response gave. -/
theorem restored_not_replaced_sampleStale :
    let c := (fresh default).history [.restore [sampleStale]]
    let seen := Instant.ofSeconds 1700000000
    let m : Dns.Message := ⟨true, [⟨"example.com", .a⟩], [⟨"example.com", 60, none⟩]⟩
    ∃ c', c.apply seen m = .ok (c', false) ∧ m.asks .v4 = true ∧
      sampleStale.owner = ⟨m.subject, .v4⟩ ∧
      sampleStale ∈ c'.setsForRendering seen ∧
      sampleStale ∈ c'.setsFor (.exact "example.com") true seen ∧
      ∃ a ∈ sampleStale.addresses, ¬ ∃ ttl, m.Gives a ttl := by
  intro c seen m
  have happly : c.apply seen m = .ok ((c.observe seen ⟨"example.com.", some .a, []⟩).1, false) := by
    decide +kernel
  refine ⟨_, happly, rfl, by decide +kernel, by decide +kernel, by decide +kernel, _,
    List.mem_singleton_self _, ?_⟩
  rintro ⟨ttl, r, hr, ha, -⟩
  rw [List.mem_singleton.1 hr] at ha
  exact nomatch ha

end Cache

end Firewall
