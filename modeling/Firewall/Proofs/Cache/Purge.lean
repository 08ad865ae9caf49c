/-
Purging makes no difference.

A purge drops what is over, and so does every response before it tells anything.  Where times go
forward, whatever comes after a purge would have dropped the same things, names included
(`purge_purge`).  So a cache that was purged in between is, from the next response on, the very
cache that it would have been without (`purge_run_responses`); and until then nobody can tell, since
readers pass over what is over by themselves (`setsForRendering_purge`, `setsFor_purge`).

What carries this is that whatever is over at one time is over at every later one.  It is said of
lists once, and records, restored sets and what readers see of them are such lists.
-/
import Mathlib.Data.List.Basic
import Mathlib.Data.List.Induction
import Firewall.Proofs.Cache.Consistent
import Firewall.Proofs.Cache.Memory

namespace Firewall

namespace Cache

variable {s t now : Instant}

theorem ext {c d : Cache} (hrecords : c.records = d.records) (hnames : c.names = d.names)
    (hrestored : c.restored = d.restored) (hforwarder : c.forwarder = d.forwarder) : c = d := by
  cases c; cases d; cases hrecords; cases hnames; cases hrestored; cases hforwarder; rfl

/-! ### What is over stays over -/

section Unexpired

variable {α : Type} (expiration : α → Instant) (h : s ≤ t) (l : List α)
include h

private theorem filter_later :
    (l.filter fun a => s < expiration a).filter (fun a => t < expiration a)
    = l.filter fun a => t < expiration a := by
  rw [List.filter_filter]
  refine List.filter_congr fun a _ => ?_
  by_cases ht : t < expiration a
  · rw [decide_eq_true ht, decide_eq_true (Instant.lt_of_le_of_lt h ht), Bool.and_self]
  · rw [decide_eq_false ht, Bool.false_and]

private theorem filter_earlier :
    (l.filter fun a => t < expiration a).filter (fun a => s < expiration a)
    = l.filter fun a => t < expiration a := by
  refine List.filter_eq_self.2 fun a ha => ?_
  have ht : t < expiration a := of_decide_eq_true (List.mem_filter.1 ha).2
  exact decide_eq_true (Instant.lt_of_le_of_lt h ht)

/-- What is over later was over before, or is among what counted until then. -/
private theorem countP_over : l.countP (fun a => !decide (s < expiration a))
    + (l.filter fun a => s < expiration a).countP (fun a => !decide (t < expiration a))
      = l.countP fun a => !decide (t < expiration a) := by
  have hbefore :
      (l.filter fun a => !decide (s < expiration a)).countP (fun a => !decide (t < expiration a))
      = l.countP fun a => !decide (s < expiration a) := by
    rw [List.countP_filter]
    refine List.countP_congr fun a _ => ?_
    have himp : t < expiration a → s < expiration a := Instant.lt_of_le_of_lt h
    simpa using fun hs ht => hs (himp ht)
  rw [List.countP_eq_countP_filter_add l (fun a => !decide (t < expiration a))
    (fun a => s < expiration a), hbefore,
    Nat.add_comm]

end Unexpired

/-! ### One purge after another -/

private theorem records_purge_purge (h : s ≤ t) (c : Cache) :
    ((c.purge s).purge t).records = (c.purge t).records :=
  Dictionary.ext_entries
    (filter_later (fun e : Owner × Record => e.2.expiration) h c.records.entries)

private theorem restored_purge_purge (h : s ≤ t) (c : Cache) :
    ((c.purge s).purge t).restored = (c.purge t).restored :=
      filter_later NamedSet.expiration h c.restored

private theorem declares_purge_of_le (h : s ≤ t) {c : Cache} {o : Owner}
    (ho : (c.purge t).declares o = true) :
    (c.purge s).declares o = true := by
  obtain ⟨name, expiration, hpins⟩ := declares_iff_pins.1 ho
  obtain ⟨hpins, ht⟩ := (pins_purge t).1 hpins
  exact declares_iff_pins.2
    ⟨name, expiration, (pins_purge s).2 ⟨hpins, Instant.lt_of_le_of_lt h ht⟩⟩

/-- **A purge is overtaken by a later one.** -/
theorem purge_purge (h : s ≤ t) (c : Cache) : (c.purge s).purge t = c.purge t := by
  have hrecords := records_purge_purge h c
  have hrestored := restored_purge_purge h c
  have hdeclares : ((c.purge s).purge t).declares = (c.purge t).declares := by
    funext o
    unfold declares
    rw [hrecords, hrestored]
  have hnames : ((c.purge s).purge t).names = (c.purge t).names := by
    show (c.names.retain (c.purge s).declares).retain ((c.purge s).purge t).declares
      = c.names.retain (c.purge t).declares
    rw [hdeclares]
    unfold Registry.retain
    rw [Dictionary.filter_filter_of_imp fun o _ => declares_purge_of_le h]
  exact ext hrecords hnames hrestored rfl

/-- **After a purge an earlier one finds nothing**: what is left counts,
and every name is declared. -/
theorem purge_purge_of_le (h : s ≤ t) (c : Cache) : (c.purge t).purge s = c.purge t := by
  have hrecords : ((c.purge t).purge s).records = (c.purge t).records :=
    Dictionary.ext_entries
      (filter_earlier (fun e : Owner × Record => e.2.expiration) h c.records.entries)
  have hrestored : ((c.purge t).purge s).restored = (c.purge t).restored :=
    filter_earlier NamedSet.expiration h c.restored
  have hdeclares : ((c.purge t).purge s).declares = (c.purge t).declares := by
    funext o
    unfold declares
    rw [hrecords, hrestored]
  have hnames : ((c.purge t).purge s).names = (c.purge t).names := by
    show (c.names.retain (c.purge t).declares).retain ((c.purge t).purge s).declares
      = c.names.retain (c.purge t).declares
    rw [hdeclares]
    unfold Registry.retain
    rw [Dictionary.filter_filter_of_imp fun _ _ ho => ho]
  exact ext hrecords hnames hrestored rfl

/-- What two purges remove is what the later one would have removed alone. -/
theorem expiredCount_purge (h : s ≤ t) (c : Cache) :
    c.expiredCount s + (c.purge s).expiredCount t = c.expiredCount t := by
  have hrecords : c.records.entries.countP (fun e => !e.2.isLive s)
        + (c.purge s).records.entries.countP (fun e => !e.2.isLive t)
      = c.records.entries.countP fun e => !e.2.isLive t :=
    countP_over (fun e : Owner × Record => e.2.expiration) h c.records.entries
  have hrestored : c.restored.countP (!·.isLive s) + (c.purge s).restored.countP (!·.isLive t)
      = c.restored.countP (!·.isLive t) := countP_over NamedSet.expiration h c.restored
  unfold expiredCount
  omega

theorem size_purge (c : Cache) (now : Instant) :
    (c.purge now).records.size + (c.purge now).restored.length + c.expiredCount now
      = c.records.size + c.restored.length := by
  have hrecords :
      (c.purge now).records.size + c.records.entries.countP (fun e => !e.2.isLive now) =
        c.records.size := by
    show (c.records.entries.filter _).length + _ = c.records.entries.length
    rw [List.countP_eq_length_filter, ← List.length_eq_length_filter_add]
  have hrestored :
      (c.purge now).restored.length + c.restored.countP (!·.isLive now) = c.restored.length := by
    show (c.restored.filter _).length + _ = _
    rw [List.countP_eq_length_filter, ← List.length_eq_length_filter_add]
  unfold expiredCount
  omega

theorem observe_purge (h : t ≤ s) (c : Cache) (o : Dns.Observation) :
    (c.purge t).observe s o = c.observe s o := by
  unfold observe
  rw [purge_purge h]

/-! ### Runs with and without purges -/

/-- Whether an event is a response. -/
def Event.isResponse : Event → Bool
  | .response _ _ => true
  | .purge _ => false

/-- **The purges of a run leave nothing behind**, if times go forward: after one more purge the
cache is what the responses alone would have made it. -/
theorem purge_run_responses (c : Cache) {events : List Event}
    (horder : events.Pairwise (·.time ≤ ·.time)) (h : ∀ e ∈ events, e.time ≤ t) :
    (c.run events).purge t = (c.run (events.filter Event.isResponse)).purge t := by
  induction events using List.reverseRecOn generalizing t with
  | nil => rfl
  | append_singleton events e ih =>
    obtain ⟨hordered, -, hlast⟩ := List.pairwise_append.1 horder
    have htime : e.time ≤ t := h e (List.mem_append_right events List.mem_cons_self)
    have hbefore : ∀ x ∈ events, x.time ≤ e.time := fun x hx => hlast x hx e List.mem_cons_self
    rw [run_append_singleton, List.filter_append]
    cases e with
    | purge s =>
      show ((c.run events).purge s).purge t = _
      rw [purge_purge (s := s) htime, ih hordered fun x hx => h x (List.mem_append_left _ hx)]
      simp [Event.isResponse]
    | response seen m =>
      rw [show [Event.response seen m].filter Event.isResponse = [.response seen m] from rfl,
        run_append_singleton]
      cases hm : Dns.Observation.ofMessage m with
      | error _ =>
        rw [after_response_of_error hm, after_response_of_error hm]
        exact ih hordered fun x hx => h x (List.mem_append_left _ hx)
      | ok o =>
        -- the two caches agree once they are purged, and the response purges them first
        have hpurged :
            (c.run events).purge seen = (c.run (events.filter Event.isResponse)).purge seen :=
          ih hordered hbefore
        rw [after_response_of_ok hm, after_response_of_ok hm,
          ← observe_purge (Instant.le_refl seen) (c.run events), hpurged,
          observe_purge (Instant.le_refl seen)]

/-! ### Readers -/

theorem liveSets_purge (h : t ≤ now) (c : Cache) : (c.purge t).liveSets now = c.liveSets now :=
  congrArg (List.map _)
    (filter_later (fun e : Owner × Record => e.2.expiration) h c.records.entries)

theorem liveRestored_purge (h : t ≤ now) (c : Cache) :
    (c.purge t).liveRestored now = c.liveRestored now :=
  filter_later NamedSet.expiration h c.restored

/-- **A purge goes unnoticed by whoever reads from its time on**, be it
for rendering or by a selector. -/
theorem setsForRendering_purge (h : t ≤ now) (c : Cache) :
    (c.purge t).setsForRendering now = c.setsForRendering now := by
  unfold setsForRendering
  rw [liveSets_purge h, liveRestored_purge h]

theorem setsFor_purge (h : t ≤ now) (c : Cache) (selector : Selector) (forPersist : Bool) :
    (c.purge t).setsFor selector forPersist now = c.setsFor selector forPersist now := by
  unfold setsFor
  rw [liveSets_purge h, liveRestored_purge h]

/-- **What is rendered does not depend on the purges of a run**, if times go forward: neither on
how many there are nor on when. -/
theorem setsForRendering_run_responses (c : Cache) {events : List Event}
    (horder : events.Pairwise (·.time ≤ ·.time)) (h : ∀ e ∈ events, e.time ≤ now) :
    (c.run events).setsForRendering now =
      (c.run (events.filter Event.isResponse)).setsForRendering now := by
  rw [← setsForRendering_purge (Instant.le_refl now), purge_run_responses c horder h,
    setsForRendering_purge (Instant.le_refl now)]

/--
**Purging is unobservable.**  A purge leaves nothing behind that a later one would not leave,
the two remove as much as the later one alone, and an earlier one after it removes nothing.
From the time of a purge on the cache is read as it would have been without, and a response
gives the same result and leaves the same cache.
-/
theorem purging_is_unobservable (c : Cache) {s t : Instant} (h : s ≤ t) :
    ((c.purge s).purge t = c.purge t ∧
      c.expiredCount s + (c.purge s).expiredCount t = c.expiredCount t) ∧
    ((c.purge t).purge s = c.purge t ∧ (c.purge t).expiredCount s = 0) ∧
    (∀ now, s ≤ now → (c.purge s).setsForRendering now = c.setsForRendering now ∧
      ∀ selector forPersist,
      (c.purge s).setsFor selector forPersist now = c.setsFor selector forPersist now) ∧
    (∀ seen m, s ≤ seen → (c.purge s).apply seen m = c.apply seen m) ∧
    ∀ now, (c.purge now).records.size + (c.purge now).restored.length + c.expiredCount now
      = c.records.size + c.restored.length := by
  refine ⟨⟨purge_purge h c, expiredCount_purge h c⟩, ⟨purge_purge_of_le h c, ?_⟩, ?_,
    ?_, c.size_purge⟩
  · -- a purge that changes nothing removes nothing
    have hsize := (c.purge t).size_purge s
    rw [purge_purge_of_le h] at hsize
    omega
  · intro now hnow
    exact ⟨setsForRendering_purge hnow c, setsFor_purge hnow c⟩
  · intro seen m hseen
    unfold apply
    rw [funext (observe_purge hseen c)]

/-- One of two records is over, and a second later the other is too.  Two purges remove one
each, the later one alone would have removed both, and what still counts is the other record,
under its name, and the restored set. -/
theorem purging_is_unobservable_sampleHistory :
    let c := (Cache.fresh default).history sampleHistory
    let s := Instant.ofSeconds 1700000060
    let t := Instant.ofSeconds 1700000061
    s ≤ t ∧ c.expiredCount s = 1 ∧ (c.purge s).expiredCount t = 1 ∧ c.expiredCount t = 2 ∧
      (c.purge s).purge t = c.purge t ∧ (c.purge t).purge s = c.purge t ∧
      ((c.purge s).setsForRendering s).map NamedSet.setName =
        ["fqdn_a_b_com_v4", "fqdn_a_b_com_v4_1"] ∧
      (c.purge s).apply t (sampleAnswer "c.com" 60) = c.apply t (sampleAnswer "c.com" 60) := by
  intro c s t
  have hle : s ≤ t := by decide
  obtain ⟨⟨hlater, hcount⟩, ⟨hearlier, -⟩, hreads, happly, -⟩ := purging_is_unobservable c hle
  have hfirst : c.expiredCount s = 1 := by decide +kernel
  have hsecond : (c.purge s).expiredCount t = 1 := by decide +kernel
  refine ⟨hle, hfirst, hsecond, ?_, hlater, hearlier, ?_, happly t _ hle⟩
  · rw [← hcount, hfirst, hsecond]
  · rw [(hreads s (Instant.le_refl s)).1]
    decide +kernel

end Cache

end Firewall
