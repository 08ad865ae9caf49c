/-
A name stays with its owner as long as something of the owner lives.

An event takes what is over at its time, and it can give the name that is released to another owner
within the same step.  What it does not find over keeps its name, or hands it on: the record that an
answer makes has the name of what was there before, be it a record or a restored set.  Restoring
sets takes nothing away, however long ago the time of what is there has passed.

So what an operation has to leave alone is different from operation to operation
(`Operation.Spares`).  Where each one of a run leaves something of the owner alone, the name at the
end is that of the beginning; what lives may be something else at every step.
-/
import Firewall.Proofs.Cache.Pinned

namespace Firewall.Cache

/-- Something that counts until a time is not over when an operation
happens; only events take what is over. -/
def Operation.Spares (expiration : Instant) : Operation → Prop
  | .event e => e.time < expiration
  | .restore _ => True
  | .forward _ => True

/-- Something of an owner is not over when an operation happens. -/
def Lives (c : Cache) (o : Owner) (operation : Operation) : Prop :=
  ∃ name expiration, c.Pins o name expiration ∧ operation.Spares expiration

/-- Something of an owner is not over whenever an operation of a run happens. -/
def LivesThrough (c : Cache) (o : Owner) (operations : List Operation) : Prop :=
  ∀ before operation, before ++ [operation] <+: operations → (c.history before).Lives o operation

/-- An owner has a record or a restored set, and each that it has carries a name. -/
def HasName (c : Cache) (o : Owner) (name : String) : Prop :=
  (∃ expiration, c.Pins o name expiration) ∧
  ∀ other expiration, c.Pins o other expiration → other = name

variable {c : Cache} {e : Event} {o : Owner} {name : String} {x : Instant}

theorem livesThrough_nil : c.LivesThrough o [] := by
  intro before operation h
  exact absurd (List.prefix_nil.1 h) (by simp)

theorem livesThrough_cons {operation : Operation} {rest : List Operation} :
    c.LivesThrough o (operation :: rest) ↔
      c.Lives o operation ∧ (c.perform operation).LivesThrough o rest := by
  constructor
  · intro h
    refine ⟨h [] operation (List.prefix_append [operation] rest), fun before next hnext => ?_⟩
    exact h (operation :: before) next ((List.prefix_cons_inj operation).2 hnext)
  · rintro ⟨hfirst, hrest⟩ before next hnext
    cases before with
    | nil =>
      obtain ⟨rfl, -⟩ := List.cons_prefix_cons.1 hnext
      exact hfirst
    | cons first before =>
      obtain ⟨rfl, hmore⟩ := List.cons_prefix_cons.1 hnext
      exact hrest before next hmore

theorem history_append_singleton (c : Cache) (operations : List Operation) (operation : Operation) :
    c.history (operations ++ [operation]) = (c.history operations).perform operation :=
      List.foldl_append

theorem Event.time_of_sweeps {t : Instant} (h : e.sweeps = some t) : e.time = t := by
  cases e with
  | purge now =>
    have hsweeps : some now = some t := h
    exact Option.some.inj hsweeps
  | response seen m =>
    cases hm : Dns.Observation.ofMessage m with
    | ok obs =>
      simp only [sweeps, hm, Option.some.injEq] at h
      exact h
    | error _ => simp [sweeps, hm] at h

/-- **What an event does not find over is held on to.** -/
theorem exists_keeps (h : e.time < x) : ∃ y, e.keeps o x = some y := by
  by_cases hquiet : e.Quiet o
  · refine ⟨x, (keeps_of_quiet hquiet).2 ⟨rfl, fun t ht => ?_⟩⟩
    rwa [← Event.time_of_sweeps ht]
  · obtain ⟨seen, obs, hobserved, haddresses⟩ := exists_answer_of_not_quiet hquiet
    have hseen : e.time = seen := Event.time_of_sweeps (sweeps_of_observed hobserved)
    exact ⟨seen.addSeconds (obs.ttl o.family),
      (keeps_of_answer hobserved haddresses).2 ⟨hseen ▸ h, rfl⟩⟩

theorem pins_restore (h : c.Pins o name x) (sets : List NamedSet) :
    (c.restore sets).1.Pins o name x :=
  restore_induction (motive := fun c' => c'.Pins o name x)
    (fun _ hs hpins => (pins_restoreOne? hs).2 (.inl hpins)) h sets

namespace Consistent

theorem perform (hc : c.Consistent) (operation : Operation) : (c.perform operation).Consistent :=
  hc.history [operation]

theorem hasName (hc : c.Consistent) (h : c.Pins o name x) : c.HasName o name := by
  refine ⟨⟨x, h⟩, fun other y hother => ?_⟩
  have hsame := (hc.named hother).symm.trans (hc.named h)
  exact Option.some.inj hsame

/-- **What is spared hands its name on.** -/
theorem exists_pins_perform (hc : c.Consistent) {operation : Operation} (h : c.Pins o name x)
    (hspared : operation.Spares x) : ∃ y, (c.perform operation).Pins o name y := by
  cases operation with
  | event e =>
    obtain ⟨y, hy⟩ := exists_keeps (o := o) hspared
    exact ⟨y, (hc.pins_after e).2 (.inl ⟨x, h, hy⟩)⟩
  | restore sets => exact ⟨x, pins_restore h sets⟩
  | forward forwarder => exact ⟨x, h⟩

theorem hasName_perform (hc : c.Consistent) {operation : Operation} (hname : c.HasName o name)
    (hlives : c.Lives o operation) : (c.perform operation).HasName o name := by
  obtain ⟨other, x, hpins, hspared⟩ := hlives
  rw [hname.2 other x hpins] at hpins
  obtain ⟨y, hy⟩ := hc.exists_pins_perform hpins hspared
  exact (hc.perform operation).hasName hy

/-- **An owner of which something lives at every step of a run keeps its name throughout.** -/
theorem hasName_history (hc : c.Consistent) (hname : c.HasName o name) {operations : List Operation}
    (hlives : c.LivesThrough o operations) {before : List Operation}
    (hbefore : before <+: operations) :
    (c.history before).HasName o name := by
  induction before using List.reverseRecOn with
  | nil => exact hname
  | append_singleton before operation ih =>
    rw [history_append_singleton]
    have hearlier : before <+: operations := (List.prefix_append before [operation]).trans hbefore
    exact (hc.history before).hasName_perform (ih hearlier) (hlives before operation hbefore)

end Consistent

/-- **The name of an owner is stable while something of the owner lives**: through one operation
that spares something of it, and through every run of which each operation does. -/
theorem name_stable_while_living (forwarder : Endpoint) (past : List Operation) (o : Owner) :
    let c := (fresh forwarder).history past
    (∀ operation name x, c.Pins o name x → operation.Spares x →
      c.HasName o name ∧ (c.perform operation).HasName o name) ∧
    ∀ operations name x, c.Pins o name x → c.LivesThrough o operations →
      ∀ before, before <+: operations → (c.history before).HasName o name := by
  intro c
  have hc : c.Consistent := (Consistent.fresh forwarder).history past
  constructor
  · intro operation name x hpins hspared
    exact ⟨hc.hasName hpins, hc.hasName_perform (hc.hasName hpins) ⟨name, x, hpins, hspared⟩⟩
  · intro operations name x hpins hlives before hbefore
    exact hc.hasName_history (hc.hasName hpins) hlives hbefore

/-- The later of two names that come to the same letters. -/
def sampleOwner : Owner := ⟨"a.b.com.", .v4⟩

/-- The earlier name is purged and leaves the plain set name free, and then the later one is
answered again: it keeps the set name that it has. -/
theorem name_stable_sampleOwner :
    let c := (fresh default).history (sampleHistory.take 2)
    let purge := Operation.event (.purge (.ofSeconds 1700000060))
    let operations :=
      [purge, .event (.response (.ofSeconds 1700000060) (sampleAnswer "a.b.com" 60)),
      .event (.purge (.ofSeconds 1700000119))]
    (c.perform purge).HasName sampleOwner "fqdn_a_b_com_v4_1" ∧
      c.LivesThrough sampleOwner operations ∧
      (c.history operations).HasName sampleOwner "fqdn_a_b_com_v4_1" := by
  intro c purge operations
  obtain ⟨hstep, hrun⟩ := name_stable_while_living default (sampleHistory.take 2) sampleOwner
  have hpins : c.Pins sampleOwner "fqdn_a_b_com_v4_1" (.ofSeconds 1700000061) :=
    .inl ⟨⟨"fqdn_a_b_com_v4_1", .ofList [sampleAddress], .ofSeconds 1700000061⟩, by decide +kernel,
      rfl, rfl⟩
  have hspared : purge.Spares (.ofSeconds 1700000061) :=
    (by decide : Instant.ofSeconds 1700000060 < .ofSeconds 1700000061)
  have hpurged : (c.perform purge).Pins sampleOwner "fqdn_a_b_com_v4_1" (.ofSeconds 1700000061) :=
    .inl ⟨⟨"fqdn_a_b_com_v4_1", .ofList [sampleAddress], .ofSeconds 1700000061⟩, by decide +kernel,
      rfl, rfl⟩
  have hanswered :
      (c.history (operations.take 2)).Pins sampleOwner "fqdn_a_b_com_v4_1"
        (.ofSeconds 1700000120) :=
    .inl ⟨⟨"fqdn_a_b_com_v4_1", .ofList [sampleAddress], .ofSeconds 1700000120⟩, by decide +kernel,
      rfl, rfl⟩
  have hlives : c.LivesThrough sampleOwner operations := by
    refine livesThrough_cons.2
      ⟨⟨_, _, hpins, hspared⟩, livesThrough_cons.2 ⟨⟨_, _, hpurged, hspared⟩, ?_⟩⟩
    refine livesThrough_cons.2 ⟨⟨_, _, hanswered, ?_⟩, livesThrough_nil⟩
    exact (by decide : Instant.ofSeconds 1700000119 < .ofSeconds 1700000120)
  exact ⟨(hstep purge _ _ hpins hspared).2, hlives,
    hrun operations _ _ hpins hlives operations (List.prefix_refl _)⟩

end Firewall.Cache
