/-
What is rendered is a function of what was answered.

The cache overwrites records, clears them, drops them and makes them anew.  All of it comes to
this: at a time that no event is after, an owner is rendered exactly if its last answer still
counts, with the addresses of that answer, or with none if they were asked for once more and did
not come back.  `live_recorded` has compared the records with what was told, and
`remembered_eq_some_iff` has told what that is; here the comparison is carried over to the sets,
and the purges are shown to have no part in it.
-/
import Firewall.Proofs.Cache.Agreement
import Firewall.Proofs.Cache.Answers
import Firewall.Proofs.Cache.Purge

namespace Firewall

namespace Cache

variable {c : Cache} {now : Instant} {s : NamedSet} {events later : List Event} {owner : Owner}
  {seen : Instant}
  {o : Dns.Observation} {m : Memory}

/-! ### From the records to the sets -/

theorem recorded_of_rendered (hrestored : c.restored = []) (hc : c.Coherent)
    (hs : s ∈ c.setsForRendering now) :
    ∃ m, live now (c.recorded s.owner) = some m ∧ s.addresses = m.members.toList ∧
    s.expiration = m.expiration := by
  obtain ⟨o, r, hr, hlive, rfl⟩ := mem_liveSets.1 ((mem_setsForRendering hrestored hc).1 hs)
  refine ⟨⟨r.members, r.expiration⟩, ?_, rfl, rfl⟩
  show live now ((c.records.get? o).map _) = _
  rw [hr]
  exact Option.filter_eq_some_iff.2 ⟨rfl, hlive⟩

theorem exists_rendered_of_recorded (hrestored : c.restored = []) (hc : c.Coherent)
    (h : live now (c.recorded owner) = some m) : ∃ s ∈ c.setsForRendering now, s.owner = owner := by
  obtain ⟨hrecorded, hlive⟩ := Option.filter_eq_some_iff.1 h
  obtain ⟨r, hr, rfl⟩ := Option.map_eq_some_iff.1 hrecorded
  exact ⟨r.toNamedSet owner,
    (mem_setsForRendering hrestored hc).2 (mem_liveSets.2 ⟨owner, r, hr, hlive, rfl⟩), rfl⟩

theorem Consistent.qualified_of_rendered (hc : c.Consistent) (hs : s ∈ c.setsForRendering now) :
    Name.fullyQualified s.fqdn = s.fqdn := by
  obtain ⟨hpins, -⟩ := mem_counting (mem_counting_of_mem_setsForRendering hs)
  have hqualified := hc.qualified hpins
  exact hqualified

/-! ### From the log to the records -/

/-- What was told of an owner is its last answer: with its time, and with its
addresses unless they were cleared. -/
theorem LastAnswer.remembered (h : LastAnswer events owner seen o later) :
    ∃ m, Cache.remembered events owner = some m ∧
    m.expiration = seen.addSeconds (o.ttl owner.family) ∧
      ∀ a, a ∈ m.members ↔ a ∈ o.members owner.family ∧ ¬ ∃ e ∈ later, e.Clears owner := by
  by_cases hclears : ∃ e ∈ later, e.Clears owner
  · refine ⟨⟨∅, seen.addSeconds (o.ttl owner.family)⟩, ?_, rfl, fun a => ?_⟩
    · exact remembered_eq_some_iff.2 ⟨seen, o, later, h, rfl, .inl ⟨hclears, rfl⟩⟩
    · exact iff_of_false Ascending.not_mem_empty fun ha => ha.2 hclears
  · refine ⟨⟨o.members owner.family, seen.addSeconds (o.ttl owner.family)⟩, ?_, rfl, fun a => ?_⟩
    · exact remembered_eq_some_iff.2 ⟨seen, o, later, h, rfl, .inr ⟨hclears, rfl⟩⟩
    · exact (and_iff_left hclears).symm

/-! ### The whole run -/

theorem exists_rendered_iff (forwarder : Endpoint) (h : ∀ e ∈ events, e.time ≤ now) :
    (∃ s ∈ ((fresh forwarder).run events).setsForRendering now, s.owner = owner) ↔
      ∃ seen o later, LastAnswer events owner seen o later ∧
      now < seen.addSeconds (o.ttl owner.family) := by
  have hrestored : ((fresh forwarder).run events).restored = [] := restored_run rfl events
  have hc := (Coherent.fresh forwarder).run events
  have hlive := live_recorded forwarder events h owner
  constructor
  · rintro ⟨s, hs, rfl⟩
    obtain ⟨m, hm, -, -⟩ := recorded_of_rendered hrestored hc hs
    rw [hlive] at hm
    obtain ⟨hm, hcounts⟩ := Option.filter_eq_some_iff.1 hm
    obtain ⟨seen, o, later, hanswer, hexpiration, -⟩ := remembered_eq_some_iff.1 hm
    have hnow : now < m.expiration := of_decide_eq_true hcounts
    exact ⟨seen, o, later, hanswer, hexpiration ▸ hnow⟩
  · rintro ⟨seen, o, later, hanswer, hnow⟩
    obtain ⟨m, hm, hexpiration, -⟩ := hanswer.remembered
    rw [← hexpiration] at hnow
    refine exists_rendered_of_recorded (m := m) hrestored hc ?_
    rw [hlive]
    exact Option.filter_eq_some_iff.2 ⟨hm, decide_eq_true hnow⟩

/-- What is rendered of an owner has the time and the addresses of its last answer. -/
theorem rendered_of_lastAnswer (forwarder : Endpoint) (h : ∀ e ∈ events, e.time ≤ now)
    (hs : s ∈ ((fresh forwarder).run events).setsForRendering now)
    (hanswer : LastAnswer events s.owner seen o later) :
    s.expiration = seen.addSeconds (o.ttl s.family) ∧ s.addresses.Nodup ∧
      ∀ a, a ∈ s.addresses ↔ a ∈ o.members s.family ∧ ¬ ∃ e ∈ later, e.Clears s.owner := by
  obtain ⟨m, hm, haddresses, hexpiration⟩ :=
    recorded_of_rendered (restored_run rfl events) ((Coherent.fresh forwarder).run events) hs
  rw [live_recorded forwarder events h] at hm
  obtain ⟨m', hm', hexpiration', hmembers⟩ := hanswer.remembered
  obtain ⟨hm, -⟩ := Option.filter_eq_some_iff.1 hm
  cases hm.symm.trans hm'
  rw [haddresses, hexpiration]
  refine ⟨hexpiration', m.members.ascending.imp ?_, hmembers⟩
  rintro a b hlt rfl
  simp at hlt

/--
**The cache refines the log of responses.**  At a time that nothing in a run is after, a name has a
set of a family exactly if the last response that gave it addresses of that family still counts, by
the shortest of the times that it gave them for.  It has one such set, with that time and those
addresses, each once, or with none if a later response was asked for the family and came back
without; and every set is rendered for a name in the form in which names are compared.  If times go
forward, the sets are the same for every run with the same responses.
-/
theorem rendering_refines_log (forwarder : Endpoint) (events : List Event) (now : Instant)
    (h : ∀ e ∈ events, e.time ≤ now) :
    let sets := ((fresh forwarder).run events).setsForRendering now
    (sets.Pairwise fun s t => s.owner ≠ t.owner) ∧
    (∀ s ∈ sets, Name.fullyQualified s.fqdn = s.fqdn) ∧
    (∀ name family, (∃ s ∈ sets, s.owner = ⟨Name.fullyQualified name, family⟩) ↔
      ∃ seen m later ttl, Answered events ⟨Name.fullyQualified name, family⟩ seen m later ∧
        m.LastsFor family ttl ∧ now < seen.addSeconds ttl) ∧
    (∀ s ∈ sets, ∀ seen m later ttl, Answered events s.owner seen m later →
      m.LastsFor s.family ttl →
      s.expiration = seen.addSeconds ttl ∧ s.addresses.Nodup ∧
        (Cleared later s.owner → s.addresses = []) ∧
        (¬ Cleared later s.owner → ∀ a,
          a ∈ s.addresses ↔ (∃ n, m.Gives a n) ∧ a.family = s.family)) ∧
    ∀ events', (events.Pairwise fun e e' => e.time ≤ e'.time) →
      (events'.Pairwise fun e e' => e.time ≤ e'.time) → (∀ e ∈ events', e.time ≤ now) →
      events'.filter Event.isResponse = events.filter Event.isResponse →
      ((fresh forwarder).run events').setsForRendering now = sets := by
  intro sets
  have hc : ((fresh forwarder).run events).Consistent := (Consistent.fresh forwarder).run events
  refine ⟨hc.distinct_setsForRendering now, fun s hs => hc.qualified_of_rendered hs, ?_, ?_, ?_⟩
  · intro name family
    rw [exists_rendered_iff forwarder h]
    constructor
    · rintro ⟨seen, o, later, hanswer, hnow⟩
      obtain ⟨m, hm, hanswered⟩ := lastAnswer_iff.1 hanswer
      have hlasts := (Dns.Observation.lastsFor_iff hm hanswered.gives).2 rfl
      exact ⟨seen, m, later, o.ttl family, hanswered, hlasts, hnow⟩
    · rintro ⟨seen, m, later, ttl, hanswered, hlasts, hnow⟩
      obtain ⟨o, hm, hanswer⟩ := hanswered.exists_lastAnswer
      rw [(Dns.Observation.lastsFor_iff hm hanswered.gives).1 hlasts] at hnow
      exact ⟨seen, o, later, hanswer, hnow⟩
  · intro s hs seen m later ttl hanswered hlasts
    obtain ⟨o, hm, hanswer⟩ := hanswered.exists_lastAnswer
    obtain ⟨hexpiration, hnodup, hmembers⟩ := rendered_of_lastAnswer forwarder h hs hanswer
    rw [(Dns.Observation.lastsFor_iff hm hanswered.gives).1 hlasts]
    rw [exists_clears_iff] at hmembers
    refine ⟨hexpiration, hnodup, ?_, ?_⟩
    · intro hcleared
      exact List.eq_nil_iff_forall_not_mem.2 fun a ha => ((hmembers a).1 ha).2 hcleared
    · intro hcleared a
      rw [hmembers a, and_iff_left hcleared]
      exact Dns.Observation.mem_members_iff hm
  · intro events' horder horder' h' hsame
    rw [setsForRendering_run_responses _ horder' h', hsame,
      ← setsForRendering_run_responses _ horder h]

/-- A response without an address. -/
def sampleEmpty : Dns.Message := ⟨true, [⟨"Example.com", .a⟩], [⟨"example.com", 300, none⟩]⟩

/-- A name is answered, there is a purge, and the name is answered without an address. -/
def sampleRun : List Event :=
  [.response (.ofSeconds 1700000000) sampleBoth, .purge (.ofSeconds 1700000010),
    .response (.ofSeconds 1700000020) sampleEmpty]

/-- The name keeps its set of the family that was asked for, until the shorter of the two times is
over, but no address of it; the set of the other family has its own time and its address.  So it was
without the purge, and later only the other set is left. -/
theorem rendered_sampleRun :
    let now := Instant.ofSeconds 1700000030
    let later := Instant.ofSeconds 1700000060
    let sets := ((fresh default).run sampleRun).setsForRendering now
    (∀ e ∈ sampleRun, e.time ≤ now) ∧
      (∀ family, ∃ s ∈ sets, s.owner = ⟨Name.fullyQualified "example.COM", family⟩) ∧
      (∀ s ∈ sets, s.owner = ⟨"example.com.", .v4⟩ →
        s.expiration = .ofSeconds 1700000060 ∧ s.addresses = []) ∧
      (∀ s ∈ sets, s.owner = ⟨"example.com.", .v6⟩ →
        s.expiration = .ofSeconds 1700000120 ∧ ∀ a, a ∈ s.addresses ↔ a = sampleLong) ∧
      ((fresh default).run (sampleRun.filter Event.isResponse)).setsForRendering now = sets ∧
      (∀ family, (∃ s ∈ ((fresh default).run sampleRun).setsForRendering later,
        s.owner = ⟨Name.fullyQualified "example.COM", family⟩) ↔ family = .v6) := by
  intro now later sets
  have htimes : ∀ e ∈ sampleRun, e.time ≤ now := by decide
  have htimes' : ∀ e ∈ sampleRun, e.time ≤ later := by decide
  obtain ⟨-, -, hexists, hsets, hpurges⟩ := rendering_refines_log default sampleRun now htimes
  obtain ⟨-, -, hexists', -, -⟩ := rendering_refines_log default sampleRun later htimes'
  have hname : Name.fullyQualified "example.COM" = "example.com." := by decide +kernel
  have hanswered : ∀ family,
      Answered sampleRun ⟨"example.com.", family⟩ (.ofSeconds 1700000000) sampleBoth
      [sampleRun[1], sampleRun[2]] := by
    intro family
    refine answered_sampleBoth family _ fun t m hmem r hr => ?_
    rcases List.mem_cons.1 hmem with heq | hmem
    · exact nomatch heq
    · cases List.mem_singleton.1 hmem
      rw [List.mem_singleton.1 hr]
  have hcleared : Cleared [sampleRun[1], sampleRun[2]] ⟨"example.com.", .v4⟩ := by
    refine ⟨.ofSeconds 1700000020, sampleEmpty, List.mem_cons_of_mem _ List.mem_cons_self,
      ⟨rfl, List.cons_ne_nil _ _, by decide +kernel⟩, by decide +kernel, rfl, ?_⟩
    rintro ⟨a, ttl, ⟨r, hr, ha, -⟩, -⟩
    cases List.mem_singleton.1 hr
    exact nomatch ha
  have hkept : ¬ Cleared [sampleRun[1], sampleRun[2]] ⟨"example.com.", .v6⟩ := by
    rintro ⟨t, m, hmem, -, -, hasks, -⟩
    rcases List.mem_cons.1 hmem with heq | hmem
    · exact nomatch heq
    · cases List.mem_singleton.1 hmem
      exact nomatch hasks
  obtain ⟨hlasts4, hlasts6⟩ := sampleBoth_lastsFor
  refine ⟨htimes, fun family => (hexists "example.COM" family).2 ?_, ?_, ?_, ?_, fun family => ?_⟩
  · rw [hname]
    cases family with
    | v4 => exact ⟨_, sampleBoth, _, 60, hanswered .v4, hlasts4, by decide⟩
    | v6 => exact ⟨_, sampleBoth, _, 120, hanswered .v6, hlasts6, by decide⟩
  · rintro ⟨fqdn, setName, addresses, expiration, family⟩ hs ⟨⟩
    obtain ⟨hexpiration, -, hnone, -⟩ := hsets _ hs _ sampleBoth _ 60 (hanswered .v4) hlasts4
    exact ⟨hexpiration, hnone hcleared⟩
  · rintro ⟨fqdn, setName, addresses, expiration, family⟩ hs ⟨⟩
    obtain ⟨hexpiration, -, -, hall⟩ := hsets _ hs _ sampleBoth _ 120 (hanswered .v6) hlasts6
    refine ⟨hexpiration, fun a => (hall hkept a).trans ?_⟩
    simp only [sampleBoth_gives]
    constructor
    · rintro ⟨⟨n, ⟨rfl, -⟩ | ⟨rfl, -⟩ | ⟨rfl, -⟩⟩, hfamily⟩
      · exact nomatch hfamily
      · exact nomatch hfamily
      · rfl
    · rintro rfl
      exact ⟨⟨120, .inr (.inr ⟨rfl, rfl⟩)⟩, rfl⟩
  · exact hpurges _ (by decide) (by decide) (by decide) (by simp)
  · rw [hexists', hname]
    constructor
    · rintro ⟨seen, m, rest, ttl, hanswer, hlasts, hnow⟩
      obtain ⟨rfl, rfl, -⟩ := (hanswered family).unique hanswer
      cases family with
      | v4 =>
        rw [hlasts.unique hlasts4] at hnow
        exact absurd hnow (by decide)
      | v6 => rfl
    · rintro rfl
      exact ⟨_, sampleBoth, _, 120, hanswered .v6, hlasts6, by decide⟩

end Cache

end Firewall
