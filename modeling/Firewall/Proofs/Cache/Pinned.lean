/-
What becomes of a set that was looked up, when the sets are rendered later.

A look-up and the rendering that follows it go by one pinned time, but what the cache is told in
between does not: a response drops what is over at its own time, which may be later, and puts a new
time in place of its owner's.  So a name that was found need not be declared any more.

An owner holds on to its name as long as no event finds it over (`keptThrough`), and that
can be followed through the events without the cache.  Once the name is released, it is
declared only if it is given out again, and then it may be another owner's (`GivesOut`).
There is no third way (`pins_run`).
-/
import Firewall.Proofs.Cache.Agreement
import Firewall.Proofs.Cache.Retention

namespace Firewall.Cache

/-- Until when an owner's name is held after an event; nothing, if the event finds it over. -/
def Event.keeps (owner : Owner) (e : Event) (expiration : Instant) : Option Instant :=
  if e.sweeps.all (· < expiration) then
    match e.observed owner.fqdn with
    | some (seen, o) =>
      if o.ofFamily owner.family = [] then some expiration
      else some (seen.addSeconds (o.ttl owner.family))
    | none => some expiration
  else none

/-- Until when an owner's name is held after many events; nothing, if one of them finds it over. -/
def keptThrough (owner : Owner) (events : List Event) (expiration : Instant) : Option Instant :=
  events.foldlM (fun expiration e => e.keeps owner expiration) expiration

/-- An event gives an owner that has no name a name, until a time. -/
def GivesOut (c : Cache) (e : Event) (owner : Owner) (name : String) (expiration : Instant) :
    Prop :=
  ∃ seen o, e.observed owner.fqdn = some (seen, o) ∧ o.ofFamily owner.family ≠ [] ∧
    expiration = seen.addSeconds (o.ttl owner.family) ∧
    (c.purge seen).names.name? owner = none ∧ (c.after e).names.name? owner = some name

variable {c : Cache} {e : Event} {owner : Owner} {name : String} {x y seen : Instant}
  {o : Dns.Observation}

/-! ### Holding a name through one event -/

theorem sweeps_of_observed (h : e.observed name = some (seen, o)) : e.sweeps = some seen := by
  obtain ⟨m, rfl, hm, -⟩ := of_observed h
  simp only [Event.sweeps, hm]

theorem keeps_of_quiet (h : e.Quiet owner) :
    e.keeps owner x = some y ↔ x = y ∧ ∀ t, e.sweeps = some t → t < x := by
  have hquiet : e.keeps owner x = if e.sweeps.all (· < x) then some x else none := by
    unfold Event.keeps
    cases hobserved : e.observed owner.fqdn with
    | none => rfl
    | some told =>
      obtain ⟨seen, o⟩ := told
      simp only [h seen o hobserved, if_true]
  rw [hquiet]
  cases e.sweeps with
  | none => simp
  | some t => simp [and_comm]

theorem keeps_of_answer (hobserved : e.observed owner.fqdn = some (seen, o))
    (haddresses : o.ofFamily owner.family ≠ []) :
    e.keeps owner x = some y ↔ seen < x ∧ seen.addSeconds (o.ttl owner.family) = y := by
  unfold Event.keeps
  rw [sweeps_of_observed hobserved, hobserved]
  simp [haddresses]

/-! ### What carries a name after one event -/

theorem pins_after_of_quiet (h : e.Quiet owner) :
    (c.after e).Pins owner name y ↔ c.Pins owner name y ∧ ∀ t, e.sweeps = some t → t < y := by
  cases e with
  | purge t =>
    show (c.purge t).Pins owner name y ↔ _
    rw [pins_purge]
    simp [Event.sweeps]
  | response t m =>
    cases hm : Dns.Observation.ofMessage m with
    | error _ =>
      rw [after_response_of_error hm]
      simp [Event.sweeps, hm]
    | ok o =>
      have hnone : ∀ family, owner = ⟨o.name, family⟩ → o.ofFamily family = [] := by
        rintro family rfl
        exact h t o (by rw [observed_of_ok hm, if_pos rfl])
      rw [after_response_of_ok hm, observe_fst, pins_observeFamily_of_quiet _ t .v6 (hnone .v6),
        pins_observeFamily_of_quiet _ t .v4 (hnone .v4), pins_purge]
      simp [Event.sweeps, hm]

/-- An event that brings addresses leaves its owner one thing, which counts from then on. -/
theorem exists_pins_after_of_answer (c : Cache) (hobserved : e.observed owner.fqdn = some (seen, o))
    (haddresses : o.ofFamily owner.family ≠ []) :
    ∃ given, ∀ name y, (c.after e).Pins owner name y ↔
      given = name ∧ seen.addSeconds (o.ttl owner.family) = y := by
  obtain ⟨fqdn, family⟩ := owner
  obtain ⟨m, rfl, hm, rfl⟩ := of_observed hobserved
  rw [after_response_of_ok hm, observe_fst]
  cases family with
  | v4 =>
    -- what the response tells of the other family comes later and is another owner's
    refine ⟨((c.purge seen).answered seen o .v4).setName, fun name y => ?_⟩
    have hother : (⟨o.name, .v4⟩ : Owner) ≠ ⟨o.name, .v6⟩ := by simp
    rw [pins_observeFamily_of_quiet _ seen .v6 fun heq => absurd heq hother]
    exact pins_observeFamily_of_answer _ seen .v4 haddresses
  | v6 => exact ⟨_, fun name y => pins_observeFamily_of_answer _ seen .v6 haddresses⟩

theorem name?_observeFamily_of_some (c : Cache) (seen : Instant) (o : Dns.Observation)
    (family : Family) (h : c.names.name? owner = some name) :
    (c.observeFamily seen o family).1.names.name? owner = some name := by
  rcases observeFamily_cases c seen o family with ⟨-, heq⟩ | ⟨-, -, r, -, heq⟩ | ⟨-, -, heq⟩
  · rw [heq]
    show (c.names.register ⟨o.name, family⟩).name? owner = some name
    rw [Registry.name?_register]
    split
    · rename_i howner
      rw [howner, Registry.nameFor_of_name? h]
    · exact h
  · rw [heq]
    exact h
  · rw [heq]
    exact h

theorem name?_after_of_observed {told : String} (hobserved : e.observed told = some (seen, o))
    (h : (c.purge seen).names.name? owner = some name) :
    (c.after e).names.name? owner = some name := by
  obtain ⟨m, rfl, hm, -⟩ := of_observed hobserved
  rw [after_response_of_ok hm, observe_fst]
  exact name?_observeFamily_of_some _ seen o .v6 (name?_observeFamily_of_some _ seen o .v4 h)

namespace Consistent

theorem pins_after_of_answer (hc : c.Consistent)
    (hobserved : e.observed owner.fqdn = some (seen, o))
    (haddresses : o.ofFamily owner.family ≠ []) : (c.after e).Pins owner name y ↔
      (c.after e).names.name? owner = some name ∧ seen.addSeconds (o.ttl owner.family) = y := by
  obtain ⟨given, hgiven⟩ := exists_pins_after_of_answer c hobserved haddresses
  have hname : (c.after e).names.name? owner = some given :=
    (hc.after e).named ((hgiven given _).2 ⟨rfl, rfl⟩)
  rw [hgiven, hname, Option.some.injEq]

/-- **What carries a name after an event** held it before and was not found
over, or was given it by the event. -/
theorem pins_after (hc : c.Consistent) (e : Event) : (c.after e).Pins owner name y ↔
    (∃ x, c.Pins owner name x ∧ e.keeps owner x = some y) ∨ c.GivesOut e owner name y := by
  by_cases hquiet : e.Quiet owner
  · have hgives : ¬ c.GivesOut e owner name y := by
      rintro ⟨seen, o, hobserved, haddresses, -⟩
      exact haddresses (hquiet seen o hobserved)
    simp only [pins_after_of_quiet hquiet, keeps_of_quiet hquiet, hgives, or_false]
    constructor
    · rintro ⟨hpins, hsweeps⟩
      exact ⟨y, hpins, rfl, hsweeps⟩
    · rintro ⟨x, hpins, rfl, hsweeps⟩
      exact ⟨hpins, hsweeps⟩
  · obtain ⟨seen, o, hobserved, haddresses⟩ := exists_answer_of_not_quiet hquiet
    rw [hc.pins_after_of_answer hobserved haddresses]
    simp only [keeps_of_answer hobserved haddresses]
    constructor
    · rintro ⟨hname, hy⟩
      cases hbefore : (c.purge seen).names.name? owner with
      | none => exact .inr ⟨seen, o, hobserved, haddresses, hy.symm, hbefore, hname⟩
      | some held =>
        have hsame := (name?_after_of_observed hobserved hbefore).symm.trans hname
        cases hsame
        obtain ⟨x, hpins⟩ := (hc.purge seen).registered hbefore
        obtain ⟨hpins, hseen⟩ := (pins_purge seen).1 hpins
        exact .inl ⟨x, hpins, hseen, hy⟩
    · rintro (⟨x, hpins, hseen, hy⟩ | ⟨seen', o', hobserved', -, hy, -, hname⟩)
      · have hbefore := (hc.purge seen).named ((pins_purge seen).2 ⟨hpins, hseen⟩)
        exact ⟨name?_after_of_observed hobserved hbefore, hy⟩
      · cases hobserved.symm.trans hobserved'
        exact ⟨hname, hy.symm⟩

/-- **What carries a name after a run** held it throughout, or was given it by an event of
the run and held it from then on. -/
theorem pins_run (hc : c.Consistent) (events : List Event) : (c.run events).Pins owner name y ↔
    (∃ x, c.Pins owner name x ∧ keptThrough owner events x = some y) ∨
    ∃ before e later x, events = before ++ e :: later ∧ (c.run before).GivesOut e owner name x ∧
      keptThrough owner later x = some y := by
  induction events generalizing c with
  | nil =>
    show c.Pins owner name y ↔ _
    simp [keptThrough]
  | cons e rest ih =>
    have hrest : (c.run (e :: rest)).Pins owner name y ↔ _ := ih (hc.after e)
    have hkept : ∀ x, keptThrough owner (e :: rest) x = some y ↔
        ∃ z, e.keeps owner x = some z ∧ keptThrough owner rest z = some y := by
      intro x
      unfold keptThrough
      rw [List.foldlM_cons]
      exact Option.bind_eq_some_iff
    rw [hrest]
    simp only [hc.pins_after, hkept]
    constructor
    · rintro (⟨z, ⟨x, hpins, hkeeps⟩ | hgives, hlater⟩ | ⟨before, e', later, z, rfl,
        hgives, hlater⟩)
      · exact .inl ⟨x, hpins, z, hkeeps, hlater⟩
      · exact .inr ⟨[], e, rest, z, rfl, hgives, hlater⟩
      · exact .inr ⟨e :: before, e', later, z, rfl, hgives, hlater⟩
    · rintro (⟨x, hpins, z, hkeeps, hlater⟩ | ⟨before, e', later, z, heq, hgives, hlater⟩)
      · exact .inl ⟨z, .inl ⟨x, hpins, hkeeps⟩, hlater⟩
      · cases before with
        | nil =>
          cases heq
          exact .inl ⟨z, .inr hgives, hlater⟩
        | cons e'' before =>
          cases heq
          exact .inr ⟨before, e', later, z, rfl, hgives, hlater⟩

end Consistent

/--
**Whether a set that was looked up is still declared**, at the pinned time of the look-up but after
more has happened.  Its name is declared exactly if its owner held it throughout and it still
counts, or if it was given out again on the way, to whomever, and still counts.
-/
theorem still_declared_iff (forwarder : Endpoint) (operations : List Operation)
    (selector : Selector) (now : Instant) (events : List Event) {s : NamedSet}
    (hs : s ∈ ((fresh forwarder).history operations).setsFor selector true now) :
    let c := (fresh forwarder).history operations
    (∃ t ∈ (c.run events).setsForRendering now, t.setName = s.setName) ↔
      (∃ x y, c.Pins s.owner s.setName x ∧ keptThrough s.owner events x = some y ∧ now < y) ∨
      ∃ before e later owner x y, events = before ++ e :: later ∧
        (c.run before).GivesOut e owner s.setName x ∧
        keptThrough owner later x = some y ∧ now < y := by
  intro c
  have hc : c.Consistent := (Consistent.fresh forwarder).history operations
  have hfound : s ∈ c.setsFor selector true now := hs
  clear_value c
  have hown := (mem_counting
    (mem_counting_of_mem_setsForRendering (hc.mem_setsFor_iff.1 hfound).1)).1
  rw [exists_setName_rendered_iff]
  simp only [hc.pins_run]
  constructor
  · rintro ⟨owner, y, ⟨x, hpins, hkept⟩ | ⟨before, e, later, x, heq, hgives, hkept⟩, hnow⟩
    · have howner : owner = s.owner := hc.injective (hc.named hpins) (hc.named hown)
      rw [howner] at hpins hkept
      exact .inl ⟨x, y, hpins, hkept, hnow⟩
    · exact .inr ⟨before, e, later, owner, x, y, heq, hgives, hkept, hnow⟩
  · rintro (⟨x, y, hpins, hkept, hnow⟩ | ⟨before, e, later, owner, x, y, heq, hgives, hkept, hnow⟩)
    · exact ⟨s.owner, y, .inl ⟨x, hpins, hkept⟩, hnow⟩
    · exact ⟨owner, y, .inr ⟨before, e, later, x, heq, hgives, hkept⟩, hnow⟩

/-- A name is answered for half a minute. -/
def sampleAnswered : List Operation :=
  [.event (.response (.ofSeconds 1700000000) (sampleAnswer "example.com" 30))]

/-- What is found of it. -/
def sampleFound : NamedSet :=
  ⟨"example.com.", "fqdn_example_com_v4", [sampleAddress], .ofSeconds 1700000030, .v4⟩

/-- It is answered again while it still counts, and then what comes later leaves it alone. -/
theorem still_declared_sampleFound :
    let c := (fresh default).history sampleAnswered
    let now := Instant.ofSeconds 1700000029
    let events := [Event.response now (sampleAnswer "example.com" 60),
      .response (.ofSeconds 1700000031) (sampleAnswer "example.org" 300)]
    sampleFound ∈ c.setsFor (.exact "example.com") true now ∧
      ∃ t ∈ (c.run events).setsForRendering now, t.setName = sampleFound.setName := by
  intro c now events
  have hfound : sampleFound ∈ c.setsFor (.exact "example.com") true now := by decide +kernel
  refine ⟨hfound,
    (still_declared_iff default sampleAnswered (.exact "example.com") now events hfound).2
      (.inl ?_)⟩
  refine ⟨.ofSeconds 1700000030, .ofSeconds 1700000089, .inl ?_, by decide, by decide⟩
  exact ⟨⟨"fqdn_example_com_v4", .ofList [sampleAddress], .ofSeconds 1700000030⟩,
    by decide +kernel, rfl, rfl⟩

/-- Another name's answer, two seconds after the look-up, takes it away. -/
theorem not_declared_sampleFound :
    let c := (fresh default).history sampleAnswered
    let now := Instant.ofSeconds 1700000029
    let events := [Event.response (.ofSeconds 1700000031) (sampleAnswer "example.org" 300)]
    (∀ e ∈ events, now ≤ e.time) ∧ sampleFound ∈ c.setsFor (.exact "example.com") true now ∧
      ∀ t ∈ (c.run events).setsForRendering now, t.setName ≠ sampleFound.setName := by
  decide +kernel

end Firewall.Cache
