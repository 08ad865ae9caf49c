/-
What a run has answered, said of its messages.

The memory of a run is made of observations, which is how the cache comes to its records.  What it
holds is a matter of the messages alone: which of them told something of a name, what they gave
and for how long, and what they asked for.  Here the last answer is put in those words, and
compared with the last observation.
-/
import Firewall.Proofs.Cache.Consistent
import Firewall.Proofs.Cache.Memory
import Firewall.Proofs.Dns.Message

namespace Firewall.Cache

/-- The last response of a run that gave an owner addresses, and what came later. -/
structure Answered (events : List Event) (owner : Owner) (seen : Instant) (m : Dns.Message)
    (later : List Event) : Prop where
  split : ∃ before, events = before ++ .response seen m :: later
  tells : m.Tells
  subject : m.subject = owner.fqdn
  gives : m.GivesFamily owner.family
  last : ∀ t m', .response t m' ∈ later → m'.Tells → m'.subject = owner.fqdn →
    ¬ m'.GivesFamily owner.family

/-- An owner's addresses were asked for, and a response came back without any. -/
def Cleared (later : List Event) (owner : Owner) : Prop :=
  ∃ t m, .response t m ∈ later ∧ m.Tells ∧ m.subject = owner.fqdn ∧
    m.asks owner.family = true ∧ ¬ m.GivesFamily owner.family

variable {events later : List Event} {e : Event} {owner : Owner} {seen t : Instant}
  {m : Dns.Message} {o : Dns.Observation}

private theorem Answered.not_mem_split {before later' : List Event} {t : Instant} {m' : Dns.Message}
    (h : Answered events owner seen m later) (hsplit : later = before ++ .response t m' :: later')
    (h' : Answered events owner t m' later') : False :=
  h.last t m' (hsplit ▸ List.mem_append_right _ List.mem_cons_self) h'.tells h'.subject h'.gives

/-- **There is one last answer at most.** -/
theorem Answered.unique {seen' : Instant} {m' : Dns.Message} {later' : List Event}
    (h : Answered events owner seen m later) (h' : Answered events owner seen' m' later') :
    seen = seen' ∧ m = m' ∧ later = later' := by
  obtain ⟨before, hbefore⟩ := h.split
  obtain ⟨before', hbefore'⟩ := h'.split
  rcases List.append_eq_append_iff.1 (hbefore.symm.trans hbefore')
    with ⟨rest, -, hrest⟩ | ⟨rest, -, hrest⟩
  · cases rest with
    | nil =>
      cases hrest
      exact ⟨rfl, rfl, rfl⟩
    | cons e rest => exact (h.not_mem_split (List.cons.inj hrest).2 h').elim
  · cases rest with
    | nil =>
      cases hrest
      exact ⟨rfl, rfl, rfl⟩
    | cons e rest => exact (h'.not_mem_split (List.cons.inj hrest).2 h).elim

/-! ### Observations and messages -/

theorem observed_eq_some_iff {name : String} : e.observed name = some (seen, o) ↔
    ∃ m, e = .response seen m ∧ Dns.Observation.ofMessage m = .ok o ∧ m.subject = name := by
  constructor
  · intro h
    obtain ⟨m, rfl, hm, hname⟩ := of_observed h
    exact ⟨m, rfl, hm, (Dns.Observation.name_eq hm).symm.trans hname⟩
  · rintro ⟨m, rfl, hm, hname⟩
    rw [observed_of_ok hm, if_pos ((Dns.Observation.name_eq hm).trans hname)]

/-- An event is quiet if it is no response, or one that tells nothing of
the owner or gives it no address. -/
theorem quiet_iff : e.Quiet owner ↔ ∀ t m, e = .response t m → m.Tells → m.subject = owner.fqdn →
    ¬ m.GivesFamily owner.family := by
  unfold Event.Quiet
  constructor
  · rintro h t m rfl htells hsubject hgives
    obtain ⟨o, hm⟩ := Dns.Observation.exists_ofMessage_iff.2 htells
    exact (Dns.Observation.ofFamily_ne_nil_iff hm).2 hgives
      (h t o (observed_eq_some_iff.2 ⟨m, rfl, hm, hsubject⟩))
  · intro h seen o hobserved
    obtain ⟨m, rfl, hm, hsubject⟩ := observed_eq_some_iff.1 hobserved
    have hnone := h seen m rfl (Dns.Observation.exists_ofMessage_iff.1 ⟨o, hm⟩) hsubject
    exact Classical.not_not.1 fun hne => hnone ((Dns.Observation.ofFamily_ne_nil_iff hm).1 hne)

/-- **The last observation with addresses is that of the last answer.** -/
theorem lastAnswer_iff : LastAnswer events owner seen o later ↔
    ∃ m, Dns.Observation.ofMessage m = .ok o ∧ Answered events owner seen m later := by
  constructor
  · rintro ⟨⟨before, e, hevents, hobserved⟩, haddresses, hlast⟩
    obtain ⟨m, rfl, hm, hsubject⟩ := observed_eq_some_iff.1 hobserved
    refine ⟨m, hm, ⟨before, hevents⟩, Dns.Observation.exists_ofMessage_iff.1 ⟨o, hm⟩, hsubject,
      (Dns.Observation.ofFamily_ne_nil_iff hm).1 haddresses, fun t m' hmem => ?_⟩
    exact quiet_iff.1 (hlast _ hmem) t m' rfl
  · rintro ⟨m, hm, hanswered⟩
    obtain ⟨before, hevents⟩ := hanswered.split
    refine ⟨⟨before, _, hevents, observed_eq_some_iff.2 ⟨m, rfl, hm, hanswered.subject⟩⟩,
      (Dns.Observation.ofFamily_ne_nil_iff hm).2 hanswered.gives, fun e he => quiet_iff.2 ?_⟩
    rintro t m' rfl
    exact hanswered.last t m' he

theorem Answered.exists_lastAnswer (h : Answered events owner seen m later) :
    ∃ o, Dns.Observation.ofMessage m = .ok o ∧ LastAnswer events owner seen o later := by
  obtain ⟨o, hm⟩ := Dns.Observation.exists_ofMessage_iff.2 h.tells
  exact ⟨o, hm, lastAnswer_iff.2 ⟨m, hm, h⟩⟩

theorem exists_clears_iff : (∃ e ∈ later, e.Clears owner) ↔ Cleared later owner := by
  unfold Event.Clears Cleared
  constructor
  · rintro ⟨e, he, seen, o, hobserved, hnone, hasked⟩
    obtain ⟨m, rfl, hm, hsubject⟩ := observed_eq_some_iff.1 hobserved
    rw [Dns.Observation.askedFor_eq hm] at hasked
    exact ⟨seen, m, he, Dns.Observation.exists_ofMessage_iff.1 ⟨o, hm⟩, hsubject, hasked,
      fun hgives => (Dns.Observation.ofFamily_ne_nil_iff hm).2 hgives hnone⟩
  · rintro ⟨t, m, hmem, htells, hsubject, hasked, hnone⟩
    obtain ⟨o, hm⟩ := Dns.Observation.exists_ofMessage_iff.2 htells
    refine ⟨_, hmem, t, o, observed_eq_some_iff.2 ⟨m, rfl, hm, hsubject⟩, ?_, ?_⟩
    · exact Classical.not_not.1 fun hne => hnone ((Dns.Observation.ofFamily_ne_nil_iff hm).1 hne)
    · rw [Dns.Observation.askedFor_eq hm, hasked]

/-! ### What a name resolves to -/

/-- A run resolves a name to an address at a time: the last answer that gave the name addresses of
that family gives this one and still counts, by the shortest of the times that it gives for the
family, and the family was not asked for later in vain. -/
def Resolves (events : List Event) (name : String) (a : Address) (now : Instant) : Prop :=
  ∃ seen m later ttl, Answered events ⟨name, a.family⟩ seen m later ∧ m.LastsFor a.family ttl ∧
    now < seen.addSeconds ttl ∧ (∃ n, m.Gives a n) ∧ ¬ Cleared later ⟨name, a.family⟩

/-- **A name resolves to the addresses that are recorded and count.** -/
theorem resolves_iff_recorded (forwarder : Endpoint) {events : List Event} {now : Instant}
    (h : ∀ e ∈ events, e.time ≤ now) {name : String} {a : Address} : Resolves events name a now ↔
      ∃ r, ((fresh forwarder).run events).records.get? ⟨name, a.family⟩ = some r ∧
        r.isLive now = true ∧ a ∈ r.members := by
  rw [← answered_iff_recorded forwarder h]
  simp only [exists_clears_iff]
  constructor
  · rintro ⟨seen, m, later, ttl, hanswered, hlasts, hnow, hgives, hcleared⟩
    obtain ⟨o, hm, hanswer⟩ := hanswered.exists_lastAnswer
    rw [(Dns.Observation.lastsFor_iff hm hanswered.gives).1 hlasts] at hnow
    exact ⟨seen, o, later, hanswer, hnow,
      (Dns.Observation.mem_members_iff hm).2 ⟨hgives, rfl⟩, hcleared⟩
  · rintro ⟨seen, o, later, hanswer, hnow, ha, hcleared⟩
    obtain ⟨m, hm, hanswered⟩ := lastAnswer_iff.1 hanswer
    exact ⟨seen, m, later, _, hanswered,
      (Dns.Observation.lastsFor_iff hm hanswered.gives).2 rfl, hnow,
      ((Dns.Observation.mem_members_iff hm).1 ha).1, hcleared⟩

/-! ### A response with addresses of both families -/

theorem sampleBoth_tells : sampleBoth.Tells := ⟨rfl, List.cons_ne_nil _ _, by decide +kernel⟩

theorem sampleBoth_gives {a : Address} {ttl : Nat} : sampleBoth.Gives a ttl ↔
    (a = sampleAddress ∧ ttl = 300) ∨ (a = sampleNeighbour ∧ ttl = 60) ∨
    (a = sampleLong ∧ ttl = 120) := by
  simp [Dns.Message.Gives, sampleBoth, eq_comm]

/-- The shorter of the two times counts for the family that has two addresses. -/
theorem sampleBoth_lastsFor : sampleBoth.LastsFor .v4 60 ∧ sampleBoth.LastsFor .v6 120 := by
  unfold Dns.Message.LastsFor
  simp only [sampleBoth_gives]
  constructor
  · refine ⟨⟨sampleNeighbour, .inr (.inl ⟨rfl, rfl⟩), rfl⟩, ?_⟩
    rintro n ⟨a, ⟨-, rfl⟩ | ⟨-, rfl⟩ | ⟨rfl, -⟩, hfamily⟩
    · decide
    · decide
    · exact nomatch hfamily
  · refine ⟨⟨sampleLong, .inr (.inr ⟨rfl, rfl⟩), rfl⟩, ?_⟩
    rintro n ⟨a, ⟨rfl, -⟩ | ⟨rfl, -⟩ | ⟨-, rfl⟩, hfamily⟩
    · exact nomatch hfamily
    · exact nomatch hfamily
    · decide

/-- It is the last answer for both families, if what comes later gives no addresses. -/
theorem answered_sampleBoth (family : Family) (seen : Instant) {later : List Event}
    (h : ∀ t m, .response t m ∈ later → ∀ r ∈ m.answers, r.address = none) :
    Answered (.response seen sampleBoth :: later)
      ⟨"example.com.", family⟩ seen sampleBoth later where
  split := ⟨[], rfl⟩
  tells := sampleBoth_tells
  subject := by
    show sampleBoth.subject = "example.com."
    decide +kernel
  gives := by
    unfold Dns.Message.GivesFamily
    simp only [sampleBoth_gives]
    cases family with
    | v4 => exact ⟨sampleAddress, 300, .inl ⟨rfl, rfl⟩, rfl⟩
    | v6 => exact ⟨sampleLong, 120, .inr (.inr ⟨rfl, rfl⟩), rfl⟩
  last := by
    rintro t m hmem - - ⟨a, ttl, ⟨r, hr, ha, -⟩, -⟩
    rw [h t m hmem r hr] at ha
    exact nomatch ha

end Firewall.Cache
