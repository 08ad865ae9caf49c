/-
The names of sets, after any history.

`Coherent` says that whatever carries a name carries the one its owner is registered under.  That
alone would let the registry fill up with names that nothing carries any more, or let one name be
restored twice. `Consistent` says the rest: a registered name is carried by something, no two
restored sets have one name, and every owner's name is in the form in which names are compared.

An answer registers its owner and gives it a record in the same step; a set is taken up
together with its name; a purge drops what is over first and then the names that are left
alone.  So no step comes between a name and what carries it, and the invariant holds after
every single change (`Consistent.history`).
-/
import Firewall.Proofs.Cache.Pins
import Firewall.Proofs.Name.Qualified

namespace Firewall

/-- The name of an observation is in the form in which names are compared. -/
theorem Dns.Observation.qualified_name {m : Message} {o : Observation} (h : ofMessage m = .ok o) :
    Name.fullyQualified o.name = o.name := by
  unfold ofMessage at h
  split at h
  · exact nomatch h
  · split at h
    · exact nomatch h
    · dsimp only at h
      split at h
      · exact nomatch h
      · cases h
        exact Name.fullyQualified_fullyQualified _

namespace Cache

/-- The registry has the names that something carries, and no others. -/
structure Consistent (c : Cache) : Prop extends Coherent c where
  /-- A registered name is carried by something. -/
  registered : ∀ {o name}, c.names.name? o = some name → ∃ expiration, c.Pins o name expiration
  /-- No two restored sets have one name. -/
  distinct : c.restored.Pairwise fun s t => s.setName ≠ t.setName
  /-- Names are in the form in which they are compared. -/
  qualified : ∀ {o name expiration}, c.Pins o name expiration → Name.fullyQualified o.fqdn = o.fqdn

variable {c : Cache} {o : Owner} {name : String} {expiration : Instant}

theorem Coherent.named (h : c.Coherent) (hpins : c.Pins o name expiration) :
    c.names.name? o = some name := by
  rcases hpins with ⟨r, hr, rfl, -⟩ | ⟨s, hs, rfl, rfl, -⟩
  · exact h.recorded hr
  · exact h.restored hs

/-! ### One step -/

/-- A response leaves the names of those alone that it brings no addresses. -/
theorem name?_observeFamily_of_quiet (c : Cache) (seen : Instant) {obs : Dns.Observation}
    (family : Family) (h : o = ⟨obs.name, family⟩ → obs.ofFamily family = []) :
    (c.observeFamily seen obs family).1.names.name? o = c.names.name? o := by
  rcases observeFamily_cases c seen obs family with ⟨hsome, heq⟩ | ⟨-, -, r, -, heq⟩ | ⟨-, -, heq⟩
  · rw [heq]
    show (c.names.register _).name? o = _
    rw [Registry.name?_register, if_neg fun ho => hsome (h ho.symm)]
  · rw [heq]
    rfl
  · rw [heq]

theorem restored_observeFamily_sublist (c : Cache) (seen : Instant) (obs : Dns.Observation)
    (family : Family) :
    (c.observeFamily seen obs family).1.restored.Sublist c.restored := by
  rw [restored_observeFamily]
  split
  · exact List.Sublist.refl _
  · exact List.filter_sublist

private theorem name?_adopt?_of_some {r r' : Registry} {adopted : String} {owner : Owner}
    (h : r.adopt? adopted owner = some r') (hname : r.name? o = some name) :
    r'.name? o = some name := by
  rw [Registry.name?_adopt? h]
  by_cases ho : owner = o
  · rw [if_pos ho]
    rcases Registry.adopt?_cases h with ⟨hown, -⟩ | ⟨hnone, -⟩
    · rw [← ho, hown] at hname
      exact hname
    · rw [← ho, hnone] at hname
      exact nomatch hname
  · rw [if_neg ho, hname]

theorem Coherent.restoreOne? (h : c.Coherent) {c' : Cache} {s : NamedSet}
    (hs : c.restoreOne? s = some c') :
    c'.Coherent := by
  obtain ⟨names, hadopt, -, rfl⟩ := restoreOne?_eq_some hs
  constructor
  · intro o r hr
    exact name?_adopt?_of_some hadopt (h.recorded hr)
  · intro t ht
    rcases List.mem_append.1 ht with ht | ht
    · exact name?_adopt?_of_some hadopt (h.restored ht)
    · rw [List.mem_singleton.1 ht]
      show names.name? s.qualified.owner = some s.setName
      rw [Registry.name?_adopt? hadopt, if_pos rfl]
  · exact h.injective.adopt? hadopt

namespace Consistent

theorem fresh (forwarder : Endpoint) : (Cache.fresh forwarder).Consistent where
  toCoherent := Coherent.fresh forwarder
  registered h := nomatch h
  distinct := .nil
  qualified h := absurd h (not_pins_fresh forwarder)

theorem purge (h : c.Consistent) (now : Instant) : (c.purge now).Consistent := by
  have hcoherent := h.toCoherent.purge now
  refine ⟨hcoherent, ?_, h.distinct.filter _, ?_⟩
  · intro o name hname
    have hretained : (c.names.retain _).name? o = some name := hname
    rw [Registry.name?_retain, Option.filter_eq_some_iff] at hretained
    have hdeclared : (c.purge now).declares o = true := hretained.2
    obtain ⟨name', expiration, hpins⟩ := declares_iff_pins.1 hdeclared
    have hsame : some name' = some name := (hcoherent.named hpins).symm.trans hname
    cases hsame
    exact ⟨expiration, hpins⟩
  · intro o name expiration hpins
    exact h.qualified ((pins_purge now).1 hpins).1

theorem observeFamily (h : c.Consistent) (seen : Instant) {m : Dns.Message} {obs : Dns.Observation}
    (family : Family) (hm : Dns.Observation.ofMessage m = .ok obs) :
    (c.observeFamily seen obs family).1.Consistent := by
  have hcoherent := h.toCoherent.observeFamily seen obs family
  refine ⟨hcoherent, ?_, h.distinct.sublist (restored_observeFamily_sublist c seen obs family), ?_⟩
  · intro o name hname
    by_cases hanswer : o = ⟨obs.name, family⟩ ∧ obs.ofFamily family ≠ []
    · obtain ⟨rfl, haddresses⟩ := hanswer
      have hpins := (pins_observeFamily_of_answer c seen family haddresses).2 ⟨rfl, rfl⟩
      have hsame := (hcoherent.named hpins).symm.trans hname
      rw [Option.some.inj hsame] at hpins
      exact ⟨_, hpins⟩
    · have hquiet : o = ⟨obs.name, family⟩ → obs.ofFamily family = [] :=
        fun ho => Classical.not_not.1 fun hne => hanswer ⟨ho, hne⟩
      rw [name?_observeFamily_of_quiet c seen family hquiet] at hname
      obtain ⟨expiration, hpins⟩ := h.registered hname
      exact ⟨expiration, (pins_observeFamily_of_quiet c seen family hquiet).2 hpins⟩
  · intro o name expiration hpins
    by_cases ho : o = ⟨obs.name, family⟩
    · rw [ho]
      exact Dns.Observation.qualified_name hm
    · exact h.qualified
        ((pins_observeFamily_of_quiet c seen family fun heq => absurd heq ho).1 hpins)

theorem restoreOne? (h : c.Consistent) {c' : Cache} {s : NamedSet}
    (hs : c.restoreOne? s = some c') :
    c'.Consistent := by
  refine ⟨h.toCoherent.restoreOne? hs, ?_, ?_, ?_⟩
  · intro o name hname
    obtain ⟨names, hadopt, -, rfl⟩ := restoreOne?_eq_some hs
    have hadopted : names.name? o = some name := hname
    rw [Registry.name?_adopt? hadopt] at hadopted
    by_cases ho : s.qualified.owner = o
    · rw [if_pos ho] at hadopted
      exact ⟨s.expiration, (pins_restoreOne? hs).2 (.inr ⟨ho, Option.some.inj hadopted, rfl⟩)⟩
    · rw [if_neg ho] at hadopted
      obtain ⟨expiration, hpins⟩ := h.registered hadopted
      exact ⟨expiration, (pins_restoreOne? hs).2 (.inl hpins)⟩
  · obtain ⟨names, -, hnew, rfl⟩ := restoreOne?_eq_some hs
    refine List.pairwise_append.2 ⟨h.distinct, List.pairwise_singleton _ _, ?_⟩
    intro r hr t ht
    rw [List.mem_singleton.1 ht]
    exact hnew r hr
  · intro o name expiration hpins
    rcases (pins_restoreOne? hs).1 hpins with hpins | ⟨rfl, -⟩
    · exact h.qualified hpins
    · exact Name.fullyQualified_fullyQualified s.fqdn

theorem setForwarder (h : c.Consistent) (forwarder : Endpoint) :
    (c.setForwarder forwarder).Consistent where
  recorded := h.recorded
  restored := h.restored
  injective := h.injective
  registered := h.registered
  distinct := h.distinct
  qualified := h.qualified

/-! ### Many steps -/

theorem after (h : c.Consistent) (e : Event) : (c.after e).Consistent :=
  after_induction (fun now hc => hc.purge now)
    (fun seen _ _ family hm hc => hc.observeFamily seen family hm) h e

theorem run (h : c.Consistent) (events : List Event) : (c.run events).Consistent := by
  induction events generalizing c with
  | nil => exact h
  | cons e rest ih => exact ih (h.after e)

/-- **Every history keeps the names consistent.** -/
theorem history (h : c.Consistent) (operations : List Operation) :
    (c.history operations).Consistent :=
  history_induction (fun now hc => hc.purge now)
    (fun seen _ _ family hm hc => hc.observeFamily seen family hm)
    (fun _ hs hc => hc.restoreOne? hs) (fun forwarder hc => hc.setForwarder forwarder) h operations

theorem distinct_owners (h : c.Consistent) :
    c.restored.Pairwise fun s t => s.setName ≠ t.setName ∧ s.owner ≠ t.owner := by
  refine h.distinct.imp_of_mem ?_
  intro s t hs ht hne
  refine ⟨hne, fun howner => hne ?_⟩
  have hnames := h.restored hs
  rw [howner, h.restored ht] at hnames
  exact (Option.some.inj hnames).symm

end Consistent

/-- The address 192.0.2.7. -/
def sampleAddress : Address := ⟨.v4, 0xC0000207, by decide⟩

/-- A response that gives a name that address for some seconds. -/
def sampleAnswer (name : String) (ttl : Nat) : Dns.Message where
  isResponse := true
  questions := [⟨name, .a⟩]
  answers := [⟨name, ttl, some sampleAddress⟩]

/-- The address 192.0.2.8. -/
def sampleNeighbour : Address := ⟨.v4, 0xC0000208, by decide⟩

/-- The address 2001:db8::7. -/
def sampleLong : Address := ⟨.v6, 0x20010DB8000000000000000000000007, by decide⟩

/-- A response that gives example.com two addresses of one family, for
different times, and one of the other. -/
def sampleBoth : Dns.Message where
  isResponse := true
  questions := [⟨"example.com", .a⟩]
  answers := [⟨"example.com", 300, some sampleAddress⟩, ⟨"example.com", 60, some sampleNeighbour⟩,
    ⟨"example.com", 120, some sampleLong⟩]

/-- A saved set of a name, with no addresses. -/
def sampleSaved (fqdn setName : String) : NamedSet :=
  ⟨fqdn, setName, [], .ofSeconds 1700000300, .v4⟩

/-- Two names that come to the same letters are answered; then a saved set of the first is restored,
and one that another name had under the same set name. -/
def sampleHistory : List Operation :=
  [.event (.response (.ofSeconds 1700000000) (sampleAnswer "a-b.com" 60)),
    .event (.response (.ofSeconds 1700000001) (sampleAnswer "A.B.com." 60)),
    .restore [sampleSaved " A-B.com " "fqdn_a_b_com_v4", sampleSaved "c.com" "fqdn_a_b_com_v4"]]

end Cache

end Firewall
