/-
Where rules about host names lead.

The allowed prefixes are compared with the blocks of a rule, and a rule about host names has none.
Its lines let out to whatever is declared under the names of the sets that its selectors find.
Which addresses these are can be said of the declared sets alone, without lines and without options
(`NameRulesReach`, `Cache.Coherent.exists_accepts_iff`).

So the allowed prefixes confine these rules only if what was answered,
or restored, happens to lie in them.
-/
import Firewall.Proofs.Policy.Allowed

namespace Firewall

/-- A line is one that an egress rule of the policies gives, to host names. -/
def Compile.FromNameRule (options : CompileOptions) (view : Option View) (policies : List Policy)
    (l : Line) : Prop :=
  ∃ p ∈ policies, ∃ r ∈ p.egress, r.selectors ≠ [] ∧
  ∃ f, egressRule options view p.name r = .ok f ∧ l ∈ f.egress

/-- A rule about host names leads to an address: it gives no blocks, its ports and its selectors are
right, and one of these selects a declared set which has the address, and is of its family. -/
def NameRulesReach (policies : List Policy) (declared : List NamedSet) (a : Address) : Prop :=
  ∃ p ∈ policies, ∃ r ∈ p.egress, r.destinations = [] ∧ (Ports.ofPolicy r.ports).isOk = true ∧
    Compile.checkSelectors r.selectors = .ok () ∧
    ∃ s ∈ r.selectors, ∃ set ∈ declared, s.selects set.fqdn = true ∧ set.family = a.family ∧
    a ∈ set.addresses

variable {options : CompileOptions} {view : Option View} {policies : List Policy}
  {services : List Service}

theorem Compile.ofNameRule_iff {t : String} :
    OfNameRule options view policies t ↔
      ∃ l, FromNameRule options view policies l ∧ l.text = t := by
  constructor
  · rintro ⟨p, hp, r, hr, hselectors, f, hok, l, hl, htext⟩
    exact ⟨l, ⟨p, hp, r, hr, hselectors, f, hok, hl⟩, htext⟩
  · rintro ⟨l, ⟨p, hp, r, hr, hselectors, f, hok, hl⟩, htext⟩
    exact ⟨p, hp, r, hr, hselectors, f, hok, l, hl, htext⟩

namespace Cache

variable {c : Cache} {now : Instant}

/-- **The lines of rules about host names let out to the addresses that the rules lead to.** -/
theorem Coherent.exists_accepts_iff (hc : c.Coherent) {a : Address} :
    (∃ cluster packet l,
      Compile.FromNameRule options (some fun s => c.setsFor s true now) policies l ∧
      l.Accepts ⟨cluster, c.setsForRendering now⟩ packet ∧ packet.destination = a) ↔
      NameRulesReach policies (c.setsForRendering now) a := by
  constructor
  · rintro ⟨cluster, packet, l, ⟨p, hp, r, hr, hselectors, f, hok, hl⟩, haccepts, rfl⟩
    obtain ⟨-, -, s, hs, hfound⟩ :=
      (Compile.accepts_egressRule_of_ne_nil hselectors hok).1 ⟨l, hl, haccepts⟩
    obtain ⟨hnone, ⟨ports, hports, -⟩, hcheck⟩ :=
      (Compile.egressRule_eq_ok_of_ne_nil hselectors).1 hok
    rw [← packet.destination_family] at hfound
    exact ⟨p, hp, r, hr, hnone, Attempt.isOk_iff.2 ⟨ports, hports⟩, hcheck, s, hs,
      hc.exists_found_iff.1 hfound⟩
  · rintro ⟨p, hp, r, hr, hnone, hports, hcheck, s, hs, hset⟩
    obtain ⟨ports, hports⟩ := Attempt.isOk_iff.1 hports
    have hselectors : r.selectors ≠ [] := List.ne_nil_of_mem hs
    obtain ⟨transport, htransport⟩ := Ports.exists_admitted hports
    -- the cluster is a host that sends the address a packet
    let packet : Packet := ⟨a.family, a, a, transport, rfl, rfl⟩
    have hsource : packet.source ∈ PrefixSet.single (.host a) :=
      PrefixSet.mem_single.2 (Prefix.mem_ofAddress a _ _)
    have hok : Compile.egressRule options (some fun s => c.setsFor s true now) p.name r = .ok _ :=
      (Compile.egressRule_eq_ok_of_ne_nil hselectors).2 ⟨hnone, ⟨ports, hports, rfl⟩, hcheck⟩
    obtain ⟨l, hl, haccepts⟩ := (Compile.accepts_egressRule_of_ne_nil hselectors hok).2
      ⟨hsource, htransport, s, hs, hc.exists_found_iff.2 hset⟩
    exact ⟨_, packet, l, ⟨p, hp, r, hr, hselectors, _, hok, hl⟩, haccepts, rfl⟩

/-- The lines of rules about host names can be read back, if the names of the rendered sets have no
spaces. -/
theorem Coherent.textAccepts_iff (hc : c.Coherent)
    (hplain : ∀ set ∈ c.setsForRendering now, ' ' ∉ set.setName.toList) {env : Environment}
    {packet : Packet} {l : Line}
    (hl : Compile.FromNameRule options (some fun s => c.setsFor s true now) policies l) :
    Line.TextAccepts env packet l.text ↔ l.Accepts env packet := by
  obtain ⟨p, -, r, -, hselectors, f, hok, hl⟩ := hl
  exact Line.textAccepts_text (Compile.readable_egressRule_of_ne_nil
    (fun s set hset => hplain set (hc.mem_setsFor_iff.1 hset).1) hselectors hok l hl)

end Cache

/--
**When the allowed prefixes confine rules about host names.**  After any history of the
cache, at any time and whatever destinations are allowed: the lines of these rules let out
to allowed destinations only, by the members with which their sets are declared, exactly if
every address that the rules lead to is allowed. The same holds of the texts, if the names
of the declared sets have no spaces.
-/
theorem name_rules_confined_iff (forwarder : Endpoint) (operations : List Cache.Operation)
    (now : Instant) (options : CompileOptions) (allowed : PrefixSet) (policies : List Policy)
    (services : List Service) :
    let cache := (Cache.fresh forwarder).history operations
    let declared := cache.setsForRendering now
    let view : View := fun s => cache.setsFor s true now
    let options := { options with allowedEgress := some allowed }
    ∃ compiled, compile options (some view) policies services = .ok compiled ∧
      ((∀ cluster packet l, Compile.FromNameRule options (some view) policies l →
          l.Accepts ⟨cluster, declared⟩ packet → packet.destination ∈ allowed) ↔
        ∀ a, NameRulesReach policies declared a → a ∈ allowed) ∧
      ((∀ set ∈ declared, ' ' ∉ set.setName.toList) →
        ((∀ cluster packet, ∀ t ∈ compiled.egress,
          Compile.OfNameRule options (some view) policies t →
            Line.TextAccepts ⟨cluster, declared⟩ packet t → packet.destination ∈ allowed) ↔
          ∀ a, NameRulesReach policies declared a → a ∈ allowed)) := by
  intro cache declared view options
  have hc : cache.Coherent := ((Cache.Consistent.fresh forwarder).history operations).toCoherent
  clear_value cache
  have hlines : (∀ cluster packet l, Compile.FromNameRule options (some view) policies l →
      l.Accepts ⟨cluster, declared⟩ packet → packet.destination ∈ allowed) ↔
      ∀ a, NameRulesReach policies declared a → a ∈ allowed := by
    constructor
    · intro hconfined a ha
      obtain ⟨cluster, packet, l, hl, haccepts, rfl⟩ := hc.exists_accepts_iff.2 ha
      exact hconfined cluster packet l hl haccepts
    · intro hreach cluster packet l hl haccepts
      exact hreach _ (hc.exists_accepts_iff.1 ⟨cluster, packet, l, hl, haccepts, rfl⟩)
  have hcompiled : compile options (some view) policies services
      = .ok (compileParts options (some view) policies services).compiled := rfl
  refine ⟨_, hcompiled, hlines, fun hplain => ?_⟩
  rw [← hlines]
  constructor
  · intro hconfined cluster packet l hl haccepts
    have ht := Compile.ofNameRule_iff.2 ⟨l, hl, rfl⟩
    exact hconfined cluster packet l.text ((mem_egress_iff hcompiled).2 (.inr ht)) ht
      ((hc.textAccepts_iff hplain hl).2 haccepts)
  · intro hconfined cluster packet t _ ht haccepts
    obtain ⟨l, hl, rfl⟩ := Compile.ofNameRule_iff.1 ht
    exact hconfined cluster packet l hl ((hc.textAccepts_iff hplain hl).1 haccepts)

/-- example.com has been answered with 93.184.216.34. -/
def sampleResolved : List Cache.Operation :=
  [.event (.response (.ofSeconds 1700000000) sampleResponse)]

/-- Destinations in 93.184.216.0/24 are allowed. -/
def sampleNear : PrefixSet := .ofList [.ofAddress samplePacketOut.destination 24 (by decide)]

/-- Destinations in 10.0.0.0/8 are allowed. -/
def sampleFar : PrefixSet := .ofList [.ofAddress samplePacketOut.source 8 (by decide)]

/-- Whatever the options are, a text of the sample policy accepts the packet
to the address that was answered. -/
theorem sampleResolved_accepts (options : CompileOptions) :
    let cache := (Cache.fresh default).history sampleResolved
    let now := Instant.ofSeconds 1700000000
    ∃ t, Compile.OfNameRule options (some fun s => cache.setsFor s true now) [sampleNamePolicy] t ∧
      Line.TextAccepts
        ⟨.single (.host samplePacketOut.source), cache.setsForRendering now⟩ samplePacketOut t := by
  intro cache now
  have hc : cache.Coherent := ((Cache.Consistent.fresh default).history sampleResolved).toCoherent
  have hplain : ∀ set ∈ cache.setsForRendering now, ' ' ∉ set.setName.toList := by decide +kernel
  let r : EgressRule := { selectors := [.exact "Example.com"] }
  have hselectors : r.selectors ≠ [] := List.cons_ne_nil _ _
  have hok : Compile.egressRule options (some fun s => cache.setsFor s true now) "sample" r =
      .ok _ :=
    (Compile.egressRule_eq_ok_of_ne_nil hselectors).2 ⟨rfl, ⟨.empty, rfl, rfl⟩, rfl⟩
  have hfound : ∃ set ∈ cache.setsForRendering now,
      (Selector.exact "Example.com").selects set.fqdn = true ∧
      set.family = samplePacketOut.family ∧ samplePacketOut.destination ∈ set.addresses := by
        decide +kernel
  obtain ⟨l, hl, haccepts⟩ := (Compile.accepts_egressRule_of_ne_nil hselectors hok).2
    ⟨show samplePacketOut.source ∈ PrefixSet.single (.host samplePacketOut.source) by decide,
      .inl rfl, _,
      List.mem_singleton_self _, hc.exists_found_iff.2 hfound⟩
  have hfrom : Compile.FromNameRule options
      (some fun s => cache.setsFor s true now) [sampleNamePolicy] l :=
    ⟨_, List.mem_singleton_self _, _, List.mem_singleton_self _, hselectors, _, hok, hl⟩
  exact ⟨l.text, Compile.ofNameRule_iff.2 ⟨l, hfrom, rfl⟩,
    (hc.textAccepts_iff hplain hfrom).2 haccepts⟩

/-- The address that was answered is allowed, and so is every destination that is let out to. -/
theorem name_rules_confined_sampleNear :
    let cache := (Cache.fresh default).history sampleResolved
    let now := Instant.ofSeconds 1700000000
    let view : View := fun s => cache.setsFor s true now
    ∃ compiled, compile { allowedEgress := some sampleNear } (some view) [sampleNamePolicy] [] =
      .ok compiled ∧
      ∃ t ∈ compiled.egress, ∃ env packet, Line.TextAccepts env packet t ∧
      packet.destination ∈ sampleNear := by
  intro cache now view
  obtain ⟨compiled, hcompiled, -, htexts⟩ :=
    name_rules_confined_iff default sampleResolved now {} sampleNear
    [sampleNamePolicy] []
  have hdeclared : ∀ set ∈ cache.setsForRendering now, ∀ a ∈ set.addresses, a ∈ sampleNear := by
    decide +kernel
  have hreach : ∀ a, NameRulesReach [sampleNamePolicy] (cache.setsForRendering now) a →
      a ∈ sampleNear := by
    rintro a ⟨-, -, -, -, -, -, -, -, -, set, hset, -, -, ha⟩
    exact hdeclared set hset a ha
  have hconfined := (htexts (by decide +kernel)).2 hreach
  obtain ⟨t, ht, haccepts⟩ := sampleResolved_accepts { allowedEgress := some sampleNear }
  have hmem := (mem_egress_iff hcompiled).2 (.inr ht)
  exact ⟨compiled, hcompiled, t, hmem, _, _, haccepts, hconfined _ _ t hmem ht haccepts⟩

/-- The address that was answered is not allowed, and is let out to. -/
theorem name_rules_not_confined_sampleFar :
    let cache := (Cache.fresh default).history sampleResolved
    let now := Instant.ofSeconds 1700000000
    let view : View := fun s => cache.setsFor s true now
    let options : CompileOptions := { allowedEgress := some sampleFar }
    ∃ compiled, compile options (some view) [sampleNamePolicy] [] = .ok compiled ∧
      ∃ t ∈ compiled.egress, Compile.OfNameRule options (some view) [sampleNamePolicy] t ∧
        ∃ cluster, Line.TextAccepts ⟨cluster, cache.setsForRendering now⟩ samplePacketOut t ∧
          samplePacketOut.destination ∉ sampleFar := by
  intro cache now view options
  have hcompiled : compile options (some view) [sampleNamePolicy] []
      = .ok (compileParts options (some view) [sampleNamePolicy] []).compiled := rfl
  obtain ⟨t, ht, haccepts⟩ := sampleResolved_accepts options
  exact ⟨_, hcompiled, t, (mem_egress_iff hcompiled).2 (.inr ht), ht, _, haccepts, by decide⟩

end Firewall
