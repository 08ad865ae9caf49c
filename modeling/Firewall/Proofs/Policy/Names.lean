/-
Policies about host names admit exactly what was answered.

A rule about host names is compiled to a line for each set that its selectors find, and
the line lets a packet out to the members of the set.  Which members those are is decided
apart from the rule, by the sets that are rendered beside it; the two meet in the name of
the set.  Names being coherent, the set of that name is the very set that was found, so a
line admits a destination exactly when the record it came from has it, and the records that
count are what was answered (`Cache.resolves_iff_recorded`).
-/
import Firewall.Proofs.Cache.Agreement
import Firewall.Proofs.Cache.Answers
import Firewall.Proofs.Name.Starless
import Firewall.Proofs.Policy.Meaning
import Firewall.Proofs.Prefix.Set

namespace Firewall

/-- What a line says accepts a packet, and one of its matches is that
the destination is in a named set. -/
def Line.TextAcceptsBySet (env : Environment) (packet : Packet) (text : String) : Prop :=
  ∃ ms, read? text = some ms ∧ (∃ f name, .address (.inSet f .destination name) ∈ ms) ∧
    ∀ m ∈ ms, m.Holds env packet

variable {options : CompileOptions} {env : Environment} {packet : Packet}

/-- A line matches the destination with a named set. -/
def Line.HasSet (l : Line) : Prop := ∃ f name, .inSet f .destination name ∈ l.clauses

namespace Compile

variable {view : View}

/-! ### One rule -/

/-- The lines for a selector accept the packets from the cluster to a
member of a set that was found. -/
theorem accepts_selectorLines {policy : String} {ports : Ports} {s : Selector} :
    (∃ l ∈ (selectorLines options view policy ports s).egress, l.Accepts env packet) ↔
      (packet.source ∈ env.cluster ∧ ∃ set ∈ view s, set.family = packet.family ∧
        env.IsMember set.setName packet.destination) ∧
      (ports.isEmpty = true ∨ ∃ c ∈ ports.clauses, c.Holds packet) := by
  unfold selectorLines
  simp only [accepts_expand, List.mem_map, exists_exists_and_eq_and, List.forall_mem_cons,
    List.not_mem_nil, false_implies, implies_true, and_true, Clause.Holds, Direction.addressOf]
  refine and_congr_left' ?_
  constructor
  · rintro ⟨set, hset, ⟨hfamily, hsource⟩, -, hmember⟩
    exact ⟨hsource, set, hset, hfamily.symm, hmember⟩
  · rintro ⟨hsource, set, hset, hfamily, hmember⟩
    exact ⟨set, hset, ⟨hfamily.symm, hsource⟩, hfamily.symm, hmember⟩

theorem mem_egress_of_ne_nil {policy : String} {r : EgressRule} (hr : r.selectors ≠ [])
    {f : Fragment} (h : egressRule options (some view) policy r = .ok f) :
    ∃ ports, Ports.ofPolicy r.ports = .ok ports ∧
      ∀ l, l ∈ f.egress ↔
        ∃ s ∈ r.selectors, l ∈ (selectorLines options view policy ports s).egress := by
  obtain ⟨-, ⟨ports, hports, rfl⟩, -⟩ := (egressRule_eq_ok_of_ne_nil hr).1 h
  refine ⟨ports, hports, fun l => ?_⟩
  show l ∈ (Fragment.concat _).egress ↔ _
  rw [Fragment.mem_egress_concat]
  simp

/-- **The lines of a rule about host names** accept the packets from the cluster to a member of a
set that one of its selectors found. -/
theorem accepts_egressRule_of_ne_nil {policy : String} {r : EgressRule} (hr : r.selectors ≠ [])
    {f : Fragment} (h : egressRule options (some view) policy r = .ok f) :
    (∃ l ∈ f.egress, l.Accepts env packet) ↔
      packet.source ∈ env.cluster ∧ PolicyPort.Admit r.ports packet.transport ∧
      ∃ s ∈ r.selectors, ∃ set ∈ view s, set.family = packet.family ∧
      env.IsMember set.setName packet.destination := by
  obtain ⟨ports, hports, hlines⟩ := mem_egress_of_ne_nil hr h
  rw [← Ports.holds_clauses_ofPolicy hports]
  constructor
  · rintro ⟨l, hl, haccepts⟩
    obtain ⟨s, hs, hl⟩ := (hlines l).1 hl
    obtain ⟨⟨hsource, hset⟩, hport⟩ := accepts_selectorLines.1 ⟨l, hl, haccepts⟩
    exact ⟨hsource, hport, s, hs, hset⟩
  · rintro ⟨hsource, hport, s, hs, hset⟩
    obtain ⟨l, hl, haccepts⟩ := accepts_selectorLines.2 ⟨⟨hsource, hset⟩, hport⟩
    exact ⟨l, (hlines l).2 ⟨s, hs, hl⟩, haccepts⟩

/-- A line of a rule about host names matches the destination with the set it is for. -/
theorem clauses_of_ne_nil {policy : String} {r : EgressRule} (hr : r.selectors ≠ []) {f : Fragment}
    (h : egressRule options (some view) policy r = .ok f) {l : Line} (hl : l ∈ f.egress) :
    ∃ s ∈ r.selectors, ∃ set ∈ view s,
      l.clauses = [.fromCluster set.family, .inSet set.family .destination set.setName] := by
  obtain ⟨ports, -, hlines⟩ := mem_egress_of_ne_nil hr h
  obtain ⟨s, hs, hl⟩ := (hlines l).1 hl
  unfold selectorLines at hl
  dsimp only at hl
  obtain ⟨set, hset, hclauses⟩ := List.mem_map.1 (of_mem_expand hl).1
  exact ⟨s, hs, set, hset, hclauses.symm⟩

/-- The lines of a rule about host names can be read back, if the names
of its sets have no spaces. -/
theorem readable_egressRule_of_ne_nil (hplain : ∀ s, ∀ set ∈ view s, ' ' ∉ set.setName.toList)
    {policy : String} {r : EgressRule} (hr : r.selectors ≠ []) {f : Fragment}
    (h : egressRule options (some view) policy r = .ok f) :
    ∀ l ∈ f.egress, ∀ m ∈ l.ruleMatches, m.Readable := by
  obtain ⟨ports, -, hlines⟩ := mem_egress_of_ne_nil hr h
  intro l hl
  obtain ⟨s, -, hl⟩ := (hlines l).1 hl
  unfold selectorLines at hl
  dsimp only at hl
  refine readable_expand ?_ hl
  intro cs hcs c hc
  obtain ⟨set, hset, rfl⟩ := List.mem_map.1 hcs
  rcases List.mem_cons.1 hc with rfl | hc
  · trivial
  · rw [List.mem_singleton.1 hc]
    exact hplain s set hset

theorem inSet_notMem_of_nil {view : Option View} {policy : String} {r : EgressRule}
    (hr : r.selectors = []) {f : Fragment} (h : egressRule options view policy r = .ok f) {l : Line}
    (hl : l ∈ f.egress) {g : Family} {d : Direction} {name : String} :
    .inSet g d name ∉ l.clauses := by
  obtain ⟨ports, targets, -, -, rfl⟩ := (egressRule_eq_ok_of_nil hr).1 h
  dsimp only at hl
  exact fun hmem => setless_egressConstraints _ (of_mem_expand hl).1 _ hmem

theorem not_hasSet_of_nil {view : Option View} {policy : String} {r : EgressRule}
    (hr : r.selectors = []) {f : Fragment} (h : egressRule options view policy r = .ok f) {l : Line}
    (hl : l ∈ f.egress) : ¬ l.HasSet := by
  rintro ⟨g, name, hmem⟩
  exact inSet_notMem_of_nil hr h hl hmem

end Compile

/-! ### All rules -/

/-- A line that can be read back is read with a set exactly when it has one. -/
theorem Line.textAcceptsBySet_text {l : Line} (h : ∀ m ∈ l.ruleMatches, m.Readable) :
    TextAcceptsBySet env packet l.text ↔ l.HasSet ∧ l.Accepts env packet := by
  have hset : (∃ f name, RuleMatch.address (.inSet f .destination name) ∈ l.ruleMatches) ↔
      l.HasSet := by
    simp [ruleMatches, HasSet]
  unfold TextAcceptsBySet
  rw [read?_text h, accepts_iff_matches]
  constructor
  · rintro ⟨ms, hms, hsome, hall⟩
    cases hms
    exact ⟨hset.1 hsome, hall⟩
  · rintro ⟨hsome, hall⟩
    exact ⟨l.ruleMatches, rfl, hset.2 hsome, hall⟩

/-- Every egress line can be read back, if the names of the sets that are found have no spaces. -/
theorem readable_egress_compileParts {view : View}
    (hplain : ∀ s, ∀ set ∈ view s, ' ' ∉ set.setName.toList) {policies : List Policy}
    {services : List Service} :
    ∀ l ∈ (compileParts options (some view) policies services).egress, ∀ m ∈ l.ruleMatches,
    m.Readable := by
  intro l hl
  obtain ⟨p, -, r, -, f, hok, hf⟩ := mem_egress_compileParts.1 hl
  by_cases hr : r.selectors = []
  · exact Compile.readable_egressRule hr hok l hf
  · exact Compile.readable_egressRule_of_ne_nil hplain hr hok l hf

theorem mem_egress_compiled {f : Fragment} {t : String} :
    t ∈ f.compiled.egress ↔ ∃ l ∈ f.egress, l.text = t := by
  rw [show f.compiled.egress = uniqueSorted (f.egress.map Line.text) from rfl, uniqueSorted,
    Ascending.mem_ofList]
  exact List.mem_map

/-- **Which egress lines with a set accept a packet**, where the names of the sets that are found
have no spaces: those of a rule about host names that is taken. -/
theorem textAcceptsBySet_egress {view : View}
    (hplain : ∀ s, ∀ set ∈ view s, ' ' ∉ set.setName.toList) (policies : List Policy)
    (services : List Service) :
    (∃ t ∈ (compileParts options (some view) policies services).compiled.egress,
        Line.TextAcceptsBySet env packet t) ↔
      packet.source ∈ env.cluster ∧ ∃ p ∈ policies, ∃ r ∈ p.egress, r.selectors ≠ [] ∧
        (Compile.egressRule options (some view) p.name r).isOk ∧
        PolicyPort.Admit r.ports packet.transport ∧
        ∃ s ∈ r.selectors, ∃ set ∈ view s, set.family = packet.family ∧
          env.IsMember set.setName packet.destination := by
  have htexts : (∃ t ∈ (compileParts options (some view) policies services).compiled.egress,
        Line.TextAcceptsBySet env packet t) ↔
      ∃ l ∈ (compileParts options (some view) policies services).egress, l.HasSet ∧
      l.Accepts env packet := by
    simp only [mem_egress_compiled, exists_exists_and_eq_and]
    exact exists_congr fun l =>
      and_congr_right fun hl =>
        Line.textAcceptsBySet_text (readable_egress_compileParts hplain l hl)
  rw [htexts]
  constructor
  · rintro ⟨l, hl, hset, haccepts⟩
    obtain ⟨p, hp, r, hr, f, hok, hf⟩ := mem_egress_compileParts.1 hl
    have hselectors : r.selectors ≠ [] := fun hnil => Compile.not_hasSet_of_nil hnil hok hf hset
    obtain ⟨hsource, hports, hmember⟩ :=
      (Compile.accepts_egressRule_of_ne_nil hselectors hok).1 ⟨l, hf, haccepts⟩
    exact ⟨hsource, p, hp, r, hr, hselectors, Attempt.isOk_iff.2 ⟨f, hok⟩, hports, hmember⟩
  · rintro ⟨hsource, p, hp, r, hr, hselectors, hok, hports, hmember⟩
    obtain ⟨f, hok⟩ := Attempt.isOk_iff.1 hok
    obtain ⟨l, hf, haccepts⟩ :=
      (Compile.accepts_egressRule_of_ne_nil hselectors hok).2 ⟨hsource, hports, hmember⟩
    obtain ⟨s, -, set, -, hclauses⟩ := Compile.clauses_of_ne_nil hselectors hok hf
    refine ⟨l, mem_egress_compileParts.2 ⟨p, hp, r, hr, f, hok, hf⟩,
      ⟨set.family, set.setName, ?_⟩, haccepts⟩
    rw [hclauses]
    exact List.mem_cons_of_mem _ List.mem_cons_self

namespace Cache

variable {c : Cache} {now : Instant}

theorem isMember_iff {set : NamedSet} (h : set ∈ c.setsForRendering now) {cluster : PrefixSet}
    {a : Address} :
    Environment.IsMember ⟨cluster, c.setsForRendering now⟩ set.setName a ↔ a ∈ set.addresses := by
  constructor
  · rintro ⟨t, ht, hname, ha⟩
    rwa [← eq_of_setName_rendered ht h hname]
  · intro ha
    exact ⟨set, h, rfl, ha⟩

/-- A selector finds a set for an address exactly if it selects a
rendered one which has the address. -/
theorem Coherent.exists_found_iff (hc : c.Coherent) {s : Selector} {cluster : PrefixSet}
    {family : Family} {a : Address} : (∃ set ∈ c.setsFor s true now, set.family = family ∧
      Environment.IsMember ⟨cluster, c.setsForRendering now⟩ set.setName a) ↔
      ∃ set ∈ c.setsForRendering now, s.selects set.fqdn = true ∧ set.family = family ∧
      a ∈ set.addresses := by
  constructor
  · rintro ⟨set, hset, hfamily, hmember⟩
    obtain ⟨hrendered, hselects⟩ := hc.mem_setsFor_iff.1 hset
    exact ⟨set, hrendered, hselects, hfamily, (isMember_iff hrendered).1 hmember⟩
  · rintro ⟨set, hrendered, hselects, hfamily, ha⟩
    exact ⟨set, hc.mem_setsFor_iff.2 ⟨hrendered, hselects⟩, hfamily, (isMember_iff hrendered).2 ha⟩

/-- What a selector finds for an address: the records that count, of the names that it selects. -/
theorem exists_set_iff (hrestored : c.restored = []) (hc : c.Coherent) {s : Selector}
    {cluster : PrefixSet} {a : Address} :
    (∃ set ∈ c.setsFor s true now, set.family = a.family ∧
      Environment.IsMember ⟨cluster, c.setsForRendering now⟩ set.setName a) ↔
      ∃ name, s.selects name = true ∧ ∃ r, c.records.get? ⟨name, a.family⟩ = some r ∧
      r.isLive now = true ∧
        a ∈ r.members := by
  simp only [hc.exists_found_iff, mem_setsForRendering hrestored hc, mem_liveSets]
  constructor
  · rintro ⟨set, ⟨o, r, hr, hcounts, rfl⟩, hselects, hfamily, ha⟩
    have howner : o = ⟨o.fqdn, a.family⟩ := Owner.ext rfl hfamily
    rw [howner] at hr
    exact ⟨o.fqdn, hselects, r, hr, hcounts, ha⟩
  · rintro ⟨name, hselects, r, hr, hcounts, ha⟩
    exact ⟨r.toNamedSet ⟨name, a.family⟩, ⟨_, r, hr, hcounts, rfl⟩, hselects, rfl, ha⟩

theorem space_notMem_setName (hrestored : c.restored = []) (hc : c.Coherent) (hderived : c.Derived)
    {s : Selector} {set : NamedSet} (hset : set ∈ c.setsFor s true now) :
    ' ' ∉ set.setName.toList := by
  obtain ⟨hlive, -⟩ := (mem_setsFor hrestored).1 hset
  obtain ⟨o, r, hr, -, rfl⟩ := mem_liveSets.1 hlive
  obtain ⟨k, hk⟩ := hderived (hc.recorded hr)
  show ' ' ∉ r.setName.toList
  rw [hk]
  exact Registry.space_notMem_candidate o k

end Cache

/-- **Policies about host names admit exactly what was answered.**  After any run of responses and
purges, and at any time that none of them is after, an egress line with a set accepts a packet
exactly when the packet comes from the cluster and a rule about host names that is taken admits its
port and has a selector that stands for a name that the run resolves to its destination. -/
theorem egress_admits_what_was_answered (forwarder : Endpoint) (events : List Cache.Event)
    (now : Instant) (h : ∀ e ∈ events, e.time ≤ now) (options : CompileOptions)
    (policies : List Policy) (services : List Service) (cluster : PrefixSet) (packet : Packet) :
    let cache := (Cache.fresh forwarder).run events
    let view : View := fun s => cache.setsFor s true now
    ∃ compiled, compile options (some view) policies services = .ok compiled ∧
      ((∃ t ∈ compiled.egress,
        Line.TextAcceptsBySet ⟨cluster, cache.setsForRendering now⟩ packet t) ↔
        packet.source ∈ cluster ∧ ∃ p ∈ policies, ∃ r ∈ p.egress, r.selectors ≠ [] ∧
          (Compile.egressRule options (some view) p.name r).isOk ∧
          PolicyPort.Admit r.ports packet.transport ∧
          ∃ s ∈ r.selectors, ∃ name, s.StandsFor name ∧
            Cache.Resolves events name packet.destination now) := by
  intro cache view
  have hrestored : cache.restored = [] := Cache.restored_run rfl events
  have hc : cache.Coherent := (Cache.Coherent.fresh forwarder).run events
  have hderived : cache.Derived := Cache.derived_run (Cache.Derived.fresh forwarder) events
  refine ⟨_, rfl, ?_⟩
  have hplain : ∀ s, ∀ set ∈ view s, ' ' ∉ set.setName.toList :=
    fun s set hset => Cache.space_notMem_setName hrestored hc hderived hset
  have hfound : ∀ s : Selector, (∃ set ∈ view s, set.family = packet.family ∧
      Environment.IsMember ⟨cluster, cache.setsForRendering now⟩ set.setName packet.destination) ↔
      ∃ name, s.StandsFor name ∧ Cache.Resolves events name packet.destination now := by
    intro s
    simp only [← Selector.selects_iff, Cache.resolves_iff_recorded forwarder h]
    rw [← packet.destination_family]
    exact Cache.exists_set_iff hrestored hc
  rw [textAcceptsBySet_egress hplain]
  simp only [hfound]

/-- A response that gives example.com the address 93.184.216.34 for a minute. -/
def sampleResponse : Dns.Message where
  isResponse := true
  questions := [⟨"example.com", .a⟩]
  answers := [⟨"example.com", 60, some ⟨.v4, 0x5DB8D822, by decide⟩⟩]

/-- The cluster may reach example.com. -/
def sampleNamePolicy : Policy where
  name := "sample"
  egress := [{ selectors := [.exact "Example.com"] }]

/-- A packet from 10.2.0.1 to 93.184.216.34. -/
def samplePacketOut : Packet :=
  { samplePacket with
    destination := ⟨.v4, 0x5DB8D822, by decide⟩
    destination_family := rfl }

/-- A packet from 10.2.0.1 to 192.0.2.7. -/
def samplePacketShort : Packet :=
  { samplePacket with
    destination := Cache.sampleAddress
    destination_family := rfl }

/-- A packet from 2001:db8::1 to 2001:db8::7. -/
def samplePacketLong : Packet where
  family := .v6
  source := ⟨.v6, 0x20010DB8000000000000000000000001, by decide⟩
  destination := Cache.sampleLong
  transport := .toPort .tcp dnsPort
  source_family := rfl
  destination_family := rfl

/-- A response with addresses of both families was seen, and nothing else. -/
def sampleSeen : List Cache.Event := [.response (.ofSeconds 1700000000) Cache.sampleBoth]

/-- After that the sample policy lets a packet out at a time. -/
def SampleLetsOut (now : Instant) (packet : Packet) : Prop :=
  let cache := (Cache.fresh default).run sampleSeen
  ∃ compiled, compile {} (some fun s => cache.setsFor s true now) [sampleNamePolicy] [] =
    .ok compiled ∧
    ∃ t ∈ compiled.egress,
      Line.TextAcceptsBySet ⟨.single (.host packet.source), cache.setsForRendering now⟩ packet t

/-- Both families are let out while the shorter time of the one counts, and then only the other. -/
theorem egress_sampleNamePolicy :
    (∀ e ∈ sampleSeen, e.time ≤ .ofSeconds 1700000059) ∧
    (∀ e ∈ sampleSeen, e.time ≤ .ofSeconds 1700000060) ∧
      SampleLetsOut (.ofSeconds 1700000059) samplePacketShort ∧
      SampleLetsOut (.ofSeconds 1700000059) samplePacketLong ∧
      ¬ SampleLetsOut (.ofSeconds 1700000060) samplePacketShort ∧
      SampleLetsOut (.ofSeconds 1700000060) samplePacketLong := by
  have hbefore : ∀ e ∈ sampleSeen, e.time ≤ .ofSeconds 1700000059 := by decide
  have hafter : ∀ e ∈ sampleSeen, e.time ≤ .ofSeconds 1700000060 := by decide
  have hlets : ∀ now packet, (∀ e ∈ sampleSeen, e.time ≤ now) →
      (SampleLetsOut now packet ↔
        Cache.Resolves sampleSeen "example.com." packet.destination now) := by
    intro now packet htimes
    obtain ⟨compiled, hcompiled, hegress⟩ :=
      egress_admits_what_was_answered default sampleSeen now htimes {}
      [sampleNamePolicy] [] (.single (.host packet.source)) packet
    constructor
    · rintro ⟨compiled', hcompiled', haccepts⟩
      cases hcompiled.symm.trans hcompiled'
      obtain ⟨-, p, hp, r, hr, -, -, -, s, hs, name, hstands, hresolves⟩ := hegress.1 haccepts
      cases List.mem_singleton.1 hp
      cases List.mem_singleton.1 hr
      cases List.mem_singleton.1 hs
      have hname : name = Name.fullyQualified "Example.com" := hstands
      rw [hname, show Name.fullyQualified "Example.com" =
        "example.com." by decide +kernel] at hresolves
      exact hresolves
    · intro hresolves
      have hsource : packet.source ∈ PrefixSet.single (.host packet.source) :=
        PrefixSet.mem_single.2 (Prefix.mem_ofAddress _ _ _)
      exact ⟨compiled, hcompiled, hegress.2 ⟨hsource,
        sampleNamePolicy, List.mem_singleton_self _, _, List.mem_singleton_self _, by decide, rfl,
        .inl rfl, _, List.mem_singleton_self _, "example.com.",
        Selector.selects_iff.1 (by decide), hresolves⟩⟩
  have hanswered : ∀ family, Cache.Answered
      [.response (.ofSeconds 1700000000) Cache.sampleBoth] ⟨"example.com.", family⟩
      (.ofSeconds 1700000000) Cache.sampleBoth [] :=
    fun family => Cache.answered_sampleBoth family _ nofun
  obtain ⟨hlasts4, hlasts6⟩ := Cache.sampleBoth_lastsFor
  have hlong : Cache.sampleBoth.Gives Cache.sampleLong 120 :=
    Cache.sampleBoth_gives.2 (.inr (.inr ⟨rfl, rfl⟩))
  refine ⟨hbefore, hafter, (hlets _ _ hbefore).2 ?_, (hlets _ _ hbefore).2 ?_,
    fun hlet => ?_, (hlets _ _ hafter).2 ?_⟩
  · exact ⟨_, _, [], 60, hanswered .v4, hlasts4, by decide,
      ⟨300, Cache.sampleBoth_gives.2 (.inl ⟨rfl, rfl⟩)⟩, nofun⟩
  · exact ⟨_, _, [], 120, hanswered .v6, hlasts6, by decide, ⟨120, hlong⟩, nofun⟩
  · obtain ⟨seen, m, later, ttl, hanswer, hlasts, hnow, -⟩ := (hlets _ _ hafter).1 hlet
    obtain ⟨rfl, rfl, -⟩ := (hanswered .v4).unique hanswer
    rw [hlasts.unique hlasts4] at hnow
    exact absurd hnow (by decide)
  · exact ⟨_, _, [], 120, hanswered .v6, hlasts6, by decide, ⟨120, hlong⟩, nofun⟩

end Firewall
