/-
What services let in.

A service is compiled like a rule of its own: its source ranges and its external addresses are
read, and its ports are put into buckets.  A line then accepts the packets that meet a match for
each side that prefixes are given for, so what a service lets in can be said without lines
(`Service.Admits`, `Compile.accepts_serviceRule`).

Source ranges have to be allowed, but they need not be given, and a service without
them lets in from everywhere.  Whether the allowed prefixes confine services therefore
hangs on the services that give none.
-/
import Firewall.Proofs.Policy.Allowed

namespace Firewall

namespace Service

/-- The number of a port under which a service is reached. -/
def numberOf (s : Service) (p : ServicePort) : PortNumber :=
  if s.type = .nodePort then p.nodePort.getD p.port else p.port

/-- A packet goes to one of the ports of a service. -/
def HasPort (s : Service) : Transport → Prop
  | .toPort protocol port => ∃ p ∈ s.ports, p.protocol.getD .tcp = protocol ∧ s.numberOf p = port
  | .other => False

/-- The ports of a service as a policy would list them. -/
def entries (s : Service) : List PolicyPort :=
  s.ports.map fun p => { protocol := some (p.protocol.getD .tcp), port := some (s.numberOf p) }

/-- An entry is an external address of a service: it is configured or
was assigned, and is not empty. -/
def External (s : Service) (entry : String) : Prop :=
  entry ≠ "" ∧ (s.loadBalancerIP = some entry ∨ some entry ∈ s.assigned)

theorem mem_externalAddresses {s : Service} {entry : String} :
    entry ∈ s.externalAddresses ↔ s.External entry := by
  unfold externalAddresses External
  rw [List.mem_filter, List.mem_append, List.mem_filterMap, Option.mem_toList]
  simp [and_comm]

/-- A service admits a packet: from one of its source ranges if it gives any, to one of its external
addresses if it is a load balancer, and to one of its ports. -/
def Admits (s : Service) (packet : Packet) : Prop :=
  (s.sourceRanges = [] ∨ ∃ entry ∈ s.sourceRanges, Prefix.InEntry entry packet.source) ∧
  (s.type = .loadBalancer → ∃ entry ∈ s.externalAddresses,
    Prefix.InEntry entry packet.destination) ∧
  s.HasPort packet.transport

/-- A service is reached in a family: any, unless it is a load balancer, which has to have an
external address of the family. -/
def ReachedIn (s : Service) (family : Family) : Prop :=
  s.type = .loadBalancer →
  ∃ entry ∈ s.externalAddresses, ∃ p, Prefix.parse entry = .ok p ∧ p.family = family

instance (s : Service) (transport : Transport) : Decidable (s.HasPort transport) :=
  match transport with
  | .toPort _ _ => inferInstanceAs (Decidable (∃ p ∈ s.ports, _))
  | .other => inferInstanceAs (Decidable False)

instance (s : Service) (packet : Packet) : Decidable (s.Admits packet) :=
  inferInstanceAs (Decidable (_ ∧ _ ∧ _))

end Service

namespace Compile

variable {options : CompileOptions} {env : Environment} {packet : Packet}

/-! ### Matches on addresses -/

/-- A match on one side holds for the packets of its family whose
address is in one of the prefixes. -/
theorem holds_side {ps : List Prefix} {f : Family} (d : Direction)
    (h : (ps.isEmpty || !(ofFamily f ps).isEmpty) = true) :
    (∀ c ∈ (if (ofFamily f ps).isEmpty then [] else [Clause.among f d (ofFamily f ps)]),
      c.Holds env packet) ↔
      ps = [] ∨ packet.family = f ∧ ∃ p ∈ ps, d.addressOf packet ∈ p := by
  by_cases hps : ps = []
  · simp only [hps, true_or, iff_true]
    have hnone : (ofFamily f []).isEmpty = true := rfl
    simp [hnone]
  · have hsome : (ofFamily f ps).isEmpty = false := by simpa [hps] using h
    simp only [hsome, Bool.false_eq_true, if_false, List.forall_mem_singleton, Clause.Holds,
      hps, false_or]
    refine and_congr_right fun hfamily => exists_congr fun p => ?_
    rw [ofFamily, Ascending.mem_ofList, List.mem_filter, decide_eq_true_eq]
    constructor
    · rintro ⟨⟨hp, -⟩, ha⟩
      exact ⟨hp, ha⟩
    · rintro ⟨hp, ha⟩
      exact ⟨⟨hp, by rw [← ha.1, d.family_addressOf, hfamily]⟩, ha⟩

/-- **The matches of a service mean what its two lists of prefixes say**; a
list without prefixes says nothing. -/
theorem holds_serviceConstraints {sources destinations : List Prefix} :
    (∃ cs ∈ serviceConstraints sources destinations, ∀ c ∈ cs, c.Holds env packet) ↔
      (sources = [] ∨ ∃ p ∈ sources, packet.source ∈ p) ∧
        (destinations = [] ∨ ∃ p ∈ destinations, packet.destination ∈ p) := by
  -- the family of a packet is one that a side has prefixes of, if one of them contains the address
  have hside : ∀ {ps : List Prefix} (d : Direction), (ps = [] ∨ ∃ p ∈ ps, d.addressOf packet ∈ p) →
      (ps.isEmpty || !(ofFamily packet.family ps).isEmpty) = true := by
    rintro ps d (rfl | ⟨p, hp, ha⟩)
    · rfl
    · have hmem : p ∈ ofFamily packet.family ps := by
        rw [ofFamily, Ascending.mem_ofList, List.mem_filter, decide_eq_true_eq, ← ha.1,
          d.family_addressOf]
        exact ⟨hp, rfl⟩
      have hne : (ofFamily packet.family ps).isEmpty = false :=
        List.isEmpty_eq_false_iff.2 (List.ne_nil_of_mem hmem)
      rw [hne, Bool.not_false, Bool.or_true]
  unfold serviceConstraints
  split
  · rename_i hnone
    rw [Bool.and_eq_true, List.isEmpty_iff, List.isEmpty_iff] at hnone
    simp [hnone]
  · simp only [List.mem_map, exists_exists_and_eq_and, List.mem_filter, List.forall_mem_append,
      Bool.and_eq_true]
    constructor
    · rintro ⟨f, ⟨-, hsources, hdestinations⟩, hsource, hdestination⟩
      exact ⟨((holds_side .source hsources).1 hsource).imp_right And.right,
        ((holds_side .destination hdestinations).1 hdestination).imp_right And.right⟩
    · rintro ⟨hsource, hdestination⟩
      have hsources := hside .source hsource
      have hdestinations := hside .destination hdestination
      exact ⟨packet.family, ⟨Family.mem_all _, hsources, hdestinations⟩,
        (holds_side .source hsources).2 (hsource.imp_right fun h => ⟨rfl, h⟩),
        (holds_side .destination hdestinations).2 (hdestination.imp_right fun h => ⟨rfl, h⟩)⟩

theorem readable_serviceConstraints {sources destinations : List Prefix} :
    ∀ cs ∈ serviceConstraints sources destinations, ∀ c ∈ cs, (RuleMatch.address c).Readable := by
  have hside : ∀ {f : Family} {d : Direction} {ps : List Prefix} {c : Clause},
      c ∈ (if (ofFamily f ps).isEmpty then [] else [Clause.among f d (ofFamily f ps)]) →
        (RuleMatch.address c).Readable := by
    intro f d ps c hc
    split at hc
    · exact absurd hc List.not_mem_nil
    · rename_i hne
      rw [List.mem_singleton.1 hc]
      exact fun hnil => hne (List.isEmpty_iff.2 hnil)
  intro cs hcs c hc
  unfold serviceConstraints at hcs
  split at hcs
  · rw [List.mem_singleton.1 hcs] at hc
    exact absurd hc List.not_mem_nil
  · obtain ⟨f, -, rfl⟩ := List.mem_map.1 hcs
    rcases List.mem_append.1 hc with hc | hc
    · exact hside hc
    · exact hside hc

theorem setless_serviceConstraints {sources destinations : List Prefix} :
    ∀ cs ∈ serviceConstraints sources destinations, ∀ c ∈ cs, Setless c := by
  have hside : ∀ {f : Family} {d : Direction} {ps : List Prefix} {c : Clause},
      c ∈ (if (ofFamily f ps).isEmpty then [] else [Clause.among f d (ofFamily f ps)]) →
      Setless c := by
    intro f d ps c hc
    split at hc
    · exact absurd hc List.not_mem_nil
    · rw [List.mem_singleton.1 hc]
      trivial
  intro cs hcs c hc
  unfold serviceConstraints at hcs
  split at hcs
  · rw [List.mem_singleton.1 hcs] at hc
    exact absurd hc List.not_mem_nil
  · obtain ⟨f, -, rfl⟩ := List.mem_map.1 hcs
    exact (List.mem_append.1 hc).elim hside hside

/-! ### Ports -/

/-- The ports of a service are those of a list of entries for one port each. -/
theorem ofPolicy_entries (s : Service) : Ports.ofPolicy s.entries = .ok (servicePorts s) := by
  have hnothing : Ports.ofPolicy [] = .ok .empty := rfl
  have hports :=
    Ports.ofPolicy_insertAll hnothing (s.ports.map fun p => (p.protocol.getD .tcp, s.numberOf p))
  rw [List.nil_append, List.map_map, Ports.insertAll, List.foldl_map] at hports
  exact hports

theorem covers_entries (s : Service) (transport : Transport) :
    (∃ e ∈ s.entries, e.Covers transport) ↔ s.HasPort transport := by
  have hsingle : ∀ p : ServicePort,
    PolicyPort.Covers { protocol := some (p.protocol.getD .tcp), port := some (s.numberOf p) }
      transport ↔ transport = .toPort (p.protocol.getD .tcp) (s.numberOf p) :=
        fun p => PolicyPort.covers_single
  unfold Service.entries
  simp only [List.mem_map, exists_exists_and_eq_and, hsingle]
  cases transport with
  | other => simp [Service.HasPort]
  | toPort protocol port => simp only [Service.HasPort, Transport.toPort.injEq, eq_comm]

/-! ### One service -/

/-- What the entries of a list give: one of the prefixes contains an address
exactly if one of the entries does. -/
theorem exists_prefix_iff {entries : List String} {ps : List Prefix}
    (h : entries.mapM prefixOf = .ok ps) (a : Address) :
    (∃ p ∈ ps, a ∈ p) ↔ ∃ entry ∈ entries, Prefix.InEntry entry a := by
  rw [Attempt.exists_mem_iff_of_mapM_eq_ok h]
  simp only [prefixOf_eq_ok, Prefix.InEntry]

theorem prefixes_eq_nil_iff {entries : List String} {ps : List Prefix}
    (h : entries.mapM prefixOf = .ok ps) :
    ps = [] ↔ entries = [] := by
  obtain ⟨hlength, -⟩ := Attempt.of_mapM_eq_ok h
  rw [← List.length_eq_zero_iff, hlength, List.length_eq_zero_iff]

/-- **The lines of a service accept what the service admits.** -/
theorem accepts_serviceRule {s : Service} {f : Fragment} (h : serviceRule options s = .ok f) :
    (∃ l ∈ f.ingress, l.Accepts env packet) ↔ s.Admits packet := by
  obtain ⟨sources, destinations, hsources, -, hdestinations, rfl⟩ := of_serviceRule_eq_ok h
  have hempty : (servicePorts s).isEmpty = true ↔ s.entries = [] :=
    Ports.isEmpty_ofPolicy (ofPolicy_entries s)
  dsimp only
  unfold serviceLines Service.Admits
  rw [← prefixes_eq_nil_iff hsources, ← exists_prefix_iff hsources, ← covers_entries]
  by_cases hnone : (s.type = .loadBalancer ∧ destinations = []) ∨ (servicePorts s).isEmpty = true
  · rw [if_pos hnone]
    refine iff_of_false (by simp) ?_
    rintro ⟨-, hdestination, e, he, -⟩
    rcases hnone with ⟨htype, hnil⟩ | hnil
    · rw [if_pos htype] at hdestinations
      obtain ⟨p, hp, -⟩ := (exists_prefix_iff hdestinations _).2 (hdestination htype)
      exact List.ne_nil_of_mem hp hnil
    · exact List.ne_nil_of_mem he (hempty.1 hnil)
  · obtain ⟨haddress, hport⟩ := not_or.1 hnone
    have hdestination : (destinations = [] ∨ ∃ p ∈ destinations, packet.destination ∈ p) ↔
        (s.type = .loadBalancer → ∃ entry ∈ s.externalAddresses,
          Prefix.InEntry entry packet.destination) := by
      by_cases htype : s.type = .loadBalancer
      · rw [if_pos htype] at hdestinations
        have hsome : destinations ≠ [] := fun hnil => haddress ⟨htype, hnil⟩
        simp only [hsome, false_or, htype, forall_const, exists_prefix_iff hdestinations]
      · rw [if_neg htype] at hdestinations
        simp [htype, (prefixes_eq_nil_iff hdestinations).2]
    rw [if_neg hnone, accepts_expand, holds_serviceConstraints,
      Ports.holds_clauses_ofPolicy (ofPolicy_entries s), hdestination, PolicyPort.Admit, ← hempty,
      or_iff_right hport, and_assoc]

theorem readable_serviceRule {s : Service} {f : Fragment} (h : serviceRule options s = .ok f) :
    ∀ l ∈ f.ingress, ∀ m ∈ l.ruleMatches, m.Readable := by
  obtain ⟨sources, destinations, -, -, -, rfl⟩ := of_serviceRule_eq_ok h
  intro l hl
  dsimp only at hl
  unfold serviceLines at hl
  split at hl
  · exact absurd hl List.not_mem_nil
  · exact readable_expand readable_serviceConstraints hl

theorem mem_ingress_service {s : Service} {l : Line} : l ∈ (service options s).ingress ↔
    (s.type = .loadBalancer ∨ s.type = .nodePort) ∧ ∃ f, serviceRule options s = .ok f ∧
    l ∈ f.ingress := by
  unfold service
  cases htype : s.type <;> simp [Fragment.mem_ingress_ofResult]

theorem ports_ne_nil {s : Service} {f : Fragment} (h : serviceRule options s = .ok f) {l : Line}
    (hl : l ∈ f.ingress) :
    s.ports ≠ [] := by
  obtain ⟨sources, destinations, -, -, -, rfl⟩ := of_serviceRule_eq_ok h
  intro hnil
  have hempty : (servicePorts s).isEmpty = true :=
    (Ports.isEmpty_ofPolicy (ofPolicy_entries s)).2 (by rw [Service.entries, hnil, List.map_nil])
  dsimp only at hl
  rw [serviceLines, if_pos (.inr hempty)] at hl
  exact absurd hl List.not_mem_nil

end Compile

variable {options : CompileOptions} {view : Option View} {policies : List Policy}
  {services : List Service}
  {allowed : PrefixSet} {env : Environment} {packet : Packet} {t : String}

theorem exists_admits_of_textAccepts (ht : Compile.OfService options services t)
    (haccepts : Line.TextAccepts env packet t) :
    ∃ s ∈ services, ∃ l ∈ (Compile.service options s).ingress, l.text = t ∧
      ∃ f, Compile.serviceRule options s = .ok f ∧ s.Admits packet := by
  obtain ⟨s, hs, l, hl, rfl⟩ := ht
  obtain ⟨-, f, hok, hf⟩ := Compile.mem_ingress_service.1 hl
  have hline := (Line.textAccepts_text (Compile.readable_serviceRule hok l hf)).1 haccepts
  exact ⟨s, hs, l, hl, rfl, f, hok, (Compile.accepts_serviceRule hok).1 ⟨l, hf, hline⟩⟩

theorem exists_textAccepts_of_admits {s : Service} (hs : s ∈ services)
    (hlines : (Compile.service options s).ingress ≠ []) (env : Environment) (h : s.Admits packet) :
    ∃ t, Compile.OfService options services t ∧ Line.TextAccepts env packet t := by
  obtain ⟨l₀, hl₀⟩ := List.exists_mem_of_ne_nil _ hlines
  obtain ⟨htype, f, hok, -⟩ := Compile.mem_ingress_service.1 hl₀
  obtain ⟨l, hl, haccepts⟩ : ∃ l ∈ f.ingress, l.Accepts env packet :=
    (Compile.accepts_serviceRule hok).2 h
  exact ⟨l.text, ⟨s, hs, l, Compile.mem_ingress_service.2 ⟨htype, f, hok, hl⟩, rfl⟩,
    (Line.textAccepts_text (Compile.readable_serviceRule hok l hl)).2 haccepts⟩

/-- A service without source ranges admits a packet from every address of a family in which it is
reached. -/
theorem Service.exists_admitted {s : Service} (hranges : s.sourceRanges = [])
    (hports : s.ports ≠ []) {a : Address} (ha : s.ReachedIn a.family) :
    ∃ packet : Packet, packet.source = a ∧ s.Admits packet := by
  obtain ⟨p, hp⟩ := List.exists_mem_of_ne_nil _ hports
  have hdestination : ∃ d : Address, d.family = a.family ∧
      (s.type = .loadBalancer → ∃ entry ∈ s.externalAddresses, Prefix.InEntry entry d) := by
    by_cases htype : s.type = .loadBalancer
    · obtain ⟨entry, hentry, q, hq, hfamily⟩ := ha htype
      exact ⟨q.base, hfamily, fun _ => ⟨entry, hentry, q, hq, Prefix.base_mem q⟩⟩
    · exact ⟨a, rfl, fun h => absurd h htype⟩
  obtain ⟨d, hfamily, hd⟩ := hdestination
  let packet : Packet :=
    ⟨a.family, a, d, .toPort (p.protocol.getD .tcp) (s.numberOf p), rfl, hfamily⟩
  exact ⟨packet, rfl, .inl hranges, hd, p, hp, rfl, rfl⟩

/--
**When the allowed prefixes confine services.**  All packets that the lines of services accept come
from allowed sources exactly if every service that gives lines gives source ranges too, or else is
reached only in families in which every source is allowed.
-/
theorem services_confined_iff (options : CompileOptions) {allowed : PrefixSet}
    (h : options.allowedIngress = some allowed) (view : Option View) (policies : List Policy)
    (services : List Service) {compiled : Compiled}
    (hcompiled : compile options view policies services = .ok compiled) :
    (∀ env packet, ∀ t ∈ compiled.ingress, Compile.OfService options services t →
      Line.TextAccepts env packet t → packet.source ∈ allowed) ↔
    ∀ s ∈ services, (Compile.service options s).ingress = [] ∨ s.sourceRanges ≠ [] ∨
      ∀ a : Address, s.ReachedIn a.family → a ∈ allowed := by
  constructor
  · intro hconfined s hs
    by_cases hlines : (Compile.service options s).ingress = []
    · exact .inl hlines
    by_cases hranges : s.sourceRanges = []
    · refine .inr (.inr fun a ha => ?_)
      obtain ⟨l, hl⟩ := List.exists_mem_of_ne_nil _ hlines
      obtain ⟨-, f, hok, hf⟩ := Compile.mem_ingress_service.1 hl
      obtain ⟨packet, rfl, hadmits⟩ :=
        Service.exists_admitted hranges (Compile.ports_ne_nil hok hf) ha
      obtain ⟨t, ht, haccepts⟩ := exists_textAccepts_of_admits hs hlines { cluster := ∅ } hadmits
      exact hconfined { cluster := ∅ } packet t
        ((mem_ingress_iff hcompiled).2 (.inr ht)) ht haccepts
    · exact .inr (.inl hranges)
  · intro hall env packet t _ ht haccepts
    obtain ⟨s, hs, l, hl, -, f, hok, hsource, hdestination, -⟩ :=
      exists_admits_of_textAccepts ht haccepts
    rcases hall s hs with hnone | hranges | hevery
    · rw [hnone] at hl
      exact absurd hl List.not_mem_nil
    · obtain ⟨sources, -, hsources, hallowed, -⟩ := Compile.of_serviceRule_eq_ok hok
      obtain ⟨p, hp, ha⟩ := (Compile.exists_prefix_iff hsources _).2 (hsource.resolve_left hranges)
      exact PrefixSet.mem_of_contains (hallowed allowed h p hp) ha
    · refine hevery packet.source fun htype => ?_
      obtain ⟨entry, hentry, p, hparse, ha⟩ := hdestination htype
      exact ⟨entry, hentry, p,
        hparse, by rw [← ha.1, packet.destination_family, packet.source_family]⟩

/-- A name server on a port of every node. -/
def sampleService (sourceRanges : List String) : Service where
  name := "dns"
  type := .nodePort
  ports := [{ port := dnsPort }]
  sourceRanges := sourceRanges

/-- A packet from 10.2.0.1 to that port. -/
def samplePacketIn : Packet := { samplePacket with transport := .toPort .tcp dnsPort }

/-- With a source range it lets in from there, and from nowhere that is not allowed. -/
theorem sampleService_confined :
    ∃ compiled, compile sampleAllowed none [] [sampleService ["10.2.0.0/16"]] = .ok compiled ∧
    ∃ t ∈ compiled.ingress, Compile.OfService sampleAllowed [sampleService ["10.2.0.0/16"]] t ∧
      Line.TextAccepts sampleCluster samplePacketIn t ∧
      ∃ allowed, sampleAllowed.allowedIngress = some allowed ∧ samplePacketIn.source ∈ allowed := by
  have hcompiled : compile sampleAllowed none [] [sampleService ["10.2.0.0/16"]] = .ok _ :=
    compile_eq_ok (by simp) _
  have hconfined :=
    (services_confined_iff sampleAllowed rfl none [] [sampleService ["10.2.0.0/16"]] hcompiled).2
    fun s hs => by
      rw [List.mem_singleton.1 hs]
      exact .inr (.inl (by decide))
  obtain ⟨t, ht, haccepts⟩ : ∃ t,
    Compile.OfService sampleAllowed [sampleService ["10.2.0.0/16"]] t ∧
      Line.TextAccepts sampleCluster samplePacketIn t :=
    exists_textAccepts_of_admits (List.mem_singleton_self _) (by decide) sampleCluster (by decide)
  have hmem := (mem_ingress_iff hcompiled).2 (.inr ht)
  exact ⟨_, hcompiled, t, hmem, ht, haccepts, _, rfl, hconfined _ _ t hmem ht haccepts⟩

/-- A packet from 93.184.216.34 to the same port. -/
def sampleOutsider : Packet :=
  { samplePacketIn with
    source := samplePacketOut.destination
    source_family := rfl }

/-- Without a source range it lets in from everywhere. -/
theorem sampleService_not_confined :
    ∃ compiled, compile sampleAllowed none [] [sampleService []] = .ok compiled ∧
    ∃ t ∈ compiled.ingress, Compile.OfService sampleAllowed [sampleService []] t ∧
      Line.TextAccepts sampleCluster sampleOutsider t ∧
      ∃ allowed, sampleAllowed.allowedIngress = some allowed ∧ sampleOutsider.source ∉ allowed := by
  have hcompiled : compile sampleAllowed none [] [sampleService []] = .ok _ :=
    compile_eq_ok (by simp) _
  obtain ⟨t, ht, haccepts⟩ : ∃ t, Compile.OfService sampleAllowed [sampleService []] t ∧
      Line.TextAccepts sampleCluster sampleOutsider t :=
    exists_textAccepts_of_admits (List.mem_singleton_self _) (by decide) sampleCluster (by decide)
  exact ⟨_, hcompiled, t, (mem_ingress_iff hcompiled).2 (.inr ht), ht, haccepts, _, rfl, by decide⟩

end Firewall
