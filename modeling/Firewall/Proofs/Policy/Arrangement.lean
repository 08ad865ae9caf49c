/-
Compiled lines do not depend on how anything is arranged.

Nothing in a policy or a service says what its order or its repetitions mean, and in the lines they
mean nothing: what a rule is compiled from are sets, of ports in each bucket and of prefixes in each
family, and a compilation lists texts, each once and in the order of texts.  So a line is there
exactly if some rule gives it, and a rule gives it according to which entries it has.

That also holds of the rules that are refused.  Which entry a refusal names depends on the order,
but whether there is one does not: an entry is taken or not whatever was gathered before it.
-/
import Firewall.Proofs.Order.Rearranged
import Firewall.Proofs.Policy.Origins
import Firewall.Proofs.Policy.Services

namespace Firewall

/-! ### Policies and services that differ in how they are arranged -/

/-- Two blocks are alike: the same prefix, and the same exceptions in any order and number. -/
structure Block.Alike (b c : Block) : Prop where
  cidr : b.cidr = c.cidr
  except : Rearranged Eq b.except c.except

/-- Two ingress rules are alike: the same ports and blocks that are
alike, in any order and number. -/
structure IngressRule.Alike (r s : IngressRule) : Prop where
  ports : Rearranged Eq r.ports s.ports
  sources : Rearranged Block.Alike r.sources s.sources

/-- Two egress rules are alike: the same ports and selectors and blocks that are
alike, in any order and number. -/
structure EgressRule.Alike (r s : EgressRule) : Prop where
  ports : Rearranged Eq r.ports s.ports
  destinations : Rearranged Block.Alike r.destinations s.destinations
  selectors : Rearranged Eq r.selectors s.selectors

/-- Two policies are alike: the same name, and rules that are alike in any order and number. -/
structure Policy.Alike (p q : Policy) : Prop where
  name : p.name = q.name
  ingress : Rearranged IngressRule.Alike p.ingress q.ingress
  egress : Rearranged EgressRule.Alike p.egress q.egress

/-- Two services are alike: the same but for the order and number of their ports,
source ranges and assigned addresses. -/
structure Service.Alike (s t : Service) : Prop where
  name : s.name = t.name
  nameSpace : s.nameSpace = t.nameSpace
  type : s.type = t.type
  ports : Rearranged Eq s.ports t.ports
  loadBalancerIP : s.loadBalancerIP = t.loadBalancerIP
  sourceRanges : Rearranged Eq s.sourceRanges t.sourceRanges
  assigned : Rearranged Eq s.assigned t.assigned

instance : DecidableRel Block.Alike := fun b c =>
  decidable_of_iff (b.cidr = c.cidr ∧ Rearranged Eq b.except c.except)
    ⟨fun ⟨cidr, except⟩ => ⟨cidr, except⟩, fun h => ⟨h.cidr, h.except⟩⟩

instance : DecidableRel IngressRule.Alike := fun r s =>
  decidable_of_iff (Rearranged Eq r.ports s.ports ∧ Rearranged Block.Alike r.sources s.sources)
    ⟨fun ⟨ports, sources⟩ => ⟨ports, sources⟩, fun h => ⟨h.ports, h.sources⟩⟩

instance : DecidableRel EgressRule.Alike := fun r s =>
  decidable_of_iff
    (Rearranged Eq r.ports s.ports ∧ Rearranged Block.Alike r.destinations s.destinations ∧
      Rearranged Eq r.selectors s.selectors)
    ⟨fun ⟨ports, destinations, selectors⟩ => ⟨ports, destinations, selectors⟩,
      fun h => ⟨h.ports, h.destinations, h.selectors⟩⟩

instance : DecidableRel Policy.Alike := fun p q =>
  decidable_of_iff (p.name = q.name ∧ Rearranged IngressRule.Alike p.ingress q.ingress ∧
      Rearranged EgressRule.Alike p.egress q.egress)
    ⟨fun ⟨name, ingress, egress⟩ => ⟨name, ingress, egress⟩, fun h => ⟨h.name, h.ingress, h.egress⟩⟩

instance : DecidableRel Service.Alike := fun s t =>
  decidable_of_iff
    (s.name = t.name ∧ s.nameSpace = t.nameSpace ∧ s.type = t.type ∧ Rearranged Eq s.ports t.ports ∧
      s.loadBalancerIP = t.loadBalancerIP ∧ Rearranged Eq s.sourceRanges t.sourceRanges ∧
      Rearranged Eq s.assigned t.assigned)
    ⟨fun ⟨name, nameSpace, type, ports, ip, ranges, assigned⟩ =>
        ⟨name, nameSpace, type, ports, ip, ranges, assigned⟩,
      fun h => ⟨h.name, h.nameSpace, h.type, h.ports, h.loadBalancerIP, h.sourceRanges, h.assigned⟩⟩

theorem Block.Alike.symm {b c : Block} (h : b.Alike c) : c.Alike b :=
  ⟨h.cidr.symm, h.except.symm Eq.symm⟩

theorem IngressRule.Alike.symm {r s : IngressRule} (h : r.Alike s) : s.Alike r :=
  ⟨h.ports.symm Eq.symm, h.sources.symm Block.Alike.symm⟩

theorem EgressRule.Alike.symm {r s : EgressRule} (h : r.Alike s) : s.Alike r :=
  ⟨h.ports.symm Eq.symm, h.destinations.symm Block.Alike.symm, h.selectors.symm Eq.symm⟩

theorem Service.Alike.symm {s t : Service} (h : s.Alike t) : t.Alike s :=
  ⟨h.name.symm, h.nameSpace.symm, h.type.symm, h.ports.symm Eq.symm, h.loadBalancerIP.symm,
    h.sourceRanges.symm Eq.symm, h.assigned.symm Eq.symm⟩

/-! ### Ports -/

namespace Ports

theorem ext_bucket {p q : Ports} (h : ∀ protocol, p.bucket protocol = q.bucket protocol) :
    p = q := by
  obtain ⟨tcp, udp⟩ := p
  obtain ⟨tcp', udp'⟩ := q
  cases (h .tcp : tcp = tcp')
  cases (h .udp : udp = udp')
  rfl

theorem GatheredFrom.unique {entries entries' : List PolicyPort} {p q : Ports}
    (hp : GatheredFrom entries p) (hq : GatheredFrom entries' q)
    (h : Rearranged Eq entries entries') : p = q := by
  refine ext_bucket fun protocol => ?_
  have hall : (p.bucket protocol).all = (q.bucket protocol).all := by
    rw [Bool.eq_iff_iff, hp.all, hq.all]
    exact h.exists_iff (by rintro e _ rfl; rfl)
  have hranges : (p.bucket protocol).ranges = (q.bucket protocol).ranges := by
    refine Ascending.ext_mem fun r => ?_
    rw [hp.ranges, hq.ranges]
    exact h.exists_iff (by rintro e _ rfl; rfl)
  generalize p.bucket protocol = b at hall hranges
  generalize q.bucket protocol = c at hall hranges
  cases b
  cases c
  cases hall
  cases hranges
  rfl

theorem ofPolicy_eq_ok_of_rearranged {entries entries' : List PolicyPort}
    (h : Rearranged Eq entries entries') {ports : Ports} (hports : ofPolicy entries = .ok ports) :
    ofPolicy entries' = .ok ports := by
  have hsome : ∃ ports', ofPolicy entries' = .ok ports' := by
    rw [exists_ofPolicy_iff, ← h.forall_iff (by rintro e _ rfl; rfl), ← exists_ofPolicy_iff]
    exact ⟨ports, hports⟩
  obtain ⟨ports', hports'⟩ := hsome
  rw [hports', (gatheredFrom_ofPolicy hports).unique (gatheredFrom_ofPolicy hports') h]

end Ports

namespace Compile

/-! ### Peers -/

/-- A block is taken: its prefix is allowed, and its exceptions lie in it. -/
def TakesBlock (allowed : Option PrefixSet) (b : Block) : Prop :=
  ∃ cidr, Prefix.parse b.cidr = .ok cidr ∧
  allowed.all (·.contains cidr) = true ∧ ∀ entry ∈ b.except, ∃ q, Prefix.parse entry = .ok q ∧
  cidr.covers q = true

/-- Exceptions are taken when they lie in the prefix of their block,
whatever was gathered before them. -/
theorem exists_foldlM_addExcept_iff {cidr : Prefix} {entries : List String}
    {t : PerFamily Targets} :
    (∃ t', entries.foldlM (addExcept cidr) t = .ok t') ↔
      ∀ entry ∈ entries, ∃ q, Prefix.parse entry = .ok q ∧ cidr.covers q = true := by
  refine Attempt.exists_foldlM_eq_ok_iff fun t entry => ?_
  simp only [addExcept_eq_ok]
  constructor
  · rintro ⟨t', q, hq, hcovers, -⟩
    exact ⟨q, hq, hcovers⟩
  · rintro ⟨q, hq, hcovers⟩
    exact ⟨_, q, hq, hcovers, rfl⟩

/-- Whether a block is taken does not depend on what was gathered before it either. -/
theorem exists_addBlock_iff {allowed : Option PrefixSet} (t : PerFamily Targets) (b : Block) :
    (∃ t', addBlock allowed t b = .ok t') ↔ TakesBlock allowed b := by
  simp only [addBlock_eq_ok]
  constructor
  · rintro ⟨t', cidr, hcidr, hallowed, hexcepts⟩
    exact ⟨cidr, hcidr, hallowed, exists_foldlM_addExcept_iff.1 ⟨t', hexcepts⟩⟩
  · rintro ⟨cidr, hcidr, hallowed, hexcepts⟩
    obtain ⟨t', ht'⟩ := exists_foldlM_addExcept_iff.2 hexcepts
    exact ⟨t', cidr, hcidr, hallowed, ht'⟩

/-- A list of blocks is taken when each of them is, and an empty one when any peer is allowed. -/
theorem exists_targetsOf_iff {blocks : List Block} {allowed : Option PrefixSet} :
    (∃ t, targetsOf blocks allowed = .ok t) ↔
      (blocks = [] → allowed = none) ∧ ∀ b ∈ blocks, TakesBlock allowed b := by
  unfold targetsOf
  cases blocks with
  | nil => cases allowed <;> simp [pure, Except.pure]
  | cons b rest =>
    rw [List.isEmpty_cons, Bool.false_and, if_neg Bool.false_ne_true,
      Attempt.exists_foldlM_eq_ok_iff exists_addBlock_iff]
    simp

theorem takesBlock_iff {allowed : Option PrefixSet} {b c : Block} (h : b.Alike c) :
    TakesBlock allowed b ↔ TakesBlock allowed c := by
  unfold TakesBlock
  rw [h.cidr]
  exact exists_congr fun cidr => and_congr_right fun _ => and_congr_right fun _ =>
    h.except.forall_iff (by rintro entry _ rfl; rfl)

theorem GatheredFrom.unique {blocks blocks' : List Block} {t u : PerFamily Targets}
    (ht : GatheredFrom blocks t) (hu : GatheredFrom blocks' u)
    (h : Rearranged Block.Alike blocks blocks') : t = u := by
  have hget : ∀ f, t.get f = u.get f := by
    intro f
    have hallow : (t.get f).allow = (u.get f).allow := by
      refine Ascending.ext_mem fun p => ?_
      rw [ht.allow, hu.allow]
      exact and_congr_right fun _ => h.exists_iff fun hb => by rw [hb.cidr]
    have hexcept : (t.get f).except = (u.get f).except := by
      refine Ascending.ext_mem fun p => ?_
      rw [ht.except, hu.except]
      exact and_congr_right fun _ => h.exists_iff fun hb =>
        hb.except.exists_iff (by rintro entry _ rfl; rfl)
    generalize t.get f = x at hallow hexcept
    generalize u.get f = y at hallow hexcept
    cases x
    cases y
    cases hallow
    cases hexcept
    rfl
  obtain ⟨v4, v6⟩ := t
  obtain ⟨v4', v6'⟩ := u
  cases (hget .v4 : v4 = v4')
  cases (hget .v6 : v6 = v6')
  rfl

theorem targetsOf_eq_ok_of_rearranged {blocks blocks' : List Block}
    (h : Rearranged Block.Alike blocks blocks') {allowed : Option PrefixSet} {t : PerFamily Targets}
    (ht : targetsOf blocks allowed = .ok t) :
    targetsOf blocks' allowed = .ok t := by
  have hsome : ∃ t', targetsOf blocks' allowed = .ok t' := by
    rw [exists_targetsOf_iff, ← h.eq_nil_iff, ← h.forall_iff takesBlock_iff, ← exists_targetsOf_iff]
    exact ⟨t, ht⟩
  obtain ⟨t', ht'⟩ := hsome
  rw [ht', (targetsOf_ok ht).unique (targetsOf_ok ht') h]

/-! ### Rules -/

variable {options : CompileOptions} {view : Option View} {policy : String}

/-- **Ingress rules that are alike give the same lines.** -/
theorem ingressRule_eq_ok_iff {r s : IngressRule} (h : r.Alike s) {f : Fragment} :
    ingressRule options policy r = .ok f ↔ ingressRule options policy s = .ok f := by
  suffices hgives : ∀ {r s : IngressRule}, r.Alike s →
      ingressRule options policy r = .ok f →
      ingressRule options policy s = .ok f from ⟨hgives h, hgives h.symm⟩
  intro r s h hr
  obtain ⟨ports, targets, hports, htargets, rfl⟩ := ingressRule_eq_ok.1 hr
  exact ingressRule_eq_ok.2 ⟨ports, targets, Ports.ofPolicy_eq_ok_of_rearranged h.ports hports,
    targetsOf_eq_ok_of_rearranged h.sources htargets, rfl⟩

theorem checkSelectors_eq_ok {selectors : List Selector} :
    checkSelectors selectors = .ok () ↔ ∀ s ∈ selectors, s.fault? = none := by
  unfold checkSelectors
  rw [← List.findSome?_eq_none_iff]
  split
  · rename_i hfault
    simp [hfault]
  · rename_i hnone
    simp [hnone]

/-- **Egress rules that are alike give the same lines.**  Those of a rule about host names
come in the order of its selectors. -/
theorem exists_egressRule_iff {r s : EgressRule} (h : r.Alike s) {l : Line} :
    (∃ f, egressRule options view policy r = .ok f ∧ l ∈ f.egress) ↔
      ∃ f, egressRule options view policy s = .ok f ∧ l ∈ f.egress := by
  suffices hgives : ∀ {r s : EgressRule}, r.Alike s →
      (∃ f, egressRule options view policy r = .ok f ∧ l ∈ f.egress) →
      ∃ f, egressRule options view policy s = .ok f ∧ l ∈ f.egress from ⟨hgives h, hgives h.symm⟩
  rintro r s h ⟨f, hr, hl⟩
  by_cases hselectors : r.selectors = []
  · obtain ⟨ports, targets, hports, htargets, rfl⟩ := (egressRule_eq_ok_of_nil hselectors).1 hr
    refine ⟨_, (egressRule_eq_ok_of_nil (h.selectors.eq_nil_iff.1 hselectors)).2 ⟨ports, targets,
      Ports.ofPolicy_eq_ok_of_rearranged h.ports hports,
      targetsOf_eq_ok_of_rearranged h.destinations htargets, rfl⟩, hl⟩
  · obtain ⟨hdestinations, ⟨ports, hports, rfl⟩, hcheck⟩ :=
      (egressRule_eq_ok_of_ne_nil hselectors).1 hr
    have hcheck' : checkSelectors s.selectors = .ok () := by
      rw [checkSelectors_eq_ok, ← h.selectors.forall_iff (by rintro _ _ rfl; rfl),
        ← checkSelectors_eq_ok]
      exact hcheck
    refine ⟨_, (egressRule_eq_ok_of_ne_nil fun hnil => hselectors (h.selectors.eq_nil_iff.2 hnil)).2
      ⟨h.destinations.eq_nil_iff.1 hdestinations,
        ⟨ports, Ports.ofPolicy_eq_ok_of_rearranged h.ports hports, rfl⟩,
        hcheck'⟩, ?_⟩
    cases view with
    | none => exact hl
    | some view =>
      simp only [Option.elim, Fragment.mem_egress_concat, List.mem_map,
        exists_exists_and_eq_and] at hl ⊢
      exact (h.selectors.exists_iff (by rintro _ _ rfl; rfl)).1 hl

/-! ### Services -/

/-- A list of entries that are read gives the prefixes of a rearranged one. -/
theorem exists_mapM_prefixOf {entries entries' : List String} (h : Rearranged Eq entries entries')
    {ps : List Prefix} (hps : entries.mapM prefixOf = .ok ps) :
    ∃ ps', entries'.mapM prefixOf = .ok ps' ∧ Rearranged Eq ps ps' := by
  have hsome : ∃ ps', entries'.mapM prefixOf = .ok ps' := by
    rw [Attempt.exists_mapM_eq_ok_iff, ← h.forall_iff (by rintro _ _ rfl; rfl),
      ← Attempt.exists_mapM_eq_ok_iff]
    exact ⟨ps, hps⟩
  obtain ⟨ps', hps'⟩ := hsome
  refine ⟨ps', hps', .of_mem_iff (fun _ => rfl) fun p => ?_⟩
  rw [(Attempt.of_mapM_eq_ok hps).2, (Attempt.of_mapM_eq_ok hps').2]
  exact h.exists_iff (by rintro _ _ rfl; rfl)

theorem ofFamily_congr {ps qs : List Prefix} (h : Rearranged Eq ps qs) (f : Family) :
    ofFamily f ps = ofFamily f qs := by
  refine Ascending.ext_mem fun p => ?_
  simp only [ofFamily, Ascending.mem_ofList, List.mem_filter, h.mem_iff]

theorem isEmpty_congr {ps qs : List Prefix} (h : Rearranged Eq ps qs) :
    ps.isEmpty = qs.isEmpty := by
  rw [Bool.eq_iff_iff, List.isEmpty_iff, List.isEmpty_iff]
  exact h.eq_nil_iff

theorem serviceConstraints_congr {sources sources' destinations destinations' : List Prefix}
    (hs : Rearranged Eq sources sources') (hd : Rearranged Eq destinations destinations') :
    serviceConstraints sources destinations = serviceConstraints sources' destinations' := by
  unfold serviceConstraints
  simp only [ofFamily_congr hs, ofFamily_congr hd, isEmpty_congr hs, isEmpty_congr hd]

theorem servicePorts_congr {s t : Service} (h : s.Alike t) : servicePorts s = servicePorts t := by
  have hentries : Rearranged Eq s.entries t.entries := by
    refine .of_mem_iff (fun _ => rfl) fun e => ?_
    unfold Service.entries Service.numberOf
    simp only [List.mem_map, h.type, h.ports.mem_iff]
  have hports := Ports.ofPolicy_eq_ok_of_rearranged hentries (ofPolicy_entries s)
  exact Except.ok.inj (hports.symm.trans (ofPolicy_entries t))

theorem externalAddresses_rearranged {s t : Service} (h : s.Alike t) :
    Rearranged Eq s.externalAddresses t.externalAddresses := by
  refine .of_mem_iff (fun _ => rfl) fun a => ?_
  simp only [Service.mem_externalAddresses, Service.External, h.loadBalancerIP, h.assigned.mem_iff]

/-- **Services that are alike give the same lines.** -/
theorem serviceRule_eq_ok_iff {s t : Service} (h : s.Alike t) {f : Fragment} :
    serviceRule options s = .ok f ↔ serviceRule options t = .ok f := by
  suffices hgives : ∀ {s t : Service}, s.Alike t → serviceRule options s = .ok f →
      serviceRule options t = .ok f from
    ⟨hgives h, hgives h.symm⟩
  intro s t h hs
  obtain ⟨sources, destinations, hsources, hallowed, hdestinations, rfl⟩ := serviceRule_eq_ok.1 hs
  obtain ⟨sources', hsources', hsame⟩ := exists_mapM_prefixOf h.sourceRanges hsources
  have haddresses : Rearranged Eq (if s.type = .loadBalancer then s.externalAddresses else [])
      (if t.type = .loadBalancer then t.externalAddresses else []) := by
    rw [h.type]
    split
    · exact externalAddresses_rearranged h
    · exact .refl (fun _ => rfl) _
  obtain ⟨destinations', hdestinations', hsame'⟩ := exists_mapM_prefixOf haddresses hdestinations
  refine serviceRule_eq_ok.2 ⟨sources', destinations', hsources', ?_, hdestinations', ?_⟩
  · intro allowed hsome p hp
    exact hallowed allowed hsome p (hsame.mem_iff.2 hp)
  · unfold serviceLines Service.qualifiedName
    simp only [h.name, h.nameSpace, h.type, servicePorts_congr h,
      serviceConstraints_congr hsame hsame', hsame'.eq_nil_iff]

end Compile

/-! ### Policies and services -/

variable {options : CompileOptions} {view : Option View} {policies policies' : List Policy}
  {services services' : List Service} {t : String}

namespace Compile

theorem ofIngressRule_iff (h : Rearranged Policy.Alike policies policies') :
    OfIngressRule options policies t ↔ OfIngressRule options policies' t := by
  refine h.exists_iff fun hp => ?_
  rw [hp.name]
  refine hp.ingress.exists_iff fun hr => ?_
  simp only [ingressRule_eq_ok_iff hr]

theorem ofService_iff (h : Rearranged Service.Alike services services') :
    OfService options services t ↔ OfService options services' t := by
  refine h.exists_iff fun hs => exists_congr fun l => and_congr_left' ?_
  simp only [mem_ingress_service, hs.type, serviceRule_eq_ok_iff hs]

theorem ofRule_iff (h : Rearranged Policy.Alike policies policies') :
    OfPrefixRule options view policies t ∨ OfNameRule options view policies t ↔
      OfPrefixRule options view policies' t ∨ OfNameRule options view policies' t := by
  have hrule : ∀ ps : List Policy, OfPrefixRule options view ps t ∨ OfNameRule options view ps t ↔
      ∃ p ∈ ps, ∃ r ∈ p.egress, ∃ l,
      (∃ f, egressRule options view p.name r = .ok f ∧ l ∈ f.egress) ∧ l.text = t := by
    intro ps
    constructor
    · rintro (⟨p, hp, r, hr, -, f, hok, l, hl, htext⟩ | ⟨p, hp, r, hr, -, f, hok, l, hl, htext⟩)
      · exact ⟨p, hp, r, hr, l, ⟨f, hok, hl⟩, htext⟩
      · exact ⟨p, hp, r, hr, l, ⟨f, hok, hl⟩, htext⟩
    · rintro ⟨p, hp, r, hr, l, ⟨f, hok, hl⟩, htext⟩
      by_cases hselectors : r.selectors = []
      · exact .inl ⟨p, hp, r, hr, hselectors, f, hok, l, hl, htext⟩
      · exact .inr ⟨p, hp, r, hr, hselectors, f, hok, l, hl, htext⟩
  rw [hrule, hrule]
  refine h.exists_iff fun hp => ?_
  rw [hp.name]
  refine hp.egress.exists_iff fun hr => ?_
  simp only [exists_egressRule_iff hr]

end Compile

theorem Policy.Alike.hasNameRules_eq {p q : Policy} (h : p.Alike q) :
    p.hasNameRules = q.hasNameRules := by
  unfold Policy.hasNameRules
  rw [Bool.eq_iff_iff, List.any_eq_true, List.any_eq_true]
  refine h.egress.exists_iff fun hr => ?_
  rw [Bool.not_eq_true', Bool.not_eq_true', List.isEmpty_eq_false_iff, List.isEmpty_eq_false_iff,
    Ne, Ne, hr.selectors.eq_nil_iff]

/-- The lines of a compilation: those for traffic that is let in, and
those for traffic that is let out. -/
def Compiled.lines (c : Compiled) : Ascending String × Ascending String := (c.ingress, c.egress)

/--
**Compiled lines do not depend on how anything is arranged.**  Policies and services that are alike
at every level, in any order and number, either both need a cache that is not there, or compile to
the same lines in the same order; rules that are refused make no difference to this.
-/
theorem compile_lines_of_rearranged (options : CompileOptions) (view : Option View)
    (hp : Rearranged Policy.Alike policies policies')
    (hs : Rearranged Service.Alike services services') :
    (compile options view policies services).toOption.map Compiled.lines
      = (compile options view policies' services').toOption.map Compiled.lines := by
  have hcache : (∃ c, compile options view policies services = .ok c) ↔
      ∃ c, compile options view policies' services' = .ok c := by
    rw [exists_compile_eq_ok_iff, exists_compile_eq_ok_iff]
    exact or_congr_right (hp.forall_iff fun hpq => by rw [hpq.hasNameRules_eq])
  cases hc : compile options view policies services with
  | error name =>
    cases hc' : compile options view policies' services' with
    | error name' => rfl
    | ok c' =>
      obtain ⟨c, hok⟩ := hcache.2 ⟨c', hc'⟩
      exact nomatch hc.symm.trans hok
  | ok c =>
    obtain ⟨c', hc'⟩ := hcache.1 ⟨c, hc⟩
    have hingress : c.ingress = c'.ingress := Ascending.ext_mem fun t => by
      rw [mem_ingress_iff hc, mem_ingress_iff hc', Compile.ofIngressRule_iff hp,
        Compile.ofService_iff hs]
    have hegress : c.egress = c'.egress := Ascending.ext_mem fun t => by
      rw [mem_egress_iff hc, mem_egress_iff hc', Compile.ofRule_iff hp]
    rw [hc']
    show some (c.ingress, c.egress) = some (c'.ingress, c'.egress)
    rw [hingress, hegress]

/-- Lets in from two prefixes, one of them with exceptions, and has a rule that is refused. -/
def sampleArranged : Policy where
  name := "sample"
  ingress := [
    { ports := [.tcp dnsPort, .udp dnsPort]
      sources := [⟨"10.0.0.0/8", ["10.1.0.0/16", "10.2.0.0/16"]⟩, ⟨"192.168.0.0/16", []⟩] },
    { sources := [⟨"10.0.0.0/33", []⟩, ⟨"nowhere", []⟩] }]

/-- The same the other way round, with a port, an exception and a block twice. -/
def sampleRearranged : Policy where
  name := "sample"
  ingress := [
    { sources := [⟨"nowhere", []⟩, ⟨"10.0.0.0/33", []⟩] },
    { ports := [.udp dnsPort, .tcp dnsPort, .udp dnsPort]
      sources := [⟨"192.168.0.0/16", []⟩,
        ⟨"10.0.0.0/8", ["10.2.0.0/16", "10.1.0.0/16", "10.1.0.0/16"]⟩,
        ⟨"192.168.0.0/16", []⟩] }]

/-- A name server on a port of every node, let in to from two prefixes. -/
def sampleRanges : Service := sampleService ["10.2.0.0/16", "10.3.0.0/16"]

/-- The same the other way round, with a source range twice. -/
def sampleRangesAgain : Service := sampleService ["10.3.0.0/16", "10.2.0.0/16", "10.3.0.0/16"]

/-- Both ways round there are the same lines, also with everything twice; what is
refused is refused in another place. -/
theorem compile_sampleRearranged : ∃ c c', compile {} none [sampleArranged] [sampleRanges] = .ok c ∧
    compile {} none [sampleRearranged, sampleRearranged] [sampleRangesAgain, sampleRangesAgain] =
      .ok c' ∧
    c.lines = c'.lines ∧ c.ingress ≠ ∅ ∧ c.rejected ≠ c'.rejected := by
  have hc : compile {} none [sampleArranged] [sampleRanges] = .ok _ := compile_eq_ok (by decide) _
  have hc' : compile
      {} none [sampleRearranged, sampleRearranged] [sampleRangesAgain, sampleRangesAgain] = .ok _ :=
    compile_eq_ok (by decide) _
  have hlines := compile_lines_of_rearranged {} none
    (show Rearranged Policy.Alike [sampleArranged] [sampleRearranged, sampleRearranged] by decide)
    (show Rearranged Service.Alike [sampleRanges] [sampleRangesAgain, sampleRangesAgain] by decide)
  rw [hc, hc'] at hlines
  obtain ⟨l, hl⟩ :=
    List.exists_mem_of_ne_nil (compileParts {} none [sampleArranged] [sampleRanges]).ingress
    (by decide +kernel)
  have hlisted := mem_ingress_compiled.2 ⟨l, hl, rfl⟩
  refine ⟨_, _, hc, hc', Option.some.inj hlines, fun hnone => ?_, by decide +kernel⟩
  rw [hnone] at hlisted
  exact Ascending.not_mem_empty hlisted

end Firewall
