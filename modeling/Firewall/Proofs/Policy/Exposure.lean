/-
A service means what it says.

A service that is reached from outside is refused or taken, and which of the two depends on what it
says alone: its entries have to be read, and its source ranges have to be allowed
(`Compile.exists_serviceRule_eq_ok_iff`). A service that is taken may still have no lines, where it
has no address yet or no port.  These are the places where lines without matches would let in
everything, so it is shown that lines and what the service says agree there as well
(`service_means_what_it_says`): no address admits no packet, and no port admits none either.
-/
import Firewall.Proofs.Policy.Services
import Mathlib.Tactic.ByContra

namespace Firewall

namespace Service

variable {s : Service}

/-- A service is reached from outside. -/
def Exposed (s : Service) : Prop := s.type = .loadBalancer ∨ s.type = .nodePort

/-- Why a service that is reached from outside cannot be taken. -/
inductive Unacceptable (options : CompileOptions) (s : Service) : Prop
  /-- A source range is no prefix. -/
  | range {entry : String} (h : entry ∈ s.sourceRanges) (hread : ∀ p, Prefix.parse entry ≠ .ok p)
  /-- A source range is not among the allowed ones. -/
  | source {entry : String} {p : Prefix} {allowed : PrefixSet} (h : entry ∈ s.sourceRanges)
    (hread : Prefix.parse entry = .ok p) (hallowed : options.allowedIngress = some allowed)
    (houtside : allowed.contains p = false)
  /-- An external address of a load balancer is none. -/
  | address {entry : String} (htype : s.type = .loadBalancer) (h : s.External entry)
    (hread : ∀ p, Prefix.parse entry ≠ .ok p)

/-- A packet goes to a port of a service if its protocol and number are those of an entry. -/
theorem hasPort_iff {transport : Transport} :
    s.HasPort transport ↔
      ∃ p ∈ s.ports, transport = .toPort (p.protocol.getD .tcp) (s.numberOf p) := by
  cases transport with
  | other => exact iff_of_false id fun ⟨_, _, h⟩ => nomatch h
  | toPort protocol port =>
    refine exists_congr fun p => and_congr_right fun _ => ?_
    rw [Transport.toPort.injEq, eq_comm, @eq_comm _ port]

/-- What a service that is reached from outside admits: only a load
balancer is asked for its addresses. -/
theorem admits_iff (h : s.Exposed) {packet : Packet} : s.Admits packet ↔
    (s.sourceRanges = [] ∨ ∃ entry ∈ s.sourceRanges, Prefix.InEntry entry packet.source) ∧
    (s.type = .nodePort ∨ ∃ entry, s.External entry ∧ Prefix.InEntry entry packet.destination) ∧
    ∃ p ∈ s.ports, packet.transport = .toPort (p.protocol.getD .tcp) (s.numberOf p) := by
  unfold Admits
  rw [hasPort_iff]
  refine and_congr_right fun _ => and_congr_left fun _ => ?_
  simp only [mem_externalAddresses]
  rcases h with htype | htype <;> simp [htype]

end Service

namespace Compile

variable {options : CompileOptions} {s : Service}

/-! ### Which services are refused -/

theorem exists_prefixOf_eq_ok_iff {entries : List String} :
    (∃ ps, entries.mapM prefixOf = .ok ps) ↔
      ∀ entry ∈ entries, ∃ p, Prefix.parse entry = .ok p := by
  simp only [Attempt.exists_mapM_eq_ok_iff, prefixOf_eq_ok]

/-- **A service is taken unless something it says forbids it.** -/
theorem exists_serviceRule_eq_ok_iff :
    (∃ f, serviceRule options s = .ok f) ↔ ¬ s.Unacceptable options := by
  constructor
  · rintro ⟨f, h⟩ hrefused
    obtain ⟨sources, destinations, hsources, hallowed, hdestinations, -⟩ := of_serviceRule_eq_ok h
    cases hrefused with
    | range hentry hread =>
      obtain ⟨p, hp⟩ := exists_prefixOf_eq_ok_iff.1 ⟨_, hsources⟩ _ hentry
      exact hread p hp
    | source hentry hread hsome houtside =>
      have hp := ((Attempt.of_mapM_eq_ok hsources).2 _).2 ⟨_, hentry, prefixOf_eq_ok.2 hread⟩
      exact absurd (hallowed _ hsome _ hp) (by simp [houtside])
    | address htype hentry hread =>
      rw [if_pos htype] at hdestinations
      obtain ⟨p, hp⟩ :=
        exists_prefixOf_eq_ok_iff.1 ⟨_, hdestinations⟩ _ (Service.mem_externalAddresses.2 hentry)
      exact hread p hp
  · intro h
    obtain ⟨sources, hsources⟩ : ∃ ps, s.sourceRanges.mapM prefixOf = .ok ps :=
      exists_prefixOf_eq_ok_iff.2 fun entry hentry => by
        by_contra hnone
        exact h (.range hentry fun p hp => hnone ⟨p, hp⟩)
    obtain ⟨destinations, hdestinations⟩ :
        ∃ ps, (if s.type = .loadBalancer then s.externalAddresses else []).mapM prefixOf = .ok ps :=
      exists_prefixOf_eq_ok_iff.2 fun entry hentry => by
        by_contra hnone
        split at hentry
        · rename_i htype
          exact h (.address htype (Service.mem_externalAddresses.1 hentry) fun p hp =>
            hnone ⟨p, hp⟩)
        · exact absurd hentry List.not_mem_nil
    refine ⟨_, serviceRule_eq_ok.2 ⟨sources, destinations, hsources, ?_, hdestinations, rfl⟩⟩
    intro allowed hsome p hp
    obtain ⟨entry, hentry, hparse⟩ := ((Attempt.of_mapM_eq_ok hsources).2 p).1 hp
    refine Bool.eq_true_of_not_eq_false fun houtside => ?_
    exact h (.source hentry (prefixOf_eq_ok.1 hparse) hsome houtside)

/-- A service that is refused is listed with a reason, and one that is taken or is
not reached from outside is not. -/
theorem exists_mem_rejected_service_iff :
    (∃ reason, ⟨s.qualifiedName, "service", reason⟩ ∈ (service options s).rejected) ↔
      s.Exposed ∧ s.Unacceptable options := by
  have hresult : (∃ reason, ⟨s.qualifiedName, "service", reason⟩ ∈
      (Fragment.ofResult s.qualifiedName "service" (serviceRule options s)).rejected) ↔
        s.Unacceptable options := by
    rw [← not_iff_not, ← exists_serviceRule_eq_ok_iff]
    cases hrule : serviceRule options s with
    | error refusal => simp [Fragment.ofResult]
    | ok f =>
      obtain ⟨sources, destinations, -, -, -, rfl⟩ := of_serviceRule_eq_ok hrule
      simp [Fragment.ofResult]
  unfold service Service.Exposed
  cases htype : s.type <;> simp [hresult]

end Compile

/-! ### What a service comes to -/

/-- A service is listed among what was refused. -/
def Compiled.Refuses (c : Compiled) (s : Service) : Prop :=
  ∃ reason, ⟨s.qualifiedName, "service", reason⟩ ∈ c.rejected

section Alone

variable {options : CompileOptions} {view : Option View} {s : Service} {compiled : Compiled}

/-- What was compiled from one service alone is what the service gives. -/
theorem compileParts_service : compileParts options view [] [s] = Compile.service options s := by
  show Fragment.append {} (Fragment.append (Compile.service options s) {}) = _
  simp only [Fragment.append, List.append_nil, List.nil_append]

theorem refuses_iff (h : compile options view [] [s] = .ok compiled) :
    compiled.Refuses s ↔ s.Exposed ∧ s.Unacceptable options := by
  unfold Compiled.Refuses
  rw [eq_of_compile_eq_ok h, compileParts_service, ← Compile.exists_mem_rejected_service_iff]
  exact exists_congr fun _ => Ascending.mem_ofList

theorem mem_ingress_alone_iff (h : compile options view [] [s] = .ok compiled) {t : String} :
    t ∈ compiled.ingress ↔ ∃ l ∈ (Compile.service options s).ingress, l.text = t := by
  rw [eq_of_compile_eq_ok h, compileParts_service, mem_ingress_compiled]

end Alone

/--
**A service means what it says.**  Compiled on its own, a service that is refused or is not reached
from outside gives no line.  Any other gives lines that accept a packet exactly if it comes from one
of the source ranges, if there are any; goes to one of the external addresses, unless the service is
reached at every node; and goes to one of the ports.  A service is refused exactly if it is reached
from outside and one of its entries cannot be read or is not allowed.
-/
theorem service_means_what_it_says (options : CompileOptions) (view : Option View) (s : Service) :
    ∃ compiled, compile options view [] [s] = .ok compiled ∧
    (∀ t, t ∉ compiled.egress) ∧
    (compiled.Refuses s ∨ ¬ s.Exposed → ∀ t, t ∉ compiled.ingress) ∧
    (s.Exposed → ¬ compiled.Refuses s → ∀ env packet,
      (∃ t ∈ compiled.ingress, Line.TextAccepts env packet t) ↔
        (s.sourceRanges = [] ∨ ∃ entry ∈ s.sourceRanges, Prefix.InEntry entry packet.source) ∧
        (s.type = .nodePort ∨ ∃ entry, s.External entry ∧ Prefix.InEntry entry packet.destination) ∧
        ∃ p ∈ s.ports, packet.transport =
          .toPort (p.protocol.getD .tcp)
            (if s.type = .nodePort then p.nodePort.getD p.port else p.port)) ∧
    (compiled.Refuses s ↔ s.Exposed ∧ s.Unacceptable options) := by
  have hcompiled : compile options view [] [s] = .ok _ := compile_eq_ok (by simp) _
  refine ⟨_, hcompiled, ?_, ?_, ?_, refuses_iff hcompiled⟩
  · intro t ht
    rw [compileParts_service, mem_egress_compiled, Compile.egress_service] at ht
    obtain ⟨l, hl, -⟩ := ht
    exact List.not_mem_nil hl
  · intro hnone t ht
    obtain ⟨l, hl, -⟩ := (mem_ingress_alone_iff hcompiled).1 ht
    obtain ⟨htype, f, hok, -⟩ := Compile.mem_ingress_service.1 hl
    rcases hnone with hrefused | hhidden
    · exact Compile.exists_serviceRule_eq_ok_iff.1 ⟨f, hok⟩ ((refuses_iff hcompiled).1 hrefused).2
    · exact hhidden htype
  · intro hexposed hkept env packet
    obtain ⟨f, hok⟩ : ∃ f, Compile.serviceRule options s = .ok f :=
      Compile.exists_serviceRule_eq_ok_iff.2 fun h =>
        hkept ((refuses_iff hcompiled).2 ⟨hexposed, h⟩)
    refine Iff.trans ?_ (Service.admits_iff hexposed)
    rw [← Compile.accepts_serviceRule hok]
    simp only [mem_ingress_alone_iff hcompiled]
    constructor
    · rintro ⟨_, ⟨l, hl, rfl⟩, haccepts⟩
      obtain ⟨-, f', hok', hf'⟩ := Compile.mem_ingress_service.1 hl
      cases hok.symm.trans hok'
      exact ⟨l, hf', (Line.textAccepts_text (Compile.readable_serviceRule hok l hf')).1 haccepts⟩
    · rintro ⟨l, hl, haccepts⟩
      refine ⟨l.text, ⟨l, Compile.mem_ingress_service.2 ⟨hexposed, f, hok, hl⟩, rfl⟩, ?_⟩
      exact (Line.textAccepts_text (Compile.readable_serviceRule hok l hl)).2 haccepts

/-- A load balancer that was given one address, and is waiting for others. -/
def sampleBalancer : Service where
  name := "web"
  type := .loadBalancer
  ports := [{ port := dnsPort }]
  loadBalancerIP := some "10.0.0.1"
  sourceRanges := ["10.2.0.0/16", "2001:db8::/32"]
  assigned := [none, some ""]

/-- It lets in from its ranges to its address, and from nowhere else. -/
theorem sampleBalancer_means_what_it_says :
    ∃ compiled, compile {} none [] [sampleBalancer] = .ok compiled ∧
    ¬ compiled.Refuses sampleBalancer ∧
      (∃ t ∈ compiled.ingress, Line.TextAccepts sampleCluster samplePacketIn t) ∧
      ¬ ∃ t ∈ compiled.ingress, Line.TextAccepts sampleCluster sampleOutsider t := by
  obtain ⟨compiled, hcompiled, -, -, hlines, hrefuses⟩ :=
    service_means_what_it_says {} none sampleBalancer
  have hkept : ¬ compiled.Refuses sampleBalancer := fun h =>
    Compile.exists_serviceRule_eq_ok_iff.1 (Attempt.isOk_iff.1 (by decide)) (hrefuses.1 h).2
  refine ⟨compiled, hcompiled, hkept,
    (hlines (.inl rfl) hkept _ _).2 ⟨by decide, ?_, by decide⟩, fun h => ?_⟩
  · exact .inr ⟨"10.0.0.1", ⟨by decide, .inl rfl⟩, by decide⟩
  · exact absurd ((hlines (.inl rfl) hkept _ _).1 h).1 (by decide)

end Firewall
