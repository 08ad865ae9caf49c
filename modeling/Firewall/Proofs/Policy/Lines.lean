/-
Which lines a compilation gives.

What the rules of all policies give is put together and nothing else is added, so a
compiled line comes from one rule of one policy, and a rule that is refused gives none.
A rule's own lines are made by `expand`, one for each list of matches and each clause
on ports: together they accept what meets one of the lists and one of the clauses.
-/
import Firewall.Proofs.Policy.Peers
import Firewall.Proofs.Rule.PortText

namespace Firewall

namespace Compile

/-! ### The lines of one rule -/

section Expand

variable {env : Environment} {packet : Packet} {logged : Bool} {ports : Ports}
  {comment : String → String}
  {constraints : List (List Clause)}

/-- **The lines of a rule accept what meets one list of matches and one clause on ports.** -/
theorem accepts_expand : (∃ l ∈ expand logged ports comment constraints, l.Accepts env packet) ↔
    (∃ cs ∈ constraints, ∀ c ∈ cs, c.Holds env packet) ∧
      (ports.isEmpty = true ∨ ∃ c ∈ ports.clauses, c.Holds packet) := by
  unfold expand Line.Accepts
  by_cases hempty : ports.isEmpty = true
  · simp [hempty]
  · rw [if_neg hempty]
    constructor
    · rintro ⟨l, hl, hclauses, hports⟩
      obtain ⟨port, hport, hl⟩ := List.mem_flatMap.1 hl
      obtain ⟨cs, hcs, rfl⟩ := List.mem_map.1 hl
      exact ⟨⟨cs, hcs, hclauses⟩, .inr ⟨port, hport, hports port rfl⟩⟩
    · rintro ⟨⟨cs, hcs, hclauses⟩, hports⟩
      obtain ⟨port, hport, hholds⟩ := hports.resolve_left hempty
      refine ⟨_, List.mem_flatMap.2 ⟨port, hport, List.mem_map.2 ⟨cs, hcs, rfl⟩⟩, hclauses, ?_⟩
      rintro c ⟨⟩
      exact hholds

/-- A line of a rule has one of the lists of matches, and one of the clauses on ports or none. -/
theorem of_mem_expand {l : Line} (h : l ∈ expand logged ports comment constraints) :
    l.clauses ∈ constraints ∧ ∀ c ∈ l.ports, c ∈ ports.clauses := by
  unfold expand at h
  split at h
  · obtain ⟨cs, hcs, rfl⟩ := List.mem_map.1 h
    exact ⟨hcs, by simp⟩
  · obtain ⟨port, hport, h⟩ := List.mem_flatMap.1 h
    obtain ⟨cs, hcs, rfl⟩ := List.mem_map.1 h
    exact ⟨hcs, by simpa using hport⟩

/-- A line of a rule is logged as the rule says, and its comment is told the protocol. -/
theorem comment_of_mem_expand {l : Line} (h : l ∈ expand logged ports comment constraints) :
    l.logged = logged ∧
    ∃ protocol : Option Protocol, l.comment = comment (protocol.elim "any" Protocol.keyword) := by
  unfold expand at h
  split at h
  · obtain ⟨cs, -, rfl⟩ := List.mem_map.1 h
    exact ⟨rfl, none, rfl⟩
  · obtain ⟨port, -, h⟩ := List.mem_flatMap.1 h
    obtain ⟨cs, -, rfl⟩ := List.mem_map.1 h
    exact ⟨rfl, some port.protocol, rfl⟩

/-- The lines of a rule can be read back if its matches on addresses can. -/
theorem readable_expand
    (h : ∀ cs ∈ constraints, ∀ c ∈ cs, (RuleMatch.address c).Readable) {l : Line}
    (hl : l ∈ expand logged ports comment constraints) : ∀ m ∈ l.ruleMatches, m.Readable := by
  obtain ⟨hclauses, hports⟩ := of_mem_expand hl
  intro m hm
  rcases List.mem_append.1 hm with hm | hm
  · obtain ⟨c, hc, rfl⟩ := List.mem_map.1 hm
    exact h l.clauses hclauses c hc
  · obtain ⟨c, hc, rfl⟩ := List.mem_map.1 hm
    exact Ports.readable_of_mem_clauses (hports c (Option.mem_toList.1 hc))

end Expand

private theorem readable_peerClauses {f : Family} {d : Direction} {t : Targets} {c : Clause}
    (h : c ∈ peerClauses f d t) : (RuleMatch.address c).Readable := by
  rcases List.mem_append.1 h with h | h
  · split at h
    · exact absurd h List.not_mem_nil
    · rename_i hne
      rw [List.mem_singleton.1 h]
      exact fun hnil => hne (List.isEmpty_iff.2 hnil)
  · split at h
    · exact absurd h List.not_mem_nil
    · rename_i hne
      rw [List.mem_singleton.1 h]
      exact fun hnil => hne (List.isEmpty_iff.2 hnil)

theorem readable_ingressConstraints {t : PerFamily Targets} :
    ∀ cs ∈ ingressConstraints t, ∀ c ∈ cs, (RuleMatch.address c).Readable := by
  intro cs hcs c hc
  unfold ingressConstraints at hcs
  split at hcs
  · rw [List.mem_singleton.1 hcs] at hc
    exact absurd hc List.not_mem_nil
  · obtain ⟨f, -, rfl⟩ := List.mem_map.1 hcs
    exact readable_peerClauses hc

theorem readable_egressConstraints {t : PerFamily Targets} :
    ∀ cs ∈ egressConstraints t, ∀ c ∈ cs, (RuleMatch.address c).Readable := by
  intro cs hcs c hc
  unfold egressConstraints at hcs
  split at hcs
  · obtain ⟨f, -, rfl⟩ := List.mem_map.1 hcs
    rw [List.mem_singleton.1 hc]
    trivial
  · obtain ⟨f, -, rfl⟩ := List.mem_map.1 hcs
    rcases List.mem_cons.1 hc with rfl | hc
    · trivial
    · split at hc
      · exact absurd hc List.not_mem_nil
      · exact readable_peerClauses hc

/-! ### Matches without named sets -/

/-- A match that is not on the members of a named set. -/
def Setless : Clause → Prop
  | .inSet _ _ _ => False
  | _ => True

private theorem setless_peerClauses {f : Family} {d : Direction} {t : Targets} :
    ∀ c ∈ peerClauses f d t, Setless c := by
  intro c hc
  rcases List.mem_append.1 hc with hc | hc
  · split at hc
    · exact absurd hc List.not_mem_nil
    · rw [List.mem_singleton.1 hc]
      trivial
  · split at hc
    · exact absurd hc List.not_mem_nil
    · rw [List.mem_singleton.1 hc]
      trivial

theorem setless_ingressConstraints {t : PerFamily Targets} :
    ∀ cs ∈ ingressConstraints t, ∀ c ∈ cs, Setless c := by
  intro cs hcs
  unfold ingressConstraints at hcs
  split at hcs
  · rw [List.mem_singleton.1 hcs]
    exact fun c hc => absurd hc List.not_mem_nil
  · obtain ⟨f, -, rfl⟩ := List.mem_map.1 hcs
    exact setless_peerClauses

theorem setless_egressConstraints {t : PerFamily Targets} :
    ∀ cs ∈ egressConstraints t, ∀ c ∈ cs, Setless c := by
  intro cs hcs c hc
  unfold egressConstraints at hcs
  split at hcs
  · obtain ⟨f, -, rfl⟩ := List.mem_map.1 hcs
    rw [List.mem_singleton.1 hc]
    trivial
  · obtain ⟨f, -, rfl⟩ := List.mem_map.1 hcs
    rcases List.mem_cons.1 hc with rfl | hc
    · trivial
    · split at hc
      · exact absurd hc List.not_mem_nil
      · exact setless_peerClauses c hc

end Compile

/-! ### The lines of all rules -/

namespace Fragment

theorem mem_ingress_concat {fs : List Fragment} {l : Line} :
    l ∈ (concat fs).ingress ↔ ∃ f ∈ fs, l ∈ f.ingress := by
  induction fs with
  | nil => simp [concat]
  | cons f rest ih =>
    show l ∈ f.ingress ++ (concat rest).ingress ↔ _
    rw [List.mem_append, ih]
    simp

theorem mem_egress_concat {fs : List Fragment} {l : Line} :
    l ∈ (concat fs).egress ↔ ∃ f ∈ fs, l ∈ f.egress := by
  induction fs with
  | nil => simp [concat]
  | cons f rest ih =>
    show l ∈ f.egress ++ (concat rest).egress ↔ _
    rw [List.mem_append, ih]
    simp

theorem mem_ingress_ofResult {object rule : String} {result : Except Refusal Fragment} {l : Line} :
    l ∈ (ofResult object rule result).ingress ↔ ∃ f, result = .ok f ∧ l ∈ f.ingress := by
  cases result with
  | ok f => simp [ofResult]
  | error r => simp [ofResult]

theorem mem_egress_ofResult {object rule : String} {result : Except Refusal Fragment} {l : Line} :
    l ∈ (ofResult object rule result).egress ↔ ∃ f, result = .ok f ∧ l ∈ f.egress := by
  cases result with
  | ok f => simp [ofResult]
  | error r => simp [ofResult]

end Fragment

namespace Compile

variable {options : CompileOptions} {view : Option View}

theorem ingressRule_eq_ok {policy : String} {r : IngressRule} {f : Fragment} :
    ingressRule options policy r = .ok f ↔ ∃ ports targets, Ports.ofPolicy r.ports = .ok ports ∧
      targetsOf r.sources options.allowedIngress = .ok targets ∧
      f = { ingress := expand options.logAccepted ports
              (fun protocol => "accept traffic for network policy " ++ policy ++ " (" ++
                protocol ++ ")")
              (ingressConstraints targets) } := by
  unfold ingressRule
  simp only [Attempt.bind_eq_ok, portsOf, Attempt.mapError_eq_ok, pure, Except.pure,
    Except.ok.injEq]
  constructor
  · rintro ⟨ports, hports, targets, htargets, rfl⟩
    exact ⟨ports, targets, hports, htargets, rfl⟩
  · rintro ⟨ports, targets, hports, htargets, rfl⟩
    exact ⟨ports, hports, targets, htargets, rfl⟩

theorem egressRule_eq_ok_of_nil {policy : String} {r : EgressRule} (hr : r.selectors = [])
    {f : Fragment} :
    egressRule options view policy r = .ok f ↔ ∃ ports targets, Ports.ofPolicy r.ports = .ok ports ∧
      targetsOf r.destinations options.allowedEgress = .ok targets ∧
      f = { egress := expand options.logAccepted ports
              (fun protocol => "accept egress traffic for network policy " ++ policy ++ " (" ++
                protocol ++ ")")
              (egressConstraints targets) } := by
  unfold egressRule
  simp only [hr, List.isEmpty_nil, Bool.not_true, Bool.and_false, Bool.false_eq_true, if_false,
    if_true, Attempt.bind_eq_ok, portsOf, Attempt.mapError_eq_ok, pure, Except.pure,
    Except.ok.injEq]
  constructor
  · rintro ⟨ports, hports, targets, htargets, rfl⟩
    exact ⟨ports, targets, hports, htargets, rfl⟩
  · rintro ⟨ports, targets, hports, htargets, rfl⟩
    exact ⟨ports, hports, targets, htargets, rfl⟩

/-- What an egress rule with selectors that is taken gives: the lines of each selector, where
there is a cache to look them up in. -/
theorem egressRule_eq_ok_of_ne_nil {policy : String} {r : EgressRule} (hr : r.selectors ≠ [])
    {f : Fragment} :
    egressRule options view policy r = .ok f ↔ r.destinations = [] ∧
      (∃ ports, Ports.ofPolicy r.ports = .ok ports ∧
        f = view.elim {} fun view =>
          .concat (r.selectors.map (selectorLines options view policy ports))) ∧
      checkSelectors r.selectors = .ok () := by
  have hsome : r.selectors.isEmpty = false := List.isEmpty_eq_false_iff.2 hr
  unfold egressRule
  by_cases hnone : r.destinations = []
  · cases view
    all_goals
      simp only [hsome, hnone, List.isEmpty_nil, Bool.not_true, Bool.false_and, Bool.false_eq_true,
        if_false, Attempt.bind_eq_ok, portsOf, Attempt.mapError_eq_ok, pure, Except.pure,
        Except.ok.injEq, true_and, Option.elim]
      constructor
      · rintro ⟨ports, hports, ⟨⟩, hcheck, rfl⟩
        exact ⟨⟨ports, hports, rfl⟩, hcheck⟩
      · rintro ⟨⟨ports, hports, rfl⟩, hcheck⟩
        exact ⟨ports, hports, ⟨⟩, hcheck, rfl⟩
  · have hboth : (!r.destinations.isEmpty && !r.selectors.isEmpty) = true := by
      simp [hsome, hnone]
    rw [if_pos hboth]
    simp [hnone, throw, throwThe, MonadExceptOf.throw, bind, Except.bind]

/-- The lines of a service whose addresses have been read: none where a load balancer has no
address or where there is no port. -/
def serviceLines (options : CompileOptions) (s : Service) (sources destinations : List Prefix) :
    List Line :=
  if (s.type = .loadBalancer ∧ destinations = []) ∨ (servicePorts s).isEmpty = true then []
  else expand options.logAccepted (servicePorts s)
    (fun protocol => "accept traffic for service " ++ s.qualifiedName ++ " (" ++ protocol ++ ")")
    (serviceConstraints sources destinations)

theorem of_serviceRule_eq_ok {s : Service} {f : Fragment} (h : serviceRule options s = .ok f) :
    ∃ sources destinations, s.sourceRanges.mapM prefixOf = .ok sources ∧
      (∀ allowed, options.allowedIngress = some allowed → ∀ p ∈ sources,
        allowed.contains p = true) ∧
      (if s.type = .loadBalancer then s.externalAddresses else []).mapM prefixOf =
        .ok destinations ∧
      f = { ingress := serviceLines options s sources destinations } := by
  -- once the peers are read, what is left gives ingress lines or nothing
  have hlast : ∀ {noAddress noPort : Bool} {ls : List Line},
      (if noAddress then pure {} else if noPort then pure {} else pure { ingress := ls } :
        Except Refusal Fragment) = .ok f →
        f = { ingress := if noAddress = true ∨ noPort = true then [] else ls } := by
    intro noAddress noPort ls hf
    cases noAddress <;> cases noPort <;> (cases hf; rfl)
  unfold serviceRule at h
  simp only [Attempt.bind_eq_ok] at h
  obtain ⟨sources, hsources, h⟩ := h
  split at h
  · exact absurd h (by simp [throw, throwThe, MonadExceptOf.throw, bind, Except.bind])
  · rename_i hnone
    have hallowed : ∀ allowed, options.allowedIngress = some allowed →
        ∀ p ∈ sources, allowed.contains p = true := by
      intro allowed hsome p hp
      rw [hsome, Option.bind_some, List.find?_eq_none] at hnone
      simpa using hnone p hp
    split at h
    · rename_i htype
      obtain ⟨destinations, hdestinations, h⟩ := Attempt.bind_eq_ok.1 h
      refine ⟨sources, destinations, hsources, hallowed, by rw [if_pos htype, hdestinations],
        (hlast h).trans ?_⟩
      simp [serviceLines]
    · rename_i htype
      obtain ⟨destinations, hdestinations, h⟩ := Attempt.bind_eq_ok.1 h
      refine ⟨sources, destinations, hsources, hallowed, by rw [if_neg htype]; exact hdestinations,
        (hlast h).trans ?_⟩
      simp [serviceLines]

/-- A service is taken when its source ranges and external addresses can be read
and its source ranges are allowed. -/
theorem serviceRule_eq_ok {s : Service} {f : Fragment} : serviceRule options s = .ok f ↔
    ∃ sources destinations, s.sourceRanges.mapM prefixOf = .ok sources ∧
      (∀ allowed, options.allowedIngress = some allowed → ∀ p ∈ sources,
        allowed.contains p = true) ∧
      (if s.type = .loadBalancer then s.externalAddresses else []).mapM prefixOf =
        .ok destinations ∧
      f = { ingress := serviceLines options s sources destinations } := by
  refine ⟨of_serviceRule_eq_ok, ?_⟩
  rintro ⟨sources, destinations, hsources, hallowed, hdestinations, rfl⟩
  have hnone : (options.allowedIngress.bind fun allowed => sources.find? fun p =>
    !allowed.contains p) = none := by
    cases hsome : options.allowedIngress with
    | none => rfl
    | some allowed =>
      rw [Option.bind_some, List.find?_eq_none]
      intro p hp
      simp [hallowed allowed hsome p hp]
  unfold serviceRule serviceLines
  by_cases htype : s.type = .loadBalancer
  · rw [if_pos htype] at hdestinations
    simp only [htype, if_true, hsources, hnone, hdestinations, bind, Except.bind, pure, Except.pure]
    by_cases haddress : destinations = [] <;> by_cases hport : (servicePorts s).isEmpty = true <;>
      simp [haddress, hport]
  · rw [if_neg htype] at hdestinations
    cases hdestinations
    simp only [htype, if_false, hsources, hnone, bind, Except.bind, pure, Except.pure]
    by_cases hport : (servicePorts s).isEmpty = true <;> simp [hport]

theorem egress_ingressRule {policy : String} {r : IngressRule} {f : Fragment}
    (h : ingressRule options policy r = .ok f) : f.egress = [] := by
  obtain ⟨ports, targets, -, -, rfl⟩ := ingressRule_eq_ok.1 h
  rfl

theorem ingress_egressRule {policy : String} {r : EgressRule} {f : Fragment}
    (h : egressRule options view policy r = .ok f) : f.ingress = [] := by
  by_cases hr : r.selectors = []
  · obtain ⟨ports, targets, -, -, rfl⟩ := (egressRule_eq_ok_of_nil hr).1 h
    rfl
  · obtain ⟨-, ⟨ports, -, rfl⟩, -⟩ := (egressRule_eq_ok_of_ne_nil hr).1 h
    cases view with
    | none => rfl
    | some view =>
      refine List.eq_nil_iff_forall_not_mem.2 fun l hl => ?_
      obtain ⟨f, hf, hl⟩ := Fragment.mem_ingress_concat.1 hl
      obtain ⟨s, -, rfl⟩ := List.mem_map.1 hf
      exact absurd hl List.not_mem_nil

theorem mem_ingress_policy {p : Policy} {l : Line} : l ∈ (policy options view p).ingress ↔
    ∃ r ∈ p.ingress, ∃ f, ingressRule options p.name r = .ok f ∧ l ∈ f.ingress := by
  show l ∈ Fragment.ingress _ ++ Fragment.ingress _ ↔ _
  rw [List.mem_append, Fragment.mem_ingress_concat, Fragment.mem_ingress_concat]
  constructor
  · rintro (⟨f, hf, hl⟩ | ⟨f, hf, hl⟩)
    · obtain ⟨i, hi, rfl⟩ := List.mem_mapIdx.1 hf
      exact ⟨_, List.getElem_mem hi, Fragment.mem_ingress_ofResult.1 hl⟩
    · obtain ⟨i, hi, rfl⟩ := List.mem_mapIdx.1 hf
      obtain ⟨f, hok, hl⟩ := Fragment.mem_ingress_ofResult.1 hl
      rw [ingress_egressRule hok] at hl
      exact absurd hl List.not_mem_nil
  · rintro ⟨r, hr, hl⟩
    obtain ⟨i, hi, rfl⟩ := List.getElem_of_mem hr
    exact .inl ⟨_, List.mem_mapIdx.2 ⟨i, hi, rfl⟩, Fragment.mem_ingress_ofResult.2 hl⟩

theorem mem_egress_policy {p : Policy} {l : Line} : l ∈ (policy options view p).egress ↔
    ∃ r ∈ p.egress, ∃ f, egressRule options view p.name r = .ok f ∧ l ∈ f.egress := by
  show l ∈ Fragment.egress _ ++ Fragment.egress _ ↔ _
  rw [List.mem_append, Fragment.mem_egress_concat, Fragment.mem_egress_concat]
  constructor
  · rintro (⟨f, hf, hl⟩ | ⟨f, hf, hl⟩)
    · obtain ⟨i, hi, rfl⟩ := List.mem_mapIdx.1 hf
      obtain ⟨f, hok, hl⟩ := Fragment.mem_egress_ofResult.1 hl
      rw [egress_ingressRule hok] at hl
      exact absurd hl List.not_mem_nil
    · obtain ⟨i, hi, rfl⟩ := List.mem_mapIdx.1 hf
      exact ⟨_, List.getElem_mem hi, Fragment.mem_egress_ofResult.1 hl⟩
  · rintro ⟨r, hr, hl⟩
    obtain ⟨i, hi, rfl⟩ := List.getElem_of_mem hr
    exact .inr ⟨_, List.mem_mapIdx.2 ⟨i, hi, rfl⟩, Fragment.mem_egress_ofResult.2 hl⟩

end Compile

/-! ### Compiling policies and services -/

variable {options : CompileOptions} {view : Option View} {policies : List Policy}

/-- Without services, an ingress line is that of an ingress rule that is taken. -/
theorem mem_ingress_compileParts {l : Line} : l ∈ (compileParts options view policies []).ingress ↔
    ∃ p ∈ policies, ∃ r ∈ p.ingress, ∃ f, Compile.ingressRule options p.name r = .ok f ∧
    l ∈ f.ingress := by
  show l ∈ Fragment.ingress _ ++ Fragment.ingress (Fragment.concat []) ↔ _
  rw [List.mem_append, Fragment.mem_ingress_concat, Fragment.mem_ingress_concat]
  simp [Compile.mem_ingress_policy]

theorem Compile.egress_serviceRule {s : Service} {f : Fragment}
    (h : Compile.serviceRule options s = .ok f) :
    f.egress = [] := by
  obtain ⟨sources, destinations, -, -, -, rfl⟩ := of_serviceRule_eq_ok h
  rfl

theorem Compile.egress_service (s : Service) : (Compile.service options s).egress = [] := by
  have hresult :
      (Fragment.ofResult s.qualifiedName "service" (Compile.serviceRule options s)).egress =
        [] := by
    refine List.eq_nil_iff_forall_not_mem.2 fun l hl => ?_
    obtain ⟨f, hok, hl⟩ := Fragment.mem_egress_ofResult.1 hl
    rw [egress_serviceRule hok] at hl
    exact absurd hl List.not_mem_nil
  unfold Compile.service
  split
  · exact hresult
  · exact hresult
  · rfl

theorem mem_egress_compileParts {services : List Service} {l : Line} :
    l ∈ (compileParts options view policies services).egress ↔
      ∃ p ∈ policies, ∃ r ∈ p.egress, ∃ f, Compile.egressRule options view p.name r = .ok f ∧
      l ∈ f.egress := by
  show l ∈ Fragment.egress _ ++ Fragment.egress _ ↔ _
  rw [List.mem_append, Fragment.mem_egress_concat, Fragment.mem_egress_concat]
  simp [Compile.mem_egress_policy, Compile.egress_service]

end Firewall
