/-
What the comments of compiled lines are made from.

Names of policies, names of services and texts of selectors may hold anything.  They get into a
compiled line only through its comment, which says what the line is for (`IngressComment`,
`EgressComment`); every match is on prefixes, on ports or on the members of a set.  So if the sets
that a look-up finds have harmless names, each line is closed: whatever a policy calls itself, it
cannot add a word to a line, and no line to the others.
-/
import Firewall.Proofs.Policy.Origins
import Firewall.Proofs.Policy.Services
import Firewall.Proofs.Rule.Comment

namespace Firewall

open Text (Harmless)

namespace Compile

/-- What a line that lets packets in says it is for. -/
inductive IngressComment (policies : List Policy) (services : List Service) : String → Prop
  | policy {p : Policy} (hp : p ∈ policies) (protocol : Option Protocol) :
    IngressComment policies services
      ("accept traffic for network policy " ++ p.name ++ " (" ++
        protocol.elim "any" Protocol.keyword ++ ")")
  | service {s : Service} (hs : s ∈ services) (protocol : Option Protocol) :
    IngressComment policies services
      ("accept traffic for service " ++ s.qualifiedName ++ " (" ++
        protocol.elim "any" Protocol.keyword ++ ")")

/-- What a line that lets packets out says it is for. -/
inductive EgressComment (policies : List Policy) : String → Prop
  | prefixes {p : Policy} (hp : p ∈ policies) (protocol : Option Protocol) : EgressComment policies
      ("accept egress traffic for network policy " ++ p.name ++ " (" ++
        protocol.elim "any" Protocol.keyword ++ ")")
  | names {p : Policy} (hp : p ∈ policies) {r : EgressRule} (hr : r ∈ p.egress) {s : Selector}
    (hs : s ∈ r.selectors)
      (protocol : Option Protocol) : EgressComment policies
      ("accept egress traffic for network policy " ++ p.name ++ " to " ++ s.text ++ " ("
        ++ protocol.elim "any" Protocol.keyword ++ ")")

/-- The lines of a rule are closed if the names of its sets are harmless, and
they show the comment of the rule. -/
theorem closed_of_mem_expand {logged : Bool} {ports : Ports} {comment : String → String}
    {constraints : List (List Clause)} (h : ∀ cs ∈ constraints, ∀ c ∈ cs, c.HarmlessName) {l : Line}
    (hl : l ∈ expand logged ports comment constraints) :
    ∃ protocol : Option Protocol,
    Line.Closed logged (comment (protocol.elim "any" Protocol.keyword)) l.text := by
  obtain ⟨rfl, protocol, hcomment⟩ := comment_of_mem_expand hl
  refine ⟨protocol, ?_⟩
  rw [← hcomment]
  exact Line.closed_text (h _ (of_mem_expand hl).1)

theorem Setless.harmlessName {c : Clause} (h : Setless c) : c.HarmlessName := by
  cases c with
  | inSet f d setName => exact h.elim
  | among f d ps => trivial
  | notAmong f d ps => trivial
  | fromCluster f => trivial

/-! ### One rule, one service -/

variable {options : CompileOptions} {policies : List Policy} {services : List Service} {t : String}

theorem closed_ofIngressRule (h : OfIngressRule options policies t) :
    ∃ text, IngressComment policies services text ∧ Line.Closed options.logAccepted text t := by
  obtain ⟨p, hp, r, -, f, hok, l, hl, rfl⟩ := h
  obtain ⟨ports, targets, -, -, rfl⟩ := ingressRule_eq_ok.1 hok
  dsimp only at hl
  obtain ⟨protocol, hclosed⟩ :=
    closed_of_mem_expand
      (fun cs hcs c hc => (setless_ingressConstraints cs hcs c hc).harmlessName) hl
  exact ⟨_, .policy hp protocol, hclosed⟩

theorem closed_ofService (h : OfService options services t) :
    ∃ text, IngressComment policies services text ∧ Line.Closed options.logAccepted text t := by
  obtain ⟨s, hs, l, hl, rfl⟩ := h
  obtain ⟨-, f, hok, hl⟩ := mem_ingress_service.1 hl
  obtain ⟨sources, destinations, -, -, -, rfl⟩ := of_serviceRule_eq_ok hok
  dsimp only [serviceLines] at hl
  split at hl
  · exact absurd hl List.not_mem_nil
  · obtain ⟨protocol, hclosed⟩ :=
      closed_of_mem_expand
        (fun cs hcs c hc => (setless_serviceConstraints cs hcs c hc).harmlessName) hl
    exact ⟨_, .service hs protocol, hclosed⟩

theorem closed_ofPrefixRule {view : Option View} (h : OfPrefixRule options view policies t) :
    ∃ text, EgressComment policies text ∧ Line.Closed options.logAccepted text t := by
  obtain ⟨p, hp, r, -, hnil, f, hok, l, hl, rfl⟩ := h
  obtain ⟨ports, targets, -, -, rfl⟩ := (egressRule_eq_ok_of_nil hnil).1 hok
  dsimp only at hl
  obtain ⟨protocol, hclosed⟩ :=
    closed_of_mem_expand
      (fun cs hcs c hc => (setless_egressConstraints cs hcs c hc).harmlessName) hl
  exact ⟨_, .prefixes hp protocol, hclosed⟩

/-- The lines of a rule about host names are the only ones with names of sets in them. -/
theorem closed_ofNameRule {view : Option View}
    (hnames : ∀ v, view = some v → ∀ s, ∀ set ∈ v s, Harmless set.setName)
    (h : OfNameRule options view policies t) :
    ∃ text, EgressComment policies text ∧ Line.Closed options.logAccepted text t := by
  obtain ⟨p, hp, r, hr, hne, f, hok, l, hl, rfl⟩ := h
  cases view with
  | none =>
    obtain ⟨-, ⟨ports, -, rfl⟩, -⟩ := (egressRule_eq_ok_of_ne_nil hne).1 hok
    exact absurd hl List.not_mem_nil
  | some v =>
    obtain ⟨ports, -, hlines⟩ := mem_egress_of_ne_nil hne hok
    obtain ⟨s, hs, hl⟩ := (hlines l).1 hl
    dsimp only [selectorLines] at hl
    have hconstraints : ∀ cs ∈ (v s).map (fun set : NamedSet =>
        [Clause.fromCluster set.family, .inSet set.family .destination set.setName]), ∀ c ∈ cs,
        c.HarmlessName := by
      intro cs hcs c hc
      obtain ⟨set, hset, rfl⟩ := List.mem_map.1 hcs
      rcases List.mem_cons.1 hc with rfl | hc
      · trivial
      · rw [List.mem_singleton.1 hc]
        exact hnames v rfl s set hset
    obtain ⟨protocol, hclosed⟩ := closed_of_mem_expand hconstraints hl
    exact ⟨_, .names hp hr hs protocol, hclosed⟩

end Compile

/-! ### All lines -/

/--
**Names and comments cannot break out of a line.**  Where no look-up finds a set with a quote or a
control character in its name, every compiled line is closed: it holds no control character; it ends
in a comment that shows what the line is for, cut to 128 bytes and without quotes; and that comment,
and the mark for the log where packets are logged, are all that stands in quotes.
-/
theorem compiled_lines_closed {options : CompileOptions} {view : Option View}
    {policies : List Policy} {services : List Service} {compiled : Compiled}
    (h : compile options view policies services = .ok compiled)
    (hnames : ∀ v, view = some v → ∀ s, ∀ set ∈ v s, Harmless set.setName) :
    (∀ t ∈ compiled.ingress, ∃ text, Compile.IngressComment policies services text ∧
      Line.Closed options.logAccepted text t) ∧
    ∀ t ∈ compiled.egress, ∃ text, Compile.EgressComment policies text ∧
    Line.Closed options.logAccepted text t := by
  constructor
  · intro t ht
    rcases (mem_ingress_iff h).1 ht with hrule | hservice
    · exact Compile.closed_ofIngressRule hrule
    · exact Compile.closed_ofService hservice
  · intro t ht
    rcases (mem_egress_iff h).1 ht with hprefixes | hnamed
    · exact Compile.closed_ofPrefixRule hprefixes
    · exact Compile.closed_ofNameRule hnames hnamed

/-- A policy whose name would end the comment and the line, about a host name
that would end the comment again. -/
def sampleQuotedPolicy : Policy where
  name := "web\"\ndrop"
  egress := [{ selectors := [.exact "a\".com"] }]

/-- A set under a name that is given out for host names. -/
def sampleFound : NamedSet := ⟨"a.com.", "fqdn_a_com_v4", [], default, .v4⟩

theorem compiled_lines_closed_sampleQuotedPolicy : ∃ compiled,
    compile { logAccepted := true } (some fun _ => [sampleFound]) [sampleQuotedPolicy] [] =
      .ok compiled ∧
      compiled.egress.toList = ["ip saddr == @cluster_prefixes ip daddr @fqdn_a_com_v4 " ++
        "log prefix \"nftwall-accepted: \" limit rate 10/second counter accept " ++
        "comment \"accept egress traffic for network policy web''drop to a'.com (any)\""] ∧
      ∀ t ∈ compiled.egress, ∃ text, Compile.EgressComment [sampleQuotedPolicy] text ∧
      Line.Closed true text t := by
  have hnames : ∀ v, some (fun _ => [sampleFound]) = some v →
      ∀ s : Selector, ∀ set ∈ v s, Harmless set.setName := by
    rintro v ⟨⟩ s set hset
    rw [List.mem_singleton.1 hset]
    decide
  obtain ⟨compiled, hcompiled⟩ : ∃ compiled,
      compile { logAccepted := true } (some fun _ => [sampleFound]) [sampleQuotedPolicy] [] =
        .ok compiled :=
    exists_compile_eq_ok_iff.2 (.inl rfl)
  refine ⟨compiled, hcompiled, ?_, (compiled_lines_closed hcompiled hnames).2⟩
  rw [eq_of_compile_eq_ok hcompiled]
  decide +kernel

end Firewall
