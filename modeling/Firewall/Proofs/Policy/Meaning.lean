/-
Compiled policies mean what they say.

Policies about prefixes are compiled to lines, and the lines are sorted, merged and
written out as text.  Read back as the kernel reads them, they accept a packet exactly
when a rule that was taken admits it: one of its blocks contains the peer, none of its
blocks excludes it, and one of its entries covers the port.

The chain has one link for each stage: a text says what its line was made from
(`Line.textAccepts_text`), the lines of a rule accept what meets its matches and its
ports (`accepts_expand`), the matches mean what the blocks say
(`holds_ingressConstraints`, `holds_egressConstraints`) and the clauses on ports what the
entries say (`Ports.holds_clauses_ofPolicy`).
-/
import Firewall.Proofs.Policy.Lines

namespace Firewall

/-- An ingress rule admits a packet: from its source, and to its port. -/
def IngressRule.Admits (r : IngressRule) (packet : Packet) : Prop :=
  Block.Admit r.sources packet.source ∧ PolicyPort.Admit r.ports packet.transport

/-- An egress rule admits a packet from the cluster: to its destination, and to its port. -/
def EgressRule.Admits (r : EgressRule) (env : Environment) (packet : Packet) : Prop :=
  packet.source ∈ env.cluster ∧ Block.Admit r.destinations packet.destination
    ∧ PolicyPort.Admit r.ports packet.transport

instance (r : IngressRule) (packet : Packet) : Decidable (r.Admits packet) :=
  inferInstanceAs (Decidable (_ ∧ _))

variable {options : CompileOptions} {view : Option View} {env : Environment} {packet : Packet}

namespace Compile

/-! ### One rule -/

theorem readable_ingressRule {policy : String} {r : IngressRule} {f : Fragment}
    (h : ingressRule options policy r = .ok f) :
    ∀ l ∈ f.ingress, ∀ m ∈ l.ruleMatches, m.Readable := by
  obtain ⟨ports, targets, -, -, rfl⟩ := ingressRule_eq_ok.1 h
  intro l hl
  dsimp only at hl
  exact readable_expand readable_ingressConstraints hl

theorem readable_egressRule {policy : String} {r : EgressRule} (hr : r.selectors = [])
    {f : Fragment} (h : egressRule options view policy r = .ok f) :
    ∀ l ∈ f.egress, ∀ m ∈ l.ruleMatches, m.Readable := by
  obtain ⟨ports, targets, -, -, rfl⟩ := (egressRule_eq_ok_of_nil hr).1 h
  intro l hl
  dsimp only at hl
  exact readable_expand readable_egressConstraints hl

/-- **The lines of an ingress rule accept what the rule admits.** -/
theorem accepts_ingressRule {policy : String} {r : IngressRule} {f : Fragment}
    (h : ingressRule options policy r = .ok f) :
    (∃ l ∈ f.ingress, l.Accepts env packet) ↔ r.Admits packet := by
  obtain ⟨ports, targets, hports, htargets, rfl⟩ := ingressRule_eq_ok.1 h
  rw [accepts_expand, holds_ingressConstraints (targetsOf_ok htargets),
    Ports.holds_clauses_ofPolicy hports]
  rfl

/-- **The lines of an egress rule to prefixes accept what the rule admits.** -/
theorem accepts_egressRule {policy : String} {r : EgressRule} (hr : r.selectors = []) {f : Fragment}
    (h : egressRule options view policy r = .ok f) :
    (∃ l ∈ f.egress, l.Accepts env packet) ↔ r.Admits env packet := by
  obtain ⟨ports, targets, hports, htargets, rfl⟩ := (egressRule_eq_ok_of_nil hr).1 h
  rw [accepts_expand, holds_egressConstraints (targetsOf_ok htargets),
    Ports.holds_clauses_ofPolicy hports, and_assoc]
  rfl

end Compile

/-! ### All rules -/

theorem compile_eq_ok {policies : List Policy} (h : ∀ p ∈ policies, p.hasNameRules = false)
    (services : List Service) :
    compile options view policies services =
      .ok (compileParts options view policies services).compiled := by
  have hlacks : lacksCache view policies = none := by
    unfold lacksCache
    split
    · rfl
    · rw [List.find?_eq_none]
      intro p hp
      rw [h p hp]
      exact Bool.false_ne_true
  unfold compile
  rw [hlacks]

/-- A text among the sorted ones accepts a packet when one of the lines does. -/
theorem textAccepts_uniqueSorted {ls : List Line} (h : ∀ l ∈ ls, ∀ m ∈ l.ruleMatches, m.Readable) :
    (∃ t ∈ uniqueSorted (ls.map Line.text), Line.TextAccepts env packet t) ↔
      ∃ l ∈ ls, l.Accepts env packet := by
  unfold uniqueSorted
  simp only [Ascending.mem_ofList, List.mem_map, exists_exists_and_eq_and]
  exact exists_congr fun l => and_congr_right fun hl => Line.textAccepts_text (h l hl)

theorem selectors_eq_nil {p : Policy} (h : p.hasNameRules = false) {r : EgressRule}
    (hr : r ∈ p.egress) :
    r.selectors = [] := by
  unfold Policy.hasNameRules at h
  rw [List.any_eq_false] at h
  simpa using h r hr

/-- **Compiling policies about prefixes preserves their meaning.**  Some ingress line accepts a
packet exactly when an ingress rule that is taken admits it, and some egress line exactly when an
egress rule that is taken does. -/
theorem compile_preserves_meaning (options : CompileOptions) (view : Option View)
    (policies : List Policy) (h : ∀ p ∈ policies, p.hasNameRules = false) (env : Environment)
    (packet : Packet) :
    ∃ compiled, compile options view policies [] = .ok compiled ∧
      ((∃ t ∈ compiled.ingress, Line.TextAccepts env packet t) ↔
        ∃ p ∈ policies, ∃ r ∈ p.ingress,
          (Compile.ingressRule options p.name r).isOk ∧ r.Admits packet) ∧
      ((∃ t ∈ compiled.egress, Line.TextAccepts env packet t) ↔
        ∃ p ∈ policies, ∃ r ∈ p.egress,
          (Compile.egressRule options view p.name r).isOk ∧ r.Admits env packet) := by
  have hisOk : ∀ {x : Except Refusal Fragment}, x.isOk = true ↔ ∃ f, x = .ok f := by
    intro x
    cases x <;> simp [Except.isOk, Except.toBool]
  refine ⟨_, compile_eq_ok h [], ?_, ?_⟩
  · have hreadable : ∀ l ∈ (compileParts options view policies []).ingress, ∀ m ∈ l.ruleMatches,
        m.Readable := by
      intro l hl
      obtain ⟨p, -, r, -, f, hok, hf⟩ := mem_ingress_compileParts.1 hl
      exact Compile.readable_ingressRule hok l hf
    rw [show (compileParts options view policies []).compiled.ingress = uniqueSorted _ from rfl,
      textAccepts_uniqueSorted hreadable]
    constructor
    · rintro ⟨l, hl, haccepts⟩
      obtain ⟨p, hp, r, hr, f, hok, hf⟩ := mem_ingress_compileParts.1 hl
      exact ⟨p, hp, r, hr, hisOk.2 ⟨f, hok⟩, (Compile.accepts_ingressRule hok).1 ⟨l, hf, haccepts⟩⟩
    · rintro ⟨p, hp, r, hr, hok, hadmits⟩
      obtain ⟨f, hok⟩ := hisOk.1 hok
      obtain ⟨l, hf, haccepts⟩ := (Compile.accepts_ingressRule hok).2 hadmits
      exact ⟨l, mem_ingress_compileParts.2 ⟨p, hp, r, hr, f, hok, hf⟩, haccepts⟩
  · have hreadable : ∀ l ∈ (compileParts options view policies []).egress, ∀ m ∈ l.ruleMatches,
        m.Readable := by
      intro l hl
      obtain ⟨p, hp, r, hr, f, hok, hf⟩ := mem_egress_compileParts.1 hl
      exact Compile.readable_egressRule (selectors_eq_nil (h p hp) hr) hok l hf
    rw [show (compileParts options view policies []).compiled.egress = uniqueSorted _ from rfl,
      textAccepts_uniqueSorted hreadable]
    constructor
    · rintro ⟨l, hl, haccepts⟩
      obtain ⟨p, hp, r, hr, f, hok, hf⟩ := mem_egress_compileParts.1 hl
      have hselectors := selectors_eq_nil (h p hp) hr
      exact ⟨p, hp, r, hr, hisOk.2 ⟨f, hok⟩,
        (Compile.accepts_egressRule hselectors hok).1 ⟨l, hf, haccepts⟩⟩
    · rintro ⟨p, hp, r, hr, hok, hadmits⟩
      obtain ⟨f, hok⟩ := hisOk.1 hok
      have hselectors := selectors_eq_nil (h p hp) hr
      obtain ⟨l, hf, haccepts⟩ := (Compile.accepts_egressRule hselectors hok).2 hadmits
      exact ⟨l, mem_egress_compileParts.2 ⟨p, hp, r, hr, f, hok, hf⟩, haccepts⟩

/-- A packet from 10.2.0.1 to port 443 over TCP. -/
def samplePacket : Packet where
  family := .v4
  source := ⟨.v4, 0x0A020001, by decide⟩
  destination := ⟨.v4, 0x0A000001, by decide⟩
  transport := .toPort .tcp ⟨443, by decide⟩
  source_family := rfl
  destination_family := rfl

/-- Sources in 10.0.0.0/8 may reach port 443, less those in 10.1.0.0/16; and the cluster may reach
that port in 10.0.0.0/24. -/
def samplePolicy : Policy where
  name := "sample"
  ingress := [{ sources := [⟨"10.0.0.0/8", ["10.1.0.0/16"]⟩], ports := [.tcp ⟨443, by decide⟩] }]
  egress := [{ destinations := [⟨"10.0.0.0/24", []⟩], ports := [.tcp ⟨443, by decide⟩] }]

/-- A packet that the cluster sends to itself is let out and in. -/
theorem compile_samplePolicy : (∀ p ∈ [samplePolicy], p.hasNameRules = false) ∧
    ∃ compiled, compile {} none [samplePolicy] [] = .ok compiled ∧
      let env : Environment := { cluster := .single (.host samplePacket.source) }
      (∃ t ∈ compiled.ingress, Line.TextAccepts env samplePacket t) ∧
        ∃ t ∈ compiled.egress, Line.TextAccepts env samplePacket t := by
  have hnames : ∀ p ∈ [samplePolicy], p.hasNameRules = false := by decide
  obtain ⟨compiled, hcompiled, hingress, hegress⟩ := compile_preserves_meaning {} none
    [samplePolicy] hnames { cluster := .single (.host samplePacket.source) } samplePacket
  refine ⟨hnames, compiled, hcompiled, hingress.2 ?_, hegress.2 ?_⟩
  · exact ⟨samplePolicy, List.mem_singleton_self _, _,
      List.mem_singleton_self _, by decide, by decide⟩
  · exact ⟨samplePolicy, List.mem_singleton_self _, _, List.mem_singleton_self _, by decide,
      by decide, by decide, by decide⟩

end Firewall
