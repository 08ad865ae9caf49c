/-
What a further block does to a rule.

A rule lets in from its blocks less the exceptions of all of them, because the exceptions of a
family are put into one match (`Block.Admit`).  A block that is added to a list therefore brings two
things: its prefix, which can only let in more, and its exceptions, which count against the other
blocks as well.  Of what the rule let in before, it goes on letting in exactly what the exceptions
of the new block leave, and a block without exceptions takes nothing away.

The list must not be empty: without blocks any peer is meant, so the
first block narrows a rule down.
-/
import Firewall.Proofs.Policy.Meaning

namespace Firewall

namespace Block

variable {before after : List Block} {b : Block} {a : Address}

theorem admit_insert_iff : Admit (before ++ b :: after) a ↔
    ((∃ c ∈ before ++ after, c.Contains a) ∨ b.Contains a) ∧
      (¬ ∃ c ∈ before ++ after, c.Excludes a) ∧ ¬ b.Excludes a := by
  have hexists : ∀ P : Block → Prop,
      (∃ c ∈ before ++ b :: after, P c) ↔ (∃ c ∈ before ++ after, P c) ∨ P b := by
    intro P
    simp only [List.mem_append, List.mem_cons, or_and_right, exists_or, exists_eq_left]
    rw [or_comm (a := P b), or_assoc]
  rw [Admit, hexists, hexists, not_or]
  simp

/-- **Of the addresses that are admitted, a further block leaves those outside its exceptions.** -/
theorem admit_insert_iff_of_admit (hne : before ++ after ≠ []) (h : Admit (before ++ after) a) :
    Admit (before ++ b :: after) a ↔ ¬ b.Excludes a := by
  obtain ⟨hcontains, hexcludes⟩ := h.resolve_left hne
  rw [admit_insert_iff]
  exact ⟨fun hadmit => hadmit.2.2, fun hb => ⟨.inl hcontains, hexcludes, hb⟩⟩

end Block

namespace Fragment

variable (f : Fragment) (env : Environment) (packet : Packet)

/-- The text of one of the ingress lines accepts a packet. -/
def LetsIn : Prop := ∃ l ∈ f.ingress, Line.TextAccepts env packet l.text

/-- The text of one of the egress lines accepts a packet. -/
def LetsOut : Prop := ∃ l ∈ f.egress, Line.TextAccepts env packet l.text

end Fragment

variable {options : CompileOptions} {view : Option View} {policy : String} {env : Environment}
  {packet : Packet}

namespace Compile

theorem letsIn_ingressRule {r : IngressRule} {f : Fragment}
    (h : ingressRule options policy r = .ok f) :
    f.LetsIn env packet ↔ r.Admits packet := by
  have hlines : f.LetsIn env packet ↔ ∃ l ∈ f.ingress, l.Accepts env packet :=
    exists_congr fun l => and_congr_right fun hl =>
      Line.textAccepts_text (readable_ingressRule h l hl)
  rw [hlines, accepts_ingressRule h]

theorem letsOut_egressRule {r : EgressRule} (hr : r.selectors = []) {f : Fragment}
    (h : egressRule options view policy r = .ok f) :
    f.LetsOut env packet ↔ r.Admits env packet := by
  have hlines : f.LetsOut env packet ↔ ∃ l ∈ f.egress, l.Accepts env packet :=
    exists_congr fun l => and_congr_right fun hl =>
      Line.textAccepts_text (readable_egressRule hr h l hl)
  rw [hlines, accepts_egressRule hr h]

theorem selectors_eq_nil_of_ok {r : EgressRule} {f : Fragment}
    (h : egressRule options view policy r = .ok f) (hne : r.destinations ≠ []) :
    r.selectors = [] := by
  by_contra hselectors
  exact hne ((egressRule_eq_ok_of_ne_nil hselectors).1 h).1

end Compile

section Added

variable {ports : List PolicyPort} {before after : List Block} {b : Block}

/-- An ingress rule with a further source, on the packets that it admits without. -/
theorem IngressRule.admits_insert_iff (hne : before ++ after ≠ [])
    (h : IngressRule.Admits ⟨ports, before ++ after⟩ packet) :
    IngressRule.Admits ⟨ports, before ++ b :: after⟩ packet ↔ ¬ b.Excludes packet.source := by
  obtain ⟨hsource, hport⟩ := h
  rw [IngressRule.Admits, Block.admit_insert_iff_of_admit hne hsource]
  exact and_iff_left hport

/-- An egress rule with a further destination, on the packets that it admits without. -/
theorem EgressRule.admits_insert_iff {selectors : List Selector} (hne : before ++ after ≠ [])
    (h : EgressRule.Admits ⟨ports, before ++ after, selectors⟩ env packet) :
    EgressRule.Admits ⟨ports, before ++ b :: after, selectors⟩ env packet ↔
      ¬ b.Excludes packet.destination := by
  obtain ⟨hsource, hdestination, hport⟩ := h
  rw [EgressRule.Admits, Block.admit_insert_iff_of_admit hne hdestination]
  exact ⟨fun hadmits => hadmits.2.1, fun hb => ⟨hsource, hb, hport⟩⟩

end Added

/-- **A further block takes away what its exceptions contain, and nothing else.**  Where a rule with
some blocks is taken, and still is with one more among them, the packets that its lines accepted are
still accepted exactly if no exception of the new block contains the peer. -/
theorem added_block_takes_its_exceptions (options : CompileOptions) (view : Option View)
    (policy : String) (ports : List PolicyPort) (selectors : List Selector)
    (before after : List Block) (b : Block) (hne : before ++ after ≠ []) (env : Environment)
    (packet : Packet) :
    (∀ f g, Compile.ingressRule options policy ⟨ports, before ++ after⟩ = .ok f →
      Compile.ingressRule options policy ⟨ports, before ++ b :: after⟩ = .ok g →
      f.LetsIn env packet → (g.LetsIn env packet ↔ ¬ b.Excludes packet.source)) ∧
    (∀ f g, Compile.egressRule options view policy ⟨ports, before ++ after, selectors⟩ = .ok f →
      Compile.egressRule options view policy ⟨ports, before ++ b :: after, selectors⟩ = .ok g →
      f.LetsOut env packet → (g.LetsOut env packet ↔ ¬ b.Excludes packet.destination)) := by
  constructor
  · intro f g hf hg haccepted
    rw [Compile.letsIn_ingressRule hg]
    exact IngressRule.admits_insert_iff hne ((Compile.letsIn_ingressRule hf).1 haccepted)
  · intro f g hf hg haccepted
    have hselectors : selectors = [] := Compile.selectors_eq_nil_of_ok hf hne
    rw [Compile.letsOut_egressRule hselectors hg]
    exact EgressRule.admits_insert_iff hne ((Compile.letsOut_egressRule hselectors hf).1 haccepted)

/-- 10.1.0.0/16, less 10.1.2.0/24. -/
def sampleBlock : Block := ⟨"10.1.0.0/16", ["10.1.2.0/24"]⟩

/-- Sources in 10.0.0.0/8, and in some other blocks. -/
def sampleSources (further : List Block) : IngressRule :=
  { sources := ⟨"10.0.0.0/8", []⟩ :: further }

theorem sampleBlock_added : ∃ f g, Compile.ingressRule {} "sample" (sampleSources []) = .ok f ∧
    Compile.ingressRule {} "sample" (sampleSources [sampleBlock]) = .ok g ∧
      f.LetsIn { cluster := ∅ } samplePacket ∧ g.LetsIn { cluster := ∅ } samplePacket := by
  obtain ⟨f, hf⟩ :=
    Attempt.isOk_iff.1 (show (Compile.ingressRule {} "sample" (sampleSources [])).isOk by decide)
  obtain ⟨g, hg⟩ :=
    Attempt.isOk_iff.1
      (show (Compile.ingressRule {} "sample" (sampleSources [sampleBlock])).isOk by decide)
  have haccepted : f.LetsIn { cluster := ∅ } samplePacket :=
    (Compile.letsIn_ingressRule hf).2 (by decide)
  have hadded :=
    (added_block_takes_its_exceptions {} none "sample" [] [] [⟨"10.0.0.0/8", []⟩] [] sampleBlock
    (by decide) { cluster := ∅ } samplePacket).1 f g hf hg haccepted
  exact ⟨f, g, hf, hg, haccepted, hadded.2 (by decide)⟩

/-- A packet from 10.1.2.1, which the second block excepts and the first contains. -/
def sampleExcepted : Packet :=
  { samplePacket with source := ⟨.v4, 0x0A010201, by decide⟩, source_family := rfl }

theorem sampleBlock_takes_away : ∃ f g, Compile.ingressRule {} "sample" (sampleSources []) = .ok f ∧
    Compile.ingressRule {} "sample" (sampleSources [sampleBlock]) = .ok g ∧
      f.LetsIn { cluster := ∅ } sampleExcepted ∧ ¬ g.LetsIn { cluster := ∅ } sampleExcepted := by
  obtain ⟨f, hf⟩ :=
    Attempt.isOk_iff.1 (show (Compile.ingressRule {} "sample" (sampleSources [])).isOk by decide)
  obtain ⟨g, hg⟩ :=
    Attempt.isOk_iff.1
      (show (Compile.ingressRule {} "sample" (sampleSources [sampleBlock])).isOk by decide)
  refine ⟨f, g, hf, hg, (Compile.letsIn_ingressRule hf).2 (by decide), ?_⟩
  rw [Compile.letsIn_ingressRule hg]
  decide

end Firewall
