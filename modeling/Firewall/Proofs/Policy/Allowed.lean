/-
Rules to and from prefixes stay within what is allowed.

A rule is checked against the allowed prefixes when its blocks are read, and accepts packets by the
lines it is compiled to.  Between the two, blocks are split by family, exceptions are pooled, and a
match on every destination is left out.  None of this matters here: whatever the lines look like,
they accept what the blocks admit (`Compile.accepts_ingressRule`, `Compile.accepts_egressRule`).  So
it is enough that an address which the blocks admit is allowed (`Compile.mem_of_admit`).

It is, because a rule that admits any peer is refused where there are allowed prefixes, and of any
other rule every block was found to be contained in them.
-/
import Firewall.Proofs.Policy.Origins
import Firewall.Proofs.Prefix.Set

namespace Firewall

namespace Compile

/-- A block is contained in the allowed prefixes. -/
def Within (allowed : PrefixSet) (b : Block) : Prop :=
  ∀ cidr, Prefix.parse b.cidr = .ok cidr → allowed.contains cidr = true

theorem within_of_addBlock {allowed : PrefixSet} {t t' : PerFamily Targets} {b : Block}
    (h : addBlock (some allowed) t b = .ok t') : Within allowed b := by
  obtain ⟨cidr, hcidr, hallowed, -⟩ := addBlock_eq_ok.1 h
  intro cidr' hcidr'
  rw [← Except.ok.inj (hcidr.symm.trans hcidr')]
  simpa using hallowed

/-- Where prefixes are allowed, a rule that is taken has blocks, and they are
contained in the allowed prefixes. -/
theorem within_of_targetsOf {blocks : List Block} {allowed : PrefixSet} {t : PerFamily Targets}
    (h : targetsOf blocks (some allowed) = .ok t) :
    blocks ≠ [] ∧ ∀ b ∈ blocks, Within allowed b := by
  unfold targetsOf at h
  split at h
  · exact absurd h (by simp)
  · rename_i hsome
    have hne : blocks ≠ [] := by
      rintro rfl
      exact hsome rfl
    have hall := Attempt.foldlM_induction (motive := fun done _ => ∀ b ∈ done, Within allowed b)
      (fun hdone hstep =>
        List.forall_mem_append.2 ⟨hdone, List.forall_mem_singleton.2 (within_of_addBlock hstep)⟩)
      h (fun b hb => absurd hb List.not_mem_nil)
    exact ⟨hne, hall⟩

/-- **What the blocks of a rule that is taken admit is allowed.** -/
theorem mem_of_admit {blocks : List Block} {allowed : PrefixSet} {t : PerFamily Targets}
    (h : targetsOf blocks (some allowed) = .ok t) {a : Address} (ha : Block.Admit blocks a) :
    a ∈ allowed := by
  obtain ⟨hne, hwithin⟩ := within_of_targetsOf h
  obtain ⟨⟨b, hb, cidr, hcidr, hmem⟩, -⟩ := ha.resolve_left hne
  exact PrefixSet.mem_of_contains (hwithin b hb cidr hcidr) hmem

end Compile

variable {options : CompileOptions} {view : Option View} {policies : List Policy}
  {allowed : PrefixSet}
  {env : Environment} {packet : Packet} {t : String}

theorem source_mem_of_textAccepts (h : options.allowedIngress = some allowed)
    (ht : Compile.OfIngressRule options policies t) (haccepts : Line.TextAccepts env packet t) :
    packet.source ∈ allowed := by
  obtain ⟨p, -, r, -, f, hok, l, hl, rfl⟩ := ht
  have hline := (Line.textAccepts_text (Compile.readable_ingressRule hok l hl)).1 haccepts
  have hadmits := (Compile.accepts_ingressRule hok).1 ⟨l, hl, hline⟩
  obtain ⟨-, targets, -, htargets, -⟩ := Compile.ingressRule_eq_ok.1 hok
  rw [h] at htargets
  exact Compile.mem_of_admit htargets hadmits.1

/-- A line of a rule to prefixes accepts packets to allowed destinations. -/
theorem destination_mem_of_textAccepts (h : options.allowedEgress = some allowed)
    (ht : Compile.OfPrefixRule options view policies t) (haccepts : Line.TextAccepts env packet t) :
    packet.destination ∈ allowed := by
  obtain ⟨p, -, r, -, hselectors, f, hok, l, hl, rfl⟩ := ht
  have hline := (Line.textAccepts_text (Compile.readable_egressRule hselectors hok l hl)).1 haccepts
  have hadmits := (Compile.accepts_egressRule hselectors hok).1 ⟨l, hl, hline⟩
  obtain ⟨-, targets, -, htargets, -⟩ := (Compile.egressRule_eq_ok_of_nil hselectors).1 hok
  rw [h] at htargets
  exact Compile.mem_of_admit htargets hadmits.2.1

/--
**The allowed prefixes confine what policies let in and out.**  A line of an ingress rule accepts
packets from allowed sources only, and a line of an egress rule without selectors packets to allowed
destinations only, whether or not it has a match on the destination.  An address is allowed if it is
in one of the prefixes that make up the set, and if the set was made from a list, in one of the
list.  All other lines come from services and from rules about host names.
-/
theorem allow_lists_confine_policies (options : CompileOptions) (view : Option View)
    (policies : List Policy) (services : List Service) {compiled : Compiled}
    (h : compile options view policies services = .ok compiled) (env : Environment)
    (packet : Packet) :
    (∀ allowed, options.allowedIngress = some allowed → ∀ t ∈ compiled.ingress,
      Compile.OfIngressRule options policies t → Line.TextAccepts env packet t →
        packet.source ∈ allowed ∧ ∀ ps, allowed = .ofList ps → ∃ p ∈ ps, packet.source ∈ p) ∧
    (∀ allowed, options.allowedEgress = some allowed → ∀ t ∈ compiled.egress,
      Compile.OfPrefixRule options view policies t → Line.TextAccepts env packet t →
        packet.destination ∈ allowed ∧ ∀ ps, allowed = .ofList ps →
        ∃ p ∈ ps, packet.destination ∈ p) ∧
    (∀ t ∈ compiled.ingress,
      Compile.OfIngressRule options policies t ∨ Compile.OfService options services t) ∧
    (∀ t ∈ compiled.egress,
      Compile.OfPrefixRule options view policies t ∨
      Compile.OfNameRule options view policies t) := by
  refine ⟨?_, ?_, fun t => (mem_ingress_iff h).1, fun t => (mem_egress_iff h).1⟩
  · intro allowed hallowed t _ ht haccepts
    have hmem := source_mem_of_textAccepts hallowed ht haccepts
    refine ⟨hmem, ?_⟩
    rintro ps rfl
    exact PrefixSet.mem_ofList.1 hmem
  · intro allowed hallowed t _ ht haccepts
    have hmem := destination_mem_of_textAccepts hallowed ht haccepts
    refine ⟨hmem, ?_⟩
    rintro ps rfl
    exact PrefixSet.mem_ofList.1 hmem

/-- Sources in 10.0.0.0/8 are allowed, and every IPv4 destination. -/
def sampleAllowed : CompileOptions where
  allowedIngress := some (.ofList [.ofAddress samplePacket.source 8 (by decide)])
  allowedEgress := some (.ofList [.ofAddress samplePacket.destination 0 (Nat.zero_le _)])

/-- Lets in from 10.0.0.0/8 less a part of it, and out to everywhere. -/
def sampleBothWays : Policy where
  name := "sample"
  ingress := [{ sources := [⟨"10.0.0.0/8", ["10.1.0.0/16"]⟩] }]
  egress := [{ destinations := [⟨"0.0.0.0/0", []⟩] }]

/-- The cluster is the host that the packet comes from. -/
def sampleCluster : Environment := ⟨.single (.host samplePacket.source), []⟩

theorem confined_sampleBothWays :
    ∃ compiled, compile sampleAllowed none [sampleBothWays] [] = .ok compiled ∧
    (∃ t ∈ compiled.ingress, Compile.OfIngressRule sampleAllowed [sampleBothWays] t ∧
      Line.TextAccepts sampleCluster samplePacket t ∧
      ∃ allowed, sampleAllowed.allowedIngress = some allowed ∧ samplePacket.source ∈ allowed) ∧
    (∃ t ∈ compiled.egress, Compile.OfPrefixRule sampleAllowed none [sampleBothWays] t ∧
      Line.TextAccepts sampleCluster samplePacket t ∧
      ∃ allowed, sampleAllowed.allowedEgress = some allowed ∧
      samplePacket.destination ∈ allowed) := by
  have hnames : ∀ p ∈ [sampleBothWays], p.hasNameRules = false := by decide
  have hcompiled : compile sampleAllowed none [sampleBothWays] [] = .ok _ := compile_eq_ok hnames []
  obtain ⟨hin, hout, -, -⟩ :=
    allow_lists_confine_policies sampleAllowed none [sampleBothWays] [] hcompiled
    sampleCluster samplePacket
  refine ⟨_, hcompiled, ?_, ?_⟩
  · obtain ⟨f, hok⟩ := Attempt.isOk_iff.1 (show (Compile.ingressRule sampleAllowed "sample"
      (sampleBothWays.ingress.head (by decide))).isOk = true by decide)
    obtain ⟨l, hl, haccepts⟩ : ∃ l ∈ f.ingress, l.Accepts sampleCluster samplePacket :=
      (Compile.accepts_ingressRule hok).2 (by decide)
    have htext := (Line.textAccepts_text (Compile.readable_ingressRule hok l hl)).2 haccepts
    have hof : Compile.OfIngressRule sampleAllowed [sampleBothWays] l.text :=
      ⟨_, List.mem_singleton_self _, _, List.head_mem _, f, hok, l, hl, rfl⟩
    have ht := (mem_ingress_iff hcompiled).2 (.inl hof)
    exact ⟨_, ht, hof, htext, _, rfl, (hin _ rfl _ ht hof htext).1⟩
  · obtain ⟨f, hok⟩ := Attempt.isOk_iff.1 (show (Compile.egressRule sampleAllowed none "sample"
      (sampleBothWays.egress.head (by decide))).isOk = true by decide)
    obtain ⟨l, hl, haccepts⟩ : ∃ l ∈ f.egress, l.Accepts sampleCluster samplePacket :=
      (Compile.accepts_egressRule rfl hok).2 ⟨by decide, by decide, .inl rfl⟩
    have htext := (Line.textAccepts_text (Compile.readable_egressRule rfl hok l hl)).2 haccepts
    have hof : Compile.OfPrefixRule sampleAllowed none [sampleBothWays] l.text :=
      ⟨_, List.mem_singleton_self _, _, List.head_mem _, rfl, f, hok, l, hl, rfl⟩
    have ht := (mem_egress_iff hcompiled).2 (.inl hof)
    exact ⟨_, ht, hof, htext, _, rfl, (hout _ rfl _ ht hof htext).1⟩

end Firewall
