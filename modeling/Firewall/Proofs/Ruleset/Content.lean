/-
The text of a ruleset says what is in it, and nothing else.

Every listing in the text is in an order of its own: sets by name, the first of each name, and
addresses and prefixes by value and each once.  So what the text is made from is what names are
declared with (`declarations_eq_iff`), and no order, repetition or expiration gets into it.

The other way round nothing gets lost.  The text can be taken apart into its lines, and
the lines into the parts of the ruleset, one part after the other (`bodyLines_eq_iff`).
What comes behind the rules, limits and NAT, is not looked at: where it is the same on
both sides it does not matter what it holds.
-/
import Firewall.Proofs.Prefix.Set
import Firewall.Proofs.Ruleset.Comments
import Firewall.Proofs.Ruleset.Lines

namespace Firewall

theorem NatEntry.exists_allRules {entries : List NatEntry}
    (h : ∀ e ∈ entries, ∀ source ∈ e.sources, ∃ p, Prefix.parse source = .ok p) :
    ∃ rules, allRules entries = .ok rules := by
  have hrules : ∀ e ∈ entries, ∃ rules, e.rules = .ok rules := by
    intro e he
    obtain ⟨ps, hps⟩ := Attempt.exists_mapM_eq_ok_iff.2 (h e he)
    refine ⟨e.rulesFor (.ofList ps), ?_⟩
    unfold rules PrefixSet.parse Prefix.parseAll
    rw [hps]
    rfl
  obtain ⟨rules, hall⟩ := Attempt.exists_mapM_eq_ok_iff.2 hrules
  refine ⟨rules.flatten, ?_⟩
  unfold allRules
  rw [hall]
  rfl

namespace Ruleset

/-! ### What names are declared with -/

/-- What a name is declared with, by the first set of that name. -/
def declared? (r : Ruleset) (name : String) : Option Declaration :=
  (r.sets.find? fun s => s.setName = name).map declaration

/-- The declarations of a ruleset, in the order of their names. -/
def declarations (r : Ruleset) : List Declaration := r.setsByName.values.map declaration

theorem mem_declarations {r : Ruleset} {d : Declaration} :
    d ∈ r.declarations ↔ r.declared? d.setName = some d := by
  have hkey : ∀ name : String, (fun s : NamedSet => compare s.setName name == .eq)
      = fun s => decide (s.setName = name) := by
    intro name
    funext s
    rw [Bool.eq_iff_iff, beq_iff_eq, decide_eq_true_eq]
    exact Std.LawfulEqCmp.compare_eq_iff_eq
  unfold declarations declared? setsByName
  simp only [List.mem_map, Dictionary.mem_values_foldl_insertNew_iff, Option.map_eq_some_iff, hkey]
  constructor
  · rintro ⟨s, hs, rfl⟩
    exact ⟨s, hs, rfl⟩
  · rintro ⟨s, hs, rfl⟩
    exact ⟨s, hs, rfl⟩

theorem pairwise_declarations (r : Ruleset) :
    r.declarations.Pairwise fun d e => compare d.setName e.setName = .lt := by
  unfold declarations
  rw [List.pairwise_map]
  exact Dictionary.pairwise_values_foldl_insertNew

/-- **The declarations are what each name is declared with.** -/
theorem declarations_eq_iff {r s : Ruleset} :
    r.declarations = s.declarations ↔ ∀ name, r.declared? name = s.declared? name := by
  have hname : ∀ {r : Ruleset} {name : String} {d : Declaration}, r.declared? name = some d →
      d.setName = name := by
    intro r name d hd
    obtain ⟨set, hset, rfl⟩ := Option.map_eq_some_iff.1 hd
    have hfound := List.find?_some (p := fun s : NamedSet => decide (s.setName = name)) hset
    exact of_decide_eq_true hfound
  constructor
  · intro h name
    refine Option.ext fun d => ?_
    constructor
    · intro hd
      have hmem := mem_declarations.2 (by rw [hname hd]; exact hd)
      rw [h, mem_declarations, hname hd] at hmem
      exact hmem
    · intro hd
      have hmem := mem_declarations.2 (by rw [hname hd]; exact hd)
      rw [← h, mem_declarations, hname hd] at hmem
      exact hmem
  · intro h
    refine eq_of_mem_iff_of_pairwise
      (R := fun d e : Declaration => compare d.setName e.setName = .lt)
      (fun d => by simp [Std.ReflCmp.compare_self]) Std.TransCmp.lt_trans r.pairwise_declarations
      s.pairwise_declarations fun d => ?_
    rw [mem_declarations, mem_declarations, h]

/-! ### What is in a ruleset -/

/-- Two rulesets have the same content: the same rules in the same order, the same prefixes of the
cluster, and the same declaration for each name. -/
structure SameContent (r s : Ruleset) : Prop where
  ingress : r.ingress = s.ingress
  egress : r.egress = s.egress
  clusterPrefixes : ∀ p, p ∈ r.clusterPrefixes.prefixes ↔ p ∈ s.clusterPrefixes.prefixes
  declared : ∀ name, r.declared? name = s.declared? name

/-- The lines up to the end of the rules. -/
def bodyLines (r : Ruleset) : List String :=
  ["# Generated by nftwall. Manual changes are overwritten on the next reconcile.", ""] ++
    (tableStart "nftwall"
  ++ (r.clusterSetLines .v4 ++ ("" :: (r.clusterSetLines .v6
  ++ (r.declarations.flatMap declarationLines ++
    "" :: chainStart :: ((inputChain r.dnsProxy).tail ++ ([""]
  ++ (forwardChain ++ ([""] ++ (ruleChain "firewall_ingress" r.ingress ++ ([""]
  ++ ruleChain "firewall_egress" r.egress)))))))))))

theorem lines_eq_bodyLines (r : Ruleset) (nat : List NatRule) :
    r.lines nat = r.bodyLines ++ (rateLimitChain r.rateLimits ++ ["\x7d", ""] ++ natTable nat) := by
  have hsets : r.setsByName.values.flatMap namedSetLines =
      r.declarations.flatMap declarationLines := by
    rw [declarations, List.flatMap_map]
    rfl
  have hinput : inputChain r.dnsProxy = chainStart :: (inputChain r.dnsProxy).tail := rfl
  rw [lines_eq, hsets]
  unfold linesBefore linesAfter bodyLines
  rw [hinput]
  simp only [List.append_assoc, List.cons_append, List.nil_append, List.tail_cons]

/-- **The lines up to the end of the rules say what is in a ruleset**, and nothing else. -/
theorem bodyLines_eq_iff {r s : Ruleset} (hproxy : r.dnsProxy = s.dnsProxy) :
    r.bodyLines = s.bodyLines ↔ r.SameContent s := by
  constructor
  · intro h
    unfold bodyLines at h
    rw [hproxy] at h
    obtain ⟨hv4, h⟩ :=
      clusterSetLines_append_inj (List.append_cancel_left (List.append_cancel_left h))
    obtain ⟨hv6, h⟩ := clusterSetLines_append_inj (List.cons.inj h).2
    obtain ⟨hsets, h⟩ := declarationLines_append_inj h
    have hrules :=
      List.append_cancel_left
        (List.append_cancel_left (List.append_cancel_left (List.append_cancel_left h)))
    obtain ⟨hingress, h⟩ := ruleChain_append_inj hrules
    obtain ⟨hegress, -⟩ := ruleChain_append_inj (a := []) (b := []) (by simpa using h)
    refine ⟨hingress, hegress, fun p => ?_, declarations_eq_iff.1 hsets⟩
    unfold PrefixSet.prefixes
    rw [hv4, hv6]
  · intro h
    have hcluster : ∀ f, r.clusterSetLines f = s.clusterSetLines f := by
      intro f
      unfold clusterSetLines
      rw [PrefixSet.ofFamily_congr h.clusterPrefixes f]
    unfold bodyLines
    rw [hproxy, hcluster, hcluster, declarations_eq_iff.2 h.declared, h.ingress, h.egress]

/-! ### Texts -/

/-- The rules, the names of sets and the names that they are for hold no line feed. -/
structure WithoutLineFeeds (r : Ruleset) : Prop where
  ingress : ∀ rule ∈ r.ingress, '\n' ∉ rule.toList
  egress : ∀ rule ∈ r.egress, '\n' ∉ rule.toList
  sets : ∀ s ∈ r.sets, '\n' ∉ s.setName.toList ∧ '\n' ∉ s.fqdn.toList

theorem WithoutLineFeeds.oneLine {r : Ruleset} (h : r.WithoutLineFeeds) :
    ∀ l ∈ r.bodyLines, OneLine l := by
  have hsets : ∀ l ∈ r.declarations.flatMap declarationLines, OneLine l := by
    intro l hl
    obtain ⟨d, hd, hl⟩ := List.mem_flatMap.1 hl
    obtain ⟨s, hs, rfl⟩ := List.mem_map.1 hd
    obtain ⟨hname, hfqdn⟩ :=
      h.sets s (List.mem_of_find?_eq_some (Dictionary.mem_values_foldl_insertNew_iff.1 hs))
    exact oneLine_namedSetLines hname hfqdn l hl
  have hinput : ∀ l ∈ (inputChain r.dnsProxy).tail, OneLine l :=
    fun l hl => oneLine_inputChain r.dnsProxy l (List.mem_of_mem_tail hl)
  unfold bodyLines tableStart
  simp only [List.forall_mem_append, List.forall_mem_cons, List.not_mem_nil, false_implies,
    implies_true, and_true]
  refine ⟨⟨.ofList rfl, .ofList rfl⟩, ⟨?_, ?_, .ofList rfl, ?_⟩,
    oneLine_clusterSetLines r .v4, .ofList rfl,
    oneLine_clusterSetLines r .v6, hsets, .ofList rfl, .ofList rfl, hinput, .ofList rfl,
    oneLine_forwardChain, .ofList rfl,
    oneLine_ruleChain (.ofList rfl) h.ingress, .ofList rfl,
    oneLine_ruleChain (.ofList rfl) h.egress⟩
  · exact .append (.ofList rfl) (.ofList rfl)
  · exact .append (.ofList rfl) (.ofList rfl)
  · exact (OneLine.append (.ofList rfl) (.ofList rfl)).append (.ofList rfl)

/--
**The text of a ruleset determines its content and depends on nothing else.**  Two rulesets with the
same rate limits, proxy and NAT, all of whose sources are prefixes, are both rendered, and if no
rule and no name holds a line feed, to the same text exactly if they have the same content.
-/
theorem render_eq_iff_sameContent {r s : Ruleset} (hlimits : r.rateLimits = s.rateLimits)
    (hproxy : r.dnsProxy = s.dnsProxy) (hnat : r.nat = s.nat)
    (hsources : ∀ e ∈ r.nat, ∀ source ∈ e.sources, ∃ p, Prefix.parse source = .ok p)
    (hr : r.WithoutLineFeeds) (hs : s.WithoutLineFeeds) :
    ∃ t u, r.render = .ok t ∧ s.render = .ok u ∧ (t = u ↔ r.SameContent s) := by
  obtain ⟨nat, hrules⟩ := NatEntry.exists_allRules hsources
  have hrender : ∀ q : Ruleset, q.nat = r.nat → q.render = .ok (unlines (q.lines nat)) := by
    intro q hq
    unfold render
    rw [hq, hrules]
    rfl
  refine ⟨_, _, hrender r rfl, hrender s hnat.symm, ?_⟩
  rw [lines_eq_bodyLines, lines_eq_bodyLines, unlines_append r.bodyLines,
    unlines_append s.bodyLines, hlimits, String.append_left_inj, ← bodyLines_eq_iff hproxy]
  exact ⟨unlines_injective hr.oneLine hs.oneLine, congrArg unlines⟩

/-- 172.16.0.1 and 172.16.0.2. -/
def sampleAddresses : List Address := [⟨.v4, 0xAC100001, by decide⟩, ⟨.v4, 0xAC100002, by decide⟩]

/-- Two sets, and a rule that looks like the end of a chain. -/
def sampleContent : Ruleset where
  ingress := ["\x7d"]
  sets := [⟨"a.example", "a", sampleAddresses, .ofSeconds 1, .v4⟩,
    ⟨"b.example", "b", [], .ofSeconds 2, .v6⟩]
  nat := [⟨"eth0", ["10.0.0.0/8"], none⟩]

/-- The sets and addresses the other way round and some of them twice,
and everything expires later. -/
def sampleContentAgain : Ruleset :=
  { sampleContent with
    sets := [⟨"b.example", "b", [], .ofSeconds 4, .v6⟩,
      ⟨"a.example", "a", sampleAddresses.reverse ++ sampleAddresses, .ofSeconds 3, .v4⟩,
      ⟨"c.example", "b", sampleAddresses, .ofSeconds 3, .v4⟩] }

/-- Another address in place of one. -/
def sampleOtherContent : Ruleset :=
  { sampleContent with
    sets := [⟨"a.example", "a", [⟨.v4, 0xAC100001, by decide⟩, ⟨.v4, 0xAC100003, by decide⟩],
      .ofSeconds 1, .v4⟩,
      ⟨"b.example", "b", [], .ofSeconds 2, .v6⟩] }

theorem render_sampleContent :
    ∃ t u v, sampleContent.render = .ok t ∧ sampleContentAgain.render = .ok u ∧
    sampleOtherContent.render = .ok v ∧ t = u ∧ t ≠ v := by
  have hsources : ∀ e ∈ sampleContent.nat, ∀ source ∈ e.sources, ∃ p,
      Prefix.parse source = .ok p := by
    simp only [sampleContent, List.forall_mem_singleton]
    exact ⟨_, rfl⟩
  have hplain : sampleContent.WithoutLineFeeds := ⟨by decide, by decide, by decide⟩
  obtain ⟨t, u, ht, hu, hsame⟩ :=
    render_eq_iff_sameContent (r := sampleContent) (s := sampleContentAgain) rfl rfl rfl
    hsources hplain ⟨by decide, by decide, by decide⟩
  obtain ⟨t', v, ht', hv, hother⟩ :=
    render_eq_iff_sameContent (r := sampleContent) (s := sampleOtherContent) rfl rfl rfl
    hsources hplain ⟨by decide, by decide, by decide⟩
  have htt : t = t' := Except.ok.inj (ht.symm.trans ht')
  have hcluster : sampleContent.clusterPrefixes = sampleContentAgain.clusterPrefixes := rfl
  have hcontent : sampleContent.SameContent sampleContentAgain :=
    ⟨rfl, rfl, fun p => by rw [hcluster], declarations_eq_iff.1 (by decide +kernel)⟩
  refine ⟨t, u, v, ht, hu, hv, hsame.2 hcontent, ?_⟩
  rw [htt, Ne, hother]
  intro h
  exact absurd (h.declared "a") (by decide +kernel)

end Ruleset

end Firewall
