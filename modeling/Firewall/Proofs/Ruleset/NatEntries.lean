/-
Which NAT entry decides.

Of the lines for an interface the first that matches a source decides what becomes of it, so
what matters of the entries is the first that says something about the source
(`NatEntry.says?`).  An entry is split into a line for each family, and its sources are merged;
but at most one of its lines is of the source's family, and merging keeps what the sources
cover.  So an entry has a line that matches a source exactly if the entry says something about
it, and that line says the same (`NatEntry.findSome?_rulesFor`).  The rest is that the lines of
the entries stand in the order of the entries.
-/
import Firewall.Proofs.Attempt
import Firewall.Proofs.Prefix.Set
import Firewall.Proofs.Ruleset.NatLine

namespace Firewall

open Ruleset (NatReading actionWords natLine natReading readNatLine? readNatLine?_natLine)

namespace NatEntry

/-! ### Entries that cannot be read -/

theorem rules_eq_error {e : NatEntry} {invalid : Prefix.Invalid} :
    e.rules = .error invalid ↔ Prefix.parseAll e.sources = .error invalid :=
  Attempt.map_eq_error.trans Attempt.map_eq_error

theorem rules_eq_ok {e : NatEntry} {rules : List NatRule} :
    e.rules = .ok rules ↔
      ∃ sources, PrefixSet.parse e.sources = .ok sources ∧ e.rulesFor sources = rules :=
  Attempt.map_eq_ok

/-- **Entries are refused for the first of all their sources that is no prefix.** -/
theorem allRules_eq_error_iff {entries : List NatEntry} {invalid : Prefix.Invalid} :
    allRules entries = .error invalid ↔
      Prefix.parseAll (entries.flatMap (·.sources)) = .error invalid := by
  have hread : ∀ e : NatEntry, (∃ rules, e.rules = .ok rules) ↔
      ∃ ps, Prefix.parseAll e.sources = .ok ps := by
    intro e
    simp only [rules_eq_ok, PrefixSet.parse, Attempt.map_eq_ok]
    constructor
    · rintro ⟨_, _, ⟨ps, hps, -⟩, -⟩
      exact ⟨ps, hps⟩
    · rintro ⟨ps, hps⟩
      exact ⟨_, _, ⟨ps, hps, rfl⟩, rfl⟩
  unfold allRules Prefix.parseAll
  rw [Attempt.map_eq_error]
  induction entries with
  | nil => simp [pure, Except.pure]
  | cons e rest ih =>
    rw [List.mapM_cons, List.flatMap_cons, List.mapM_append]
    simp only [Attempt.bind_eq_error, pure, Except.pure, reduceCtorEq, and_false, exists_false,
      or_false, exists_and_right, hread, rules_eq_error, ih, Prefix.parseAll]

theorem exists_of_allRules_eq_ok {entries : List NatEntry} {rules : List NatRule}
    (h : allRules entries = .ok rules) :
    ∃ parsed : List (NatEntry × PrefixSet), parsed.map Prod.fst = entries ∧
      (∀ p ∈ parsed, PrefixSet.parse p.1.sources = .ok p.2) ∧
      rules = parsed.flatMap fun p => p.1.rulesFor p.2 := by
  obtain ⟨lists, hlists, rfl⟩ := Attempt.map_eq_ok.1 h
  clear h
  induction entries generalizing lists with
  | nil =>
    rw [List.mapM_nil] at hlists
    cases hlists
    exact ⟨[], rfl, by simp, rfl⟩
  | cons e rest ih =>
    rw [List.mapM_cons, Attempt.bind_eq_ok] at hlists
    obtain ⟨rules, hrules, hlists⟩ := hlists
    obtain ⟨more, hmore, hlists⟩ := Attempt.bind_eq_ok.1 hlists
    cases hlists
    obtain ⟨sources, hsources, rfl⟩ := rules_eq_ok.1 hrules
    obtain ⟨parsed, rfl, hparsed, hflat⟩ := ih more hmore
    refine ⟨(e, sources) :: parsed, rfl, List.forall_mem_cons.2 ⟨hsources, hparsed⟩, ?_⟩
    rw [List.flatten_cons, hflat]
    rfl

/-! ### The rules of one entry -/

theorem mem_rulesFor {e : NatEntry} {sources : PrefixSet} {rule : NatRule} :
    rule ∈ e.rulesFor sources ↔
    rule.outInterface = e.outInterface ∧ rule.address = e.address ∧
    (∀ b ∈ e.address, b.family = rule.family) ∧
      rule.sources = sources.ofFamily rule.family ∧ rule.sources ≠ [] := by
  unfold rulesFor
  simp only [List.mem_filterMap, List.mem_filter, Family.mem_all, true_and, Option.all_eq_true,
    decide_eq_true_eq]
  constructor
  · rintro ⟨f, haddress, hrule⟩
    split at hrule
    · exact nomatch hrule
    · rename_i hne
      cases hrule
      exact ⟨rfl, rfl, haddress, rfl, fun hnil => hne (List.isEmpty_iff.2 hnil)⟩
  · obtain ⟨outInterface, f, prefixes, address⟩ := rule
    rintro ⟨rfl, rfl, haddress, hprefixes, hne⟩
    dsimp only at hprefixes hne haddress
    subst hprefixes
    refine ⟨f, haddress, ?_⟩
    rw [if_neg fun hempty => hne (List.isEmpty_iff.1 hempty)]

/-- What an entry says about what an address sends through an interface: something if it
is for that interface, its sources cover the address, and it gives no address to hide
behind or one of the same family. -/
def says? (interface : String) (a : Address) (e : NatEntry) : Option NatReading :=
  match PrefixSet.parse e.sources with
  | .error _ => none
  | .ok sources =>
    if e.outInterface = interface ∧ a ∈ sources ∧ ∀ b ∈ e.address, b.family = a.family then
      some ⟨a.family, sources.ofFamily a.family, match e.address with
        | none => ["masquerade"]
        | some b => ["snat", a.family.keyword, "to", b.text]⟩
    else none

end NatEntry

namespace Ruleset

/-- What a NAT line says about what an address sends through an interface: what it says at all, if
it is for that interface and one of its sources covers the address. -/
def matching? (interface : String) (a : Address) (line : String) : Option NatReading :=
  (readNatLine? interface line).filter fun n => n.family = a.family ∧ ∃ p ∈ n.sources, a ∈ p

theorem matching?_natLine {rule : NatRule} (h : rule.sources ≠ []) (interface : String)
    (a : Address) :
    matching? interface a (natLine rule) =
      if rule.outInterface = interface ∧ rule.family = a.family ∧ ∃ p ∈ rule.sources, a ∈ p then
        some (natReading rule)
      else none := by
  unfold matching?
  rw [readNatLine?_natLine h]
  by_cases hinterface : rule.outInterface = interface
  · simp [hinterface, Option.filter_some, natReading]
  · simp [hinterface]

end Ruleset

namespace NatEntry

private theorem findSome?_eq_of_forall {α β : Type} {f : α → Option β} {l : List α}
    {found : Option β} (hall : ∀ x ∈ l, f x = none ∨ f x = found)
    (hsome : found ≠ none → ∃ x ∈ l, f x = found) : l.findSome? f = found := by
  induction l with
  | nil =>
    by_contra hne
    obtain ⟨x, hx, -⟩ := hsome fun heq => hne heq.symm
    exact List.not_mem_nil hx
  | cons x rest ih =>
    obtain ⟨hx, hrest⟩ := List.forall_mem_cons.1 hall
    rw [List.findSome?_cons]
    cases hfx : f x with
    | some b =>
      rw [hfx] at hx
      exact hx.resolve_left (Option.some_ne_none b)
    | none =>
      refine ih hrest fun hne => ?_
      obtain ⟨y, hy, hfy⟩ := hsome hne
      rcases List.mem_cons.1 hy with rfl | hy
      · exact absurd (hfy.symm.trans hfx) hne
      · exact ⟨y, hy, hfy⟩

/-- **Of the lines of an entry, the first that matches says what the entry says.** -/
theorem findSome?_rulesFor {e : NatEntry} {sources : PrefixSet}
    (h : PrefixSet.parse e.sources = .ok sources) (interface : String) (a : Address) :
    (e.rulesFor sources).findSome? (fun rule => Ruleset.matching? interface a (natLine rule)) =
      e.says? interface a := by
  have hsaid : e.says? interface a
      = if e.outInterface = interface ∧ a ∈ sources ∧ ∀ b ∈ e.address, b.family = a.family then
          some (natReading ⟨e.outInterface, a.family, sources.ofFamily a.family, e.address⟩)
            else none := by
    unfold says?
    rw [h]
    dsimp only [natReading, actionWords]
    cases e.address <;> rfl
  rw [hsaid]
  refine findSome?_eq_of_forall ?_ ?_
  · intro rule hrule
    obtain ⟨hinterface, haddress, hfamily, hsources, hne⟩ := mem_rulesFor.1 hrule
    rw [Ruleset.matching?_natLine hne]
    split
    · -- the line is of the family of the address, so it is the only one that matches
      rename_i hmatch
      obtain ⟨rfl, hsame, hcovered⟩ := hmatch
      have hrule : rule = ⟨e.outInterface, a.family, sources.ofFamily a.family, e.address⟩ := by
        obtain ⟨outInterface, f, prefixes, address⟩ := rule
        dsimp only at hinterface haddress hsame hsources
        rw [hinterface, haddress, hsources, hsame]
      rw [hsources, hsame, PrefixSet.exists_mem_ofFamily_iff] at hcovered
      rw [hsame] at hfamily
      rw [if_pos ⟨hinterface.symm, hcovered, hfamily⟩, hrule]
      exact .inr rfl
    · exact .inl rfl
  · intro hsome
    split at hsome
    · rename_i happlies
      obtain ⟨hinterface, hcovered, hfamily⟩ := happlies
      have hsource := PrefixSet.exists_mem_ofFamily_iff.2 hcovered
      have hne : sources.ofFamily a.family ≠ [] := by
        obtain ⟨p, hp, -⟩ := hsource
        exact List.ne_nil_of_mem hp
      refine ⟨⟨e.outInterface, a.family, sources.ofFamily a.family, e.address⟩,
        mem_rulesFor.2 ⟨rfl, rfl, hfamily, rfl, hne⟩, ?_⟩
      rw [Ruleset.matching?_natLine hne, if_pos ⟨hinterface, rfl, hsource⟩,
        if_pos ⟨hinterface, hcovered, hfamily⟩]
    · exact absurd rfl hsome

end NatEntry

namespace Ruleset

/-! ### The lines of all entries -/

/-- The lines of a ruleset before its NAT lines. -/
def linesBeforeNat (r : Ruleset) : List String :=
  ["# Generated by nftwall. Manual changes are overwritten on the next reconcile.", ""] ++
    r.filterTable ++ [""]
    ++ tableStart "nftwall_nat"
    ++ ["    chain postrouting \x7b",
      "        type nat hook postrouting priority srcnat; policy accept;"]

theorem lines_eq_linesBeforeNat (r : Ruleset) (rules : List NatRule) :
    r.lines rules = r.linesBeforeNat ++ rules.map natLine ++ ["    \x7d", "\x7d"] := by
  unfold lines natTable linesBeforeNat
  simp only [List.append_assoc]

/-- What the chain of NAT lines begins with, and what it ends with. -/
def natChainStart : String := "        type nat hook postrouting priority srcnat; policy accept;"

def chainEnd : String := "    \x7d"

/-- The NAT lines of a text: what stands behind the last line that begins a chain of NAT lines, up
to the line that ends the chain. -/
def readNatLines (text : String) : List String :=
  let behind := ((readLines text).reverse.takeWhile (· ≠ natChainStart)).reverse
  behind.takeWhile (· ≠ chainEnd)

theorem natLine_ne (rule : NatRule) : natLine rule ≠ natChainStart ∧ natLine rule ≠ chainEnd := by
  have hword : ∃ rest, (natLine rule).toList = "        o".toList ++ rest := by
    have hstart : "        oifname \"" = "        o" ++ "ifname \"" := by decide
    unfold natLine
    rw [hstart]
    simp only [String.append_assoc, String.toList_append]
    exact ⟨_, rfl⟩
  obtain ⟨rest, hrest⟩ := hword
  constructor
  · intro h
    rw [h] at hrest
    simp [natChainStart] at hrest
  · intro h
    rw [h] at hrest
    simp [chainEnd] at hrest

/-- **NAT lines are read back from the text,** whatever the rest of the ruleset is. -/
theorem readNatLines_unlines (r : Ruleset) {rules : List NatRule}
    (h : ∀ rule ∈ rules, OneLine rule.outInterface) :
    readNatLines (unlines (r.linesBeforeNat ++ rules.map natLine ++ [chainEnd, "\x7d"])) =
      rules.map natLine := by
  obtain ⟨before, hbefore⟩ : ∃ before, r.linesBeforeNat = before ++ [natChainStart] :=
    ⟨_, (List.append_assoc _ ["    chain postrouting \x7b"] [natChainStart]).symm⟩
  have hlines : ∀ l ∈ natChainStart :: (rules.map natLine ++ [chainEnd, "\x7d"]), OneLine l := by
    refine List.forall_mem_cons.2 ⟨.ofList rfl, List.forall_mem_append.2 ⟨?_, ?_⟩⟩
    · exact List.forall_mem_map.2 fun rule hrule => oneLine_natLine (h rule hrule)
    · exact List.forall_mem_cons.2 ⟨.ofList rfl, List.forall_mem_singleton.2 (.ofList rfl)⟩
  have hread := readLines_unlines_append before hlines
  have hstart : ∀ l ∈ (rules.map natLine ++ [chainEnd, "\x7d"]).reverse,
      decide (l ≠ natChainStart) = true := by
    intro l hl
    rcases List.mem_append.1 (List.mem_reverse.1 hl) with hl | hl
    · obtain ⟨rule, -, rfl⟩ := List.mem_map.1 hl
      exact decide_eq_true (natLine_ne rule).1
    · exact (by decide : ∀ l ∈ [chainEnd, "\x7d"], decide (l ≠ natChainStart) = true) l hl
  have hend : ∀ l ∈ rules.map natLine, decide (l ≠ chainEnd) = true :=
    List.forall_mem_map.2 fun rule _ => decide_eq_true (natLine_ne rule).2
  unfold readNatLines
  rw [hbefore, List.append_assoc, List.append_assoc, List.singleton_append, hread,
    List.reverse_append, List.reverse_cons, List.append_assoc,
    List.takeWhile_append_of_pos hstart, List.singleton_append,
    List.takeWhile_cons_of_neg (by simp), List.append_nil, List.reverse_reverse,
    List.takeWhile_append_of_pos hend, List.takeWhile_cons_of_neg (by simp), List.append_nil]

theorem render_eq_error_iff {r : Ruleset} {invalid : Prefix.Invalid} :
    r.render = .error invalid ↔ NatEntry.allRules r.nat = .error invalid := by
  unfold render
  rw [Attempt.bind_eq_error]
  simp [pure, Except.pure]

theorem render_eq_ok_iff {r : Ruleset} {text : String} : r.render = .ok text ↔
    ∃ rules, NatEntry.allRules r.nat = .ok rules ∧
    text = unlines (r.linesBeforeNat ++ rules.map natLine ++ ["    \x7d", "\x7d"]) := by
  unfold render
  rw [Attempt.bind_eq_ok]
  simp only [pure, Except.pure, Except.ok.injEq, lines_eq_linesBeforeNat, eq_comm]

/-- A line says something about one family only: its sources are of the family, and it hides them
behind the interface or behind an address of the family. -/
structure NatReading.OfOneFamily (n : NatReading) : Prop where
  sources : ∀ p ∈ n.sources, p.family = n.family
  action : n.action = ["masquerade"] ∨
    ∃ b : Address, b.family = n.family ∧ n.action = ["snat", n.family.keyword, "to", b.text]

theorem ofOneFamily_natReading {e : NatEntry} {sources : PrefixSet} {rule : NatRule}
    (h : rule ∈ e.rulesFor sources) :
    (natReading rule).OfOneFamily := by
  obtain ⟨-, haddress, hfamily, hsources, -⟩ := NatEntry.mem_rulesFor.1 h
  constructor
  · intro p hp
    have hmem : p ∈ rule.sources := hp
    rw [hsources] at hmem
    exact (PrefixSet.mem_ofFamily.1 hmem).2
  · dsimp only [natReading, actionWords]
    rw [haddress]
    cases hb : e.address with
    | none => exact .inl rfl
    | some b => exact .inr ⟨b, hfamily b hb, rfl⟩

/--
**NAT lines cover exactly the sources of their entries.**  Rendering is refused for the first of all
sources that is no prefix.  Where it is not, the text ends in one chain of NAT lines, which are read
back from the text if no interface has a name with a line feed.  For every interface and every
address, the first of these lines that is for the interface and has the address among its sources
says what the first entry says that is for the interface, covers the address with its sources, and
does not hide them behind an address of the other family. Every line is about one family only.
-/
theorem nat_lines_cover_sources (r : Ruleset) :
    (∀ invalid, r.render = .error invalid ↔ ∃ before source after,
      r.nat.flatMap (·.sources) = before ++ source :: after ∧
      (∀ s ∈ before, ∃ p, Prefix.parse s = .ok p) ∧
        Prefix.parse source = .error invalid) ∧
    ∀ text, r.render = .ok text →
    ∃ lines, text = unlines (r.linesBeforeNat ++ lines ++ ["    \x7d", "\x7d"]) ∧
      ((∀ e ∈ r.nat, OneLine e.outInterface) → readNatLines text = lines) ∧
      (∀ interface a,
        lines.findSome? (matching? interface a) = r.nat.findSome? (NatEntry.says? interface a)) ∧
      ∀ line ∈ lines, (∃ interface n, readNatLine? interface line = some n) ∧
        ∀ interface n, readNatLine? interface line = some n → n.OfOneFamily := by
  constructor
  · intro invalid
    rw [render_eq_error_iff, NatEntry.allRules_eq_error_iff]
    exact Attempt.mapM_eq_error_iff
  · intro text h
    obtain ⟨rules, hrules, htext⟩ := render_eq_ok_iff.1 h
    obtain ⟨parsed, hentries, hparsed, rfl⟩ := NatEntry.exists_of_allRules_eq_ok hrules
    refine ⟨_, htext, fun hnames => ?_, ?_, ?_⟩
    · rw [htext]
      refine readNatLines_unlines r fun rule hrule => ?_
      obtain ⟨p, hp, hrule⟩ := List.mem_flatMap.1 hrule
      rw [(NatEntry.mem_rulesFor.1 hrule).1]
      exact hnames p.1 (hentries ▸ List.mem_map_of_mem hp)
    · intro interface a
      rw [List.findSome?_map, ← hentries, List.findSome?_map]
      clear hentries hrules htext
      induction parsed with
      | nil => rfl
      | cons p rest ih =>
        obtain ⟨hp, hrest⟩ := List.forall_mem_cons.1 hparsed
        have hfirst := NatEntry.findSome?_rulesFor hp interface a
        rw [List.flatMap_cons, List.findSome?_append, List.findSome?_cons, ih hrest]
        show (List.findSome? (fun rule => matching? interface a (natLine rule)) _).or _ = _
        rw [hfirst]
        cases hsaid : NatEntry.says? interface a p.1 <;> simp [hsaid]
    · intro line hline
      obtain ⟨rule, hrule, rfl⟩ := List.mem_map.1 hline
      obtain ⟨p, -, hrule⟩ := List.mem_flatMap.1 hrule
      have hne := (NatEntry.mem_rulesFor.1 hrule).2.2.2.2
      refine ⟨⟨rule.outInterface, natReading rule, by rw [readNatLine?_natLine hne, if_pos rfl]⟩,
        ?_⟩
      intro interface n hn
      rw [readNatLine?_natLine hne] at hn
      split at hn
      · cases hn
        exact ofOneFamily_natReading hrule
      · exact nomatch hn

/-- An entry for sources of both families that hides them behind an IPv6 address, and
one for two halves of a prefix. -/
def sampleNat : Ruleset where
  nat := [
    { outInterface := "eth0", sources := ["10.0.0.0/8", "fd00::/8"],
      address := some ⟨.v6, 1, by decide⟩ },
    { outInterface := "eth0", sources := ["10.128.0.0/9", "10.0.0.0/9"] }]

/-- The first entry has no line for IPv4 sources, so the second decides about
them, and its halves are merged. -/
theorem nat_lines_cover_sources_sampleNat :
    ∃ text, sampleNat.render = .ok text ∧
      (readNatLines text).findSome? (matching? "eth0" ⟨.v4, 0x0A010203, by decide⟩)
        = some ⟨.v4, [.ofAddress ⟨.v4, 0x0A000000, by decide⟩ 8 (by decide)], ["masquerade"]⟩ ∧
      (readNatLines text).findSome?
          (matching? "eth0" ⟨.v6, 0xFD000000000000000000000000000001, by decide⟩)
        = some ⟨.v6, [.ofAddress
          ⟨.v6, 0xFD000000000000000000000000000000, by decide⟩ 8 (by decide)],
            ["snat", "ip6", "to", "::1"]⟩ ∧
      (readNatLines text).findSome? (matching? "eth1" ⟨.v4, 0x0A010203, by decide⟩) = none := by
  obtain ⟨rules, hrules⟩ :=
    Attempt.isOk_iff.1 (by decide +kernel : (NatEntry.allRules sampleNat.nat).isOk = true)
  obtain ⟨text, htext⟩ : ∃ text, sampleNat.render = .ok text :=
    ⟨_, render_eq_ok_iff.2 ⟨rules, hrules, rfl⟩⟩
  obtain ⟨lines, -, hread, hsaid, -⟩ := (nat_lines_cover_sources sampleNat).2 text htext
  have hnames : ∀ e ∈ sampleNat.nat, OneLine e.outInterface :=
    List.forall_mem_cons.2 ⟨.ofList rfl, List.forall_mem_singleton.2 (.ofList rfl)⟩
  refine ⟨text, htext, ?_, ?_, ?_⟩
  · rw [hread hnames, hsaid]
    decide +kernel
  · rw [hread hnames, hsaid]
    decide +kernel
  · rw [hread hnames, hsaid]
    decide +kernel

end Ruleset

end Firewall
