/-
The comments of set declarations.

The comment of a rule is made fit to be read: it takes at most 128 bytes and holds neither a quote
nor a control character (`Comment.sanitized_acceptable`).  The comment of a set is the name that the
set is for, as it is.  So the comments in the set declarations of a ruleset are the names of its
sets, and nothing else in the ruleset is one (`setComments_lines`).

Of a cache these are the names whose last answer counts.  The ruleset has comments that
can be read exactly if all those names are such comments themselves
(`set_comments_acceptable_iff`), and a name is whatever a response said it is.
-/
import Firewall.Proofs.Attempt
import Firewall.Proofs.Cache.Lookup
import Firewall.Proofs.Cache.Retention
import Firewall.Proofs.Rule.Comment
import Firewall.Ruleset.Render

namespace Firewall

namespace Ruleset

/-! ### Reading the comments of set declarations -/

/-- What the declaration of a set begins with. -/
def setStart : String := "    set "

/-- What the line of a comment begins with in the declaration of a set. -/
def commentStart : String := "        comment \""

/-- The line that ends a declaration. -/
def declarationEnd : String := "    \x7d"

/-- Whether a line begins the declaration of a set. -/
def opensSet (line : String) : Bool := setStart.toList.isPrefixOf line.toList

/-- What stands between the quotes, if a line of a declaration is a comment. -/
def commentOf? (line : String) : Option String :=
  let rest := line.toList.drop commentStart.toList.length
  if commentStart.toList.isPrefixOf line.toList ∧ rest.getLast? = some '"' then
    some (String.ofList rest.dropLast)
  else none

/-- The comments in the declarations of sets, from inside one or from outside. -/
def setCommentsFrom (inside : Bool) : List String → List String
  | [] => []
  | line :: rest =>
    if opensSet line then setCommentsFrom true rest
    else if line = declarationEnd then setCommentsFrom false rest
    else if inside then (commentOf? line).toList ++ setCommentsFrom true rest
    else setCommentsFrom false rest

/-- The comments in the declarations of sets. -/
def setComments (lines : List String) : List String := setCommentsFrom false lines

/-! ### Lines that are passed over -/

theorem toList_setStart : setStart.toList = [' ', ' ', ' ', ' ', 's', 'e', 't', ' '] :=
  String.toList_ofList

/-- A line that is written out begins a declaration if its characters
do.  No text is unfolded to bytes. -/
theorem opensSet_ofList {l : List Char}
    (h : [' ', ' ', ' ', ' ', 's', 'e', 't', ' '].isPrefixOf l = false) :
    opensSet (String.ofList l) = false := by
  unfold opensSet
  rw [toList_setStart, String.toList_ofList, h]

theorem opensSet_ofList_append {l : List Char}
    (h : ∀ rest, [' ', ' ', ' ', ' ', 's', 'e', 't', ' '].isPrefixOf (l ++ rest) = false)
    (more : String) :
    opensSet (String.ofList l ++ more) = false := by
  unfold opensSet
  rw [toList_setStart, String.toList_append, String.toList_ofList, h]

/-- A line that stands inside a declaration or a chain. -/
def Deep (line : String) : Prop := "        ".toList <+: line.toList

theorem Deep.append {line : String} (h : Deep line) (more : String) : Deep (line ++ more) := by
  unfold Deep
  rw [String.toList_append]
  exact h.trans (List.prefix_append _ _)

theorem Deep.not_opensSet {line : String} (h : Deep line) : opensSet line = false := by
  obtain ⟨rest, hrest⟩ := h
  unfold opensSet
  rw [← hrest]
  rfl

theorem Deep.ne_end {line : String} (h : Deep line) : line ≠ declarationEnd := by
  rintro rfl
  unfold Deep at h
  exact absurd h (by decide)

/-- Lines without comments of sets, outside of declarations. -/
def Silent (ls : List String) : Prop := ∀ rest, setComments (ls ++ rest) = setComments rest

theorem Silent.nil : Silent [] := fun _ => rfl

theorem Silent.append {ls ms : List String} (hl : Silent ls) (hm : Silent ms) :
    Silent (ls ++ ms) := by
  intro rest
  rw [List.append_assoc, hl, hm]

theorem Silent.of_not_opensSet {ls : List String} (h : ∀ line ∈ ls, opensSet line = false) :
    Silent ls := by
  induction ls with
  | nil => exact .nil
  | cons line ls ih =>
    intro rest
    rw [← ih (fun l hl => h l (List.mem_cons_of_mem _ hl)) rest]
    unfold setComments
    rw [List.cons_append, setCommentsFrom, h line List.mem_cons_self]
    simp

theorem Silent.cons {line : String} {ls : List String} (hline : opensSet line = false)
    (h : Silent ls) :
    Silent (line :: ls) :=
  .append (.of_not_opensSet (List.forall_mem_singleton.2 hline)) h

theorem Silent.of_deep {ls : List String} (h : ∀ line ∈ ls, Deep line) : Silent ls :=
  .of_not_opensSet fun line hline => (h line hline).not_opensSet

theorem silent_blank : Silent [""] := .cons (opensSet_ofList rfl) .nil

theorem silent_end : Silent ["    \x7d"] := .cons (opensSet_ofList rfl) .nil

/-! ### Declarations -/

/-- A line of a declaration that is no comment. -/
structure Wordless (line : String) : Prop where
  deep : Deep line
  none : commentOf? line = none

theorem Wordless.skip {line : String} (h : Wordless line) (rest : List String) :
    setCommentsFrom true (line :: rest) = setCommentsFrom true rest := by
  rw [setCommentsFrom, h.deep.not_opensSet, if_neg Bool.false_ne_true, if_neg h.deep.ne_end,
    if_pos rfl, h.none]
  rfl

theorem setCommentsFrom_end {ls : List String} (h : ∀ line ∈ ls, Wordless line)
    (rest : List String) :
    setCommentsFrom true (ls ++ declarationEnd :: rest) = setComments rest := by
  induction ls with
  | nil => rfl
  | cons line ls ih =>
    rw [List.cons_append, (h line List.mem_cons_self).skip]
    exact ih fun l hl => h l (List.mem_cons_of_mem _ hl)

theorem setComments_open (name : String) (rest : List String) :
    setComments (("    set " ++ name ++ " \x7b") :: rest) = setCommentsFrom true rest := by
  have hopens : opensSet ("    set " ++ name ++ " \x7b") = true := by
    unfold opensSet
    rw [List.isPrefixOf_iff_prefix, String.append_assoc, String.toList_append]
    exact List.prefix_append _ _
  unfold setComments
  rw [setCommentsFrom, if_pos hopens]

theorem wordless_type (family : Family) : Wordless ("        type " ++ family.setType) := by
  cases family with
  | v4 => exact ⟨by unfold Deep; decide, by decide⟩
  | v6 => exact ⟨by unfold Deep; decide, by decide⟩

theorem wordless_elements (texts : List String) : ∀ line ∈ elementLines texts, Wordless line := by
  intro line hline
  unfold elementLines at hline
  split at hline
  · exact absurd hline List.not_mem_nil
  · rw [List.mem_singleton.1 hline, String.append_assoc]
    have hdeep : Deep "        elements = \x7b " := by
      unfold Deep
      decide
    refine ⟨hdeep.append _, ?_⟩
    unfold commentOf?
    rw [String.toList_append]
    have hother : commentStart.toList.isPrefixOf
        ("        elements = \x7b ".toList ++ (String.intercalate ", " texts ++ " \x7d").toList) =
          false := rfl
    rw [hother]
    exact if_neg fun h => Bool.false_ne_true h.1

theorem commentOf?_comment (c : String) : commentOf? (commentStart ++ c ++ "\"") = some c := by
  have hrest : (commentStart ++ c ++ "\"").toList = commentStart.toList ++ (c.toList ++ ['"']) := by
    rw [String.append_assoc, String.toList_append, String.toList_append]
    rfl
  have hprefix :
      commentStart.toList.isPrefixOf (commentStart.toList ++ (c.toList ++ ['"'])) = true :=
    List.isPrefixOf_iff_prefix.2 (List.prefix_append _ _)
  unfold commentOf?
  rw [hrest, List.drop_left, hprefix, if_pos ⟨rfl, List.getLast?_concat⟩, List.dropLast_concat,
    String.ofList_toList]

/-- **The declaration of a set has one comment, the name that the set is for.** -/
theorem setComments_namedSetLines (s : NamedSet) (rest : List String) :
    setComments (namedSetLines s ++ rest) = s.fqdn :: setComments rest := by
  have hdeep : Deep ("        comment \"" ++ s.fqdn ++ "\"") := by
    have hstart : Deep "        comment \"" := by
      unfold Deep
      decide
    exact (hstart.append _).append _
  have hcomment : setCommentsFrom true (("        comment \"" ++ s.fqdn ++ "\"")
      :: (elementLines ((Ascending.ofList s.addresses).toList.map Address.text) ++
        (declarationEnd :: rest)))
      = s.fqdn :: setComments rest := by
    rw [setCommentsFrom, hdeep.not_opensSet, if_neg Bool.false_ne_true, if_neg hdeep.ne_end,
      if_pos rfl, setCommentsFrom_end (wordless_elements _)]
    show (commentOf? (commentStart ++ s.fqdn ++ "\"")).toList ++ _ = _
    rw [commentOf?_comment]
    rfl
  unfold namedSetLines
  rw [List.append_assoc, List.append_assoc]
  show setComments ([""] ++ _) = _
  rw [silent_blank]
  show setComments (("    set " ++ s.setName ++ " \x7b") :: _) = _
  rw [setComments_open]
  exact (Wordless.skip (wordless_type s.family) _).trans hcomment

/-- The sets of the cluster's own prefixes are declared without a comment. -/
theorem silent_clusterSetLines (r : Ruleset) (family : Family) :
    Silent (r.clusterSetLines family) := by
  intro rest
  have hlines : ∀ line ∈ ("        type " ++ family.setType) :: "        flags interval" ::
      "        auto-merge"
      :: elementLines ((r.clusterPrefixes.ofFamily family).map Prefix.text), Wordless line := by
    refine List.forall_mem_cons.2
      ⟨wordless_type family, List.forall_mem_cons.2 ⟨?_, List.forall_mem_cons.2 ⟨?_, ?_⟩⟩⟩
    · exact ⟨by unfold Deep; decide, by decide⟩
    · exact ⟨by unfold Deep; decide, by decide⟩
    · exact wordless_elements _
  unfold clusterSetLines
  rw [List.append_assoc, List.append_assoc]
  show setComments (("    set " ++ clusterSetName family ++ " \x7b") :: _) = _
  rw [setComments_open]
  exact setCommentsFrom_end hlines rest

/-! ### The rest of a ruleset -/

theorem silent_tableStart (name : String) : Silent (tableStart name) := by
  unfold tableStart
  rw [String.append_assoc]
  refine .cons ?_ (.cons ?_ (.cons (opensSet_ofList rfl) (.cons ?_ .nil)))
  · exact opensSet_ofList_append (fun _ => rfl) _
  · exact opensSet_ofList_append (fun _ => rfl) _
  · exact opensSet_ofList_append (fun _ => rfl) _

theorem silent_title :
    Silent ["# Generated by nftwall. Manual changes are overwritten on the next reconcile.", ""] :=
  .cons (opensSet_ofList rfl) (.cons (opensSet_ofList rfl) .nil)

theorem silent_forwardChain : Silent forwardChain := by
  refine .of_not_opensSet ?_
  simp only [forwardChain, List.forall_mem_cons, List.not_mem_nil, false_implies,
    implies_true, and_true]
  and_intros <;> exact opensSet_ofList rfl

theorem silent_inputChain (dnsProxy : Option Endpoint) : Silent (inputChain dnsProxy) := by
  have hproxy : Silent ((dnsProxy.map proxyLines).getD []) := by
    cases dnsProxy with
    | none => exact .nil
    | some e =>
      refine .of_deep ?_
      intro line hline
      obtain ⟨protocol, -, rfl⟩ := List.mem_map.1 hline
      have hindent : Deep "        " := List.prefix_refl _
      exact ((((hindent.append _).append _).append _).append _).append _
  refine .append (.append (.of_not_opensSet ?_) hproxy) silent_end
  simp only [List.forall_mem_cons, List.not_mem_nil, false_implies, implies_true, and_true]
  and_intros <;> exact opensSet_ofList rfl

theorem silent_ruleChain (name : String) (rules : List String) : Silent (ruleChain name rules) := by
  have hrules : Silent (rules.map ("        " ++ ·)) := by
    refine .of_deep ?_
    intro line hline
    obtain ⟨rule, -, rfl⟩ := List.mem_map.1 hline
    have hindent : Deep "        " := List.prefix_refl _
    exact hindent.append rule
  unfold ruleChain
  rw [String.append_assoc]
  exact .append (.cons (opensSet_ofList_append (fun _ => rfl) _) hrules) silent_end

theorem silent_rateLimitChain (limits : List RateLimit) : Silent (rateLimitChain limits) := by
  have hlimits : Silent (limits.map rateLimitLine) := by
    refine .of_deep ?_
    intro line hline
    obtain ⟨limit, -, rfl⟩ := List.mem_map.1 hline
    have hindent : Deep "        iifname \"" := by
      unfold Deep
      decide
    exact (((((hindent.append _).append _).append _).append _).append _).append _
  unfold rateLimitChain
  split
  · exact .nil
  · refine .append (.append (.of_not_opensSet ?_) hlimits) silent_end
    simp only [List.forall_mem_cons, List.not_mem_nil, false_implies, implies_true, and_true]
    and_intros <;> exact opensSet_ofList rfl

theorem silent_natTable (rules : List NatRule) : Silent (natTable rules) := by
  have hrules : Silent (rules.map natLine) := by
    refine .of_deep ?_
    intro line hline
    obtain ⟨rule, -, rfl⟩ := List.mem_map.1 hline
    have hindent : Deep "        oifname \"" := by
      unfold Deep
      decide
    unfold natLine
    simp only [String.append_assoc]
    exact hindent.append _
  have hchain : Silent ["    chain postrouting \x7b",
    "        type nat hook postrouting priority srcnat; policy accept;"] :=
    .cons (opensSet_ofList rfl) (.cons (opensSet_ofList rfl) .nil)
  have hend : Silent ["    \x7d", "\x7d"] :=
    .cons (opensSet_ofList rfl) (.cons (opensSet_ofList rfl) .nil)
  exact .append (.append (.append (silent_tableStart _) hchain) hrules) hend

theorem setComments_flatMap (sets : List NamedSet) (rest : List String) :
    setComments (sets.flatMap namedSetLines ++ rest) = sets.map (·.fqdn) ++ setComments rest := by
  induction sets with
  | nil => rfl
  | cons s sets ih =>
    rw [List.flatMap_cons, List.append_assoc, setComments_namedSetLines, ih]
    rfl

/-- The lines before the named sets. -/
def linesBefore (r : Ruleset) : List String :=
  ["# Generated by nftwall. Manual changes are overwritten on the next reconcile.", ""]
  ++ tableStart "nftwall" ++ r.clusterSetLines .v4 ++ [""] ++ r.clusterSetLines .v6

/-- The lines behind the named sets. -/
def linesAfter (r : Ruleset) (nat : List NatRule) : List String :=
  [""] ++ inputChain r.dnsProxy
  ++ [""] ++ forwardChain
  ++ [""] ++ ruleChain "firewall_ingress" r.ingress
  ++ [""] ++ ruleChain "firewall_egress" r.egress
  ++ rateLimitChain r.rateLimits
  ++ ["\x7d", ""] ++ natTable nat

theorem lines_eq (r : Ruleset) (nat : List NatRule) :
    r.lines nat = r.linesBefore ++
      (r.setsByName.values.flatMap namedSetLines ++ r.linesAfter nat) := by
  unfold lines filterTable linesBefore linesAfter
  simp only [List.append_assoc]
  rfl

theorem silent_linesBefore (r : Ruleset) : Silent r.linesBefore := by
  have hhead : Silent
      (["# Generated by nftwall. Manual changes are overwritten on the next reconcile.", ""]
      ++ tableStart "nftwall") := silent_title.append (silent_tableStart _)
  exact ((hhead.append (silent_clusterSetLines r .v4)).append silent_blank).append
    (silent_clusterSetLines r .v6)

theorem silent_linesAfter (r : Ruleset) (nat : List NatRule) : Silent (r.linesAfter nat) := by
  have hchains : Silent ([""] ++ inputChain r.dnsProxy ++ [""] ++ forwardChain) :=
    ((silent_blank.append (silent_inputChain _)).append silent_blank).append silent_forwardChain
  have hrules : Silent ([""] ++ inputChain r.dnsProxy ++ [""] ++ forwardChain
      ++ [""] ++ ruleChain "firewall_ingress" r.ingress ++ [""] ++
        ruleChain "firewall_egress" r.egress) :=
    (((hchains.append silent_blank).append (silent_ruleChain _ _)).append silent_blank).append
      (silent_ruleChain _ _)
  have hend : Silent ["\x7d", ""] := .cons (opensSet_ofList rfl) silent_blank
  exact ((hrules.append (silent_rateLimitChain _)).append hend).append (silent_natTable nat)

/-- **The comments in the set declarations of a ruleset are the names that its sets are for.** -/
theorem setComments_lines (r : Ruleset) (nat : List NatRule) :
    setComments (r.lines nat) = r.setsByName.values.map (·.fqdn) := by
  have hafter := silent_linesAfter r nat []
  rw [List.append_nil] at hafter
  rw [lines_eq, silent_linesBefore, setComments_flatMap, hafter]
  exact List.append_nil _

/-! ### The names of a cache -/

variable {forwarder : Endpoint} {events : List Cache.Event} {now : Instant}

/-- Every set of a cache that is rendered is declared: no two have one name. -/
theorem mem_setsByName {r : Ruleset}
    (hsets : r.sets = ((Cache.fresh forwarder).run events).setsForRendering now) {s : NamedSet} :
    s ∈ r.setsByName.values ↔ s ∈ ((Cache.fresh forwarder).run events).liveSets now := by
  have hc := (Cache.Coherent.fresh forwarder).run events
  have hrestored : ((Cache.fresh forwarder).run events).restored = [] :=
    Cache.restored_run rfl events
  have hmem : ∀ t, t ∈ r.sets ↔ t ∈ ((Cache.fresh forwarder).run events).liveSets now := by
    intro t
    rw [hsets]
    exact Cache.mem_setsForRendering hrestored hc
  unfold setsByName
  rw [Dictionary.mem_values_foldl_insertNew, hmem]
  intro v hv w hw
  exact Cache.eq_of_setName_eq hc ((hmem v).1 hv) ((hmem w).1 hw)

/-- **The comments are the names that have an answer which counts.** -/
theorem mem_setComments_iff {r : Ruleset}
    (hsets : r.sets = ((Cache.fresh forwarder).run events).setsForRendering now)
    (nat : List NatRule) {name : String} : name ∈ setComments (r.lines nat) ↔
      ∃ family expiration, Cache.HeldUntil events ⟨name, family⟩ expiration ∧ now < expiration := by
  rw [setComments_lines, List.mem_map]
  constructor
  · rintro ⟨s, hs, rfl⟩
    obtain ⟨o, record, hrecord, hlive, rfl⟩ := Cache.mem_liveSets.1 ((mem_setsByName hsets).1 hs)
    refine ⟨o.family, record.expiration, ?_, of_decide_eq_true hlive⟩
    rw [← Cache.recorded_iff_heldUntil forwarder]
    show (Cache.recorded _ o).map _ = _
    rw [Cache.recorded, hrecord]
    rfl
  · rintro ⟨family, expiration, hheld, hnow⟩
    have hrecorded :=
      (Cache.recorded_iff_heldUntil forwarder events ⟨name, family⟩ expiration).2 hheld
    rw [Cache.recorded, Option.map_map, Option.map_eq_some_iff] at hrecorded
    obtain ⟨record, hrecord, rfl⟩ := hrecorded
    refine ⟨record.toNamedSet ⟨name, family⟩, ?_, rfl⟩
    rw [mem_setsByName hsets, Cache.mem_liveSets]
    exact ⟨_, record, hrecord, decide_eq_true hnow, rfl⟩

/--
**The comments of the declared sets can be read exactly if the names that were answered can.**  The
names are those whose last answer counts when the ruleset is rendered; what else is in the ruleset
has no part in it.
-/
theorem set_comments_acceptable_iff {r : Ruleset}
    (hsets : r.sets = ((Cache.fresh forwarder).run events).setsForRendering now) {text : String}
    (hrender : r.render = .ok text) :
    ∃ nat, NatEntry.allRules r.nat = .ok nat ∧ text = unlines (r.lines nat) ∧
      ((∀ comment ∈ setComments (r.lines nat), Comment.Acceptable comment) ↔
        ∀ name family expiration, Cache.HeldUntil events ⟨name, family⟩ expiration →
          now < expiration → Comment.Acceptable name) := by
  unfold render at hrender
  obtain ⟨nat, hnat, htext⟩ := Attempt.bind_eq_ok.1 hrender
  refine ⟨nat, hnat, (Except.ok.inj htext).symm, ?_⟩
  constructor
  · intro h name family expiration hheld hnow
    exact h name ((mem_setComments_iff hsets nat).2 ⟨family, expiration, hheld, hnow⟩)
  · intro h comment hcomment
    obtain ⟨family, expiration, hheld, hnow⟩ := (mem_setComments_iff hsets nat).1 hcomment
    exact h comment family expiration hheld hnow

/-! ### A name that is no comment -/

/-- A response for a name with a quote in it, which its text has behind a backslash. -/
def quotedResponse : Dns.Message where
  isResponse := true
  questions := [⟨"a\\\"b.example.", .a⟩]
  answers := [⟨"a\\\"b.example.", 300, some ⟨.v4, 1, by decide⟩⟩]

/-- The ruleset with the sets of a cache that has seen this response, and nothing else. -/
def quotedRuleset : Ruleset where
  sets := ((Cache.fresh default).run [.response default quotedResponse]).setsForRendering default

private theorem quoted_held :
    Cache.HeldUntil [.response default quotedResponse] ⟨"a\\\"b.example.", .v4⟩
    ((default : Instant).addSeconds 300) := by
  refine ⟨default, ⟨"a\\\"b.example.", some .a, [(⟨.v4, 1, by decide⟩, 300)]⟩, [],
    ⟨⟨[], _, rfl, ?_⟩, ?_, ?_⟩, ?_, ?_⟩
  · decide
  · decide
  · simp
  · decide
  · simp

private theorem quoted_not_acceptable : ¬ Comment.Acceptable "a\\\"b.example." := by
  rintro ⟨-, hchars⟩
  exact (hchars '"' (by simp)).1 rfl

/-- The condition speaks of this ruleset, and fails. -/
theorem set_comments_quotedRuleset :
    quotedRuleset.sets =
      ((Cache.fresh default).run [.response default quotedResponse]).setsForRendering default ∧
    ∃ text, quotedRuleset.render = .ok text ∧
      ∃ nat, NatEntry.allRules quotedRuleset.nat = .ok nat ∧
      text = unlines (quotedRuleset.lines nat) ∧
        ¬ ∀ comment ∈ setComments (quotedRuleset.lines nat), Comment.Acceptable comment := by
  obtain ⟨nat, hnat, htext, hiff⟩ := set_comments_acceptable_iff (r := quotedRuleset) rfl rfl
  refine ⟨rfl, _, rfl, nat, hnat, htext, ?_⟩
  intro hacceptable
  exact quoted_not_acceptable (hiff.1 hacceptable _ _ _ quoted_held (by decide))

/-- **The comment of a set need not be one that can be read.** -/
theorem exists_unacceptable_set_comment :
    ∃ text, quotedRuleset.render = .ok text ∧ text = unlines (quotedRuleset.lines []) ∧
      ∃ comment ∈ setComments (quotedRuleset.lines []), ¬ Comment.Acceptable comment := by
  refine ⟨_, rfl, rfl, "a\\\"b.example.", ?_, quoted_not_acceptable⟩
  exact (mem_setComments_iff (r := quotedRuleset) rfl []).2 ⟨.v4, _, quoted_held, by decide⟩

end Ruleset

end Firewall
