/-
The text of a ruleset can be taken apart.

A text is cut into lines at its line feeds, so two lists of lines without line feeds give one text
only if they are the same list (`unlines_injective`).  From there on the parts of a ruleset are told
apart by how their lines begin.  Elements are indented further than the end of the set that they are
in; a set is declared with another word than the chain behind the last one; a rule is indented
further than the end of its chain.  Each of these facts is stated for two texts that begin with such
a part and go on in any way: the parts are the same, and so is what follows
(`elementLines_append_inj`, `declarationLines_append_inj`, `ruleChain_append_inj`).

Nothing is asked of rules and names but that they hold no line feed.  A rule that looks like the end
of its chain is indented like every rule, and a name that holds a brace stands in a line of its own.
-/
import Firewall.Proofs.Rule.Text
import Firewall.Proofs.Text.Pieces
import Firewall.Ruleset.Render

namespace Firewall.Ruleset

/-! ### Lines -/

/-- A text that is one line. -/
def OneLine (s : String) : Prop := '\n' ∉ s.toList

/-- A line that is written out is one line if its characters are.  No text is unfolded to bytes. -/
theorem OneLine.ofList {l : List Char} (h : l.elem '\n' = false) : OneLine (String.ofList l) := by
  unfold OneLine
  rw [String.toList_ofList]
  simpa using h

theorem OneLine.append {s t : String} (hs : OneLine s) (ht : OneLine t) : OneLine (s ++ t) := by
  unfold OneLine
  rw [String.toList_append, List.mem_append]
  exact not_or.2 ⟨hs, ht⟩

theorem unlines_cons (l : String) (ls : List String) :
    (unlines (l :: ls)).toList = l.toList ++ '\n' :: (unlines ls).toList := by
  unfold unlines
  simp [String.toList_join]

theorem unlines_append (ls ms : List String) : unlines (ls ++ ms) = unlines ls ++ unlines ms := by
  rw [← String.toList_inj, String.toList_append]
  unfold unlines
  simp [String.toList_join]

/-- **Lines come back from their text.** -/
theorem unlines_injective {ls ms : List String} (hl : ∀ l ∈ ls, OneLine l)
    (hm : ∀ m ∈ ms, OneLine m) (h : unlines ls = unlines ms) : ls = ms := by
  induction ls generalizing ms with
  | nil =>
    cases ms with
    | nil => rfl
    | cons m ms =>
      have hchars := congrArg String.toList h
      rw [unlines_cons] at hchars
      simp [unlines] at hchars
  | cons l ls ih =>
    cases ms with
    | nil =>
      have hchars := congrArg String.toList h
      rw [unlines_cons] at hchars
      simp [unlines] at hchars
    | cons m ms =>
      have hcut := congrArg (Text.cut '\n') (congrArg String.toList h)
      rw [unlines_cons, unlines_cons, Text.cut_append_cons (hl l List.mem_cons_self),
        Text.cut_append_cons (hm m List.mem_cons_self), Option.some.injEq, Prod.mk.injEq,
        String.toList_inj,
        String.toList_inj] at hcut
      obtain ⟨rfl, hrest⟩ := hcut
      rw [ih (fun l hl' => hl l (List.mem_cons_of_mem _ hl'))
        (fun m hm' => hm m (List.mem_cons_of_mem _ hm')) hrest]

/-- The lines of a text: what stands in it before each line feed. -/
def readLines (text : String) : List String :=
  ((Text.pieces '\n' text.toList).dropLast).map String.ofList

/-- **Lines are read back,** whatever lines are written before them. -/
theorem readLines_unlines_append (before : List String) {ls : List String}
    (h : ∀ l ∈ ls, OneLine l) :
    readLines (unlines (before ++ ls)) = readLines (unlines before) ++ ls := by
  -- what is written before ends with a line feed, so nothing of it is left for the first line
  have hbefore : ∀ rest, Text.pieces '\n' ((unlines before).toList ++ rest) =
      (Text.pieces '\n' (unlines before).toList).dropLast ++ Text.pieces '\n' rest := by
    intro rest
    rcases List.eq_nil_or_concat before with rfl | ⟨init, l, rfl⟩
    · rfl
    · have hlast : (unlines (init ++ [l])).toList =
          (unlines init).toList ++ l.toList ++ ['\n'] := by
        rw [unlines_append, String.toList_append, unlines_cons, List.append_assoc]
        rfl
      have hend := Text.pieces_append_cons '\n' ((unlines init).toList ++ l.toList) []
      rw [List.concat_eq_append, hlast, hend, List.append_assoc, List.singleton_append,
        Text.pieces_append_cons]
      exact congrArg (· ++ _) (List.dropLast_concat).symm
  have hlines : Text.pieces '\n' (unlines ls).toList = ls.map String.toList ++ [[]] := by
    induction ls with
    | nil => rfl
    | cons l rest ih =>
      obtain ⟨hl, hrest⟩ := List.forall_mem_cons.1 h
      rw [unlines_cons, Text.pieces_append_cons, Text.pieces_of_notMem hl, ih hrest]
      rfl
  unfold readLines
  rw [unlines_append, String.toList_append, hbefore, hlines, ← List.append_assoc,
    List.dropLast_concat, List.map_append, List.map_map]
  simp

/-! ### Elements -/

private theorem elements_ne_end (s : String) :
    "        elements = \x7b " ++ s ++ " \x7d" ≠ "    \x7d" := by
  intro h
  have hchars := congrArg String.toList h
  simp at hchars

/-- **Elements are told apart,** and from the end of the set that they are in. -/
theorem elementLines_append_inj {ts us : List String} (ht : ∀ t ∈ ts, Line.Plain t)
    (hu : ∀ u ∈ us, Line.Plain u) {a b : List String}
    (h : elementLines ts ++ "    \x7d" :: a = elementLines us ++ "    \x7d" :: b) :
    ts = us ∧ a = b := by
  unfold elementLines at h
  by_cases hts : ts = []
  · by_cases hus : us = []
    · rw [hts, hus] at h ⊢
      exact ⟨rfl, (List.cons.inj h).2⟩
    · rw [hts, if_pos List.isEmpty_nil, if_neg (mt List.isEmpty_iff.1 hus)] at h
      exact absurd (List.cons.inj h).1.symm (elements_ne_end _)
  · by_cases hus : us = []
    · rw [hus, if_pos List.isEmpty_nil, if_neg (mt List.isEmpty_iff.1 hts)] at h
      exact absurd (List.cons.inj h).1 (elements_ne_end _)
    · rw [if_neg (mt List.isEmpty_iff.1 hts), if_neg (mt List.isEmpty_iff.1 hus)] at h
      obtain ⟨hline, hrest⟩ := List.cons.inj h
      have hsame : String.intercalate ", " ts = String.intercalate ", " us := by simpa using hline
      -- elements that are written are read back
      have hread := Line.elements?_words hts ht []
      rw [hsame, Line.elements?_words hus hu, Option.some.injEq, Prod.mk.injEq] at hread
      exact ⟨hread.1.symm, (List.cons.inj hrest).2⟩

theorem oneLine_elementLines {ts : List String} (h : ∀ t ∈ ts, OneLine t) :
    ∀ l ∈ elementLines ts, OneLine l := by
  have hjoined : ∀ {ts : List String}, (∀ t ∈ ts, OneLine t) →
      OneLine (String.intercalate ", " ts) := by
    intro ts hts
    induction ts with
    | nil => exact .ofList rfl
    | cons t more ih =>
      obtain ⟨ht, hmore⟩ := List.forall_mem_cons.1 hts
      cases more with
      | nil => simpa using ht
      | cons u more =>
        rw [String.intercalate_cons_cons]
        exact (ht.append (.ofList rfl)).append (ih hmore)
  intro l hl
  unfold elementLines at hl
  split at hl
  · exact absurd hl List.not_mem_nil
  · rw [List.mem_singleton.1 hl]
    exact (OneLine.append (.ofList rfl) (hjoined h)).append (.ofList rfl)

theorem oneLine_prefix (p : Prefix) : OneLine p.text := by
  unfold OneLine Prefix.text
  rw [String.toList_ofList]
  exact Prefix.notMem_chars (by decide) (by decide) p

theorem plain_address (a : Address) : Line.Plain a.text := by
  unfold Line.Plain Address.text
  rw [String.toList_ofList]
  exact ⟨Address.notMem_chars (by decide) (by decide) a,
    Address.notMem_chars (by decide) (by decide) a⟩

theorem oneLine_address (a : Address) : OneLine a.text := by
  unfold OneLine Address.text
  rw [String.toList_ofList]
  exact Address.notMem_chars (by decide) (by decide) a

theorem map_prefix_text_injective {ps qs : List Prefix}
    (h : ps.map Prefix.text = qs.map Prefix.text) : ps = qs :=
  (List.map_inj_right fun _ _ hpq => Prefix.chars_injective (String.ofList_injective hpq)).1 h

theorem map_address_text_injective {as bs : List Address}
    (h : as.map Address.text = bs.map Address.text) : as = bs :=
  (List.map_inj_right fun _ _ hab => Address.chars_injective (String.ofList_injective hab)).1 h

/-! ### The sets of the cluster's own prefixes -/

theorem clusterSetLines_append_inj {r s : Ruleset} {f : Family} {a b : List String}
    (h : r.clusterSetLines f ++ a = s.clusterSetLines f ++ b) :
    r.clusterPrefixes.ofFamily f = s.clusterPrefixes.ofFamily f ∧ a = b := by
  unfold clusterSetLines at h
  simp only [List.append_assoc, List.append_cancel_left_eq] at h
  have hplain : ∀ ps : List Prefix, ∀ t ∈ ps.map Prefix.text, Line.Plain t :=
    fun ps => List.forall_mem_map.2 fun p _ => Line.plain_prefix p
  obtain ⟨htexts, hrest⟩ := elementLines_append_inj (hplain _) (hplain _) h
  exact ⟨map_prefix_text_injective htexts, hrest⟩

theorem oneLine_setType (f : Family) : OneLine f.setType := by cases f <;> exact .ofList rfl

theorem oneLine_clusterSetLines (r : Ruleset) (f : Family) :
    ∀ l ∈ r.clusterSetLines f, OneLine l := by
  have hname : OneLine (clusterSetName f) := by cases f <;> exact .ofList rfl
  unfold clusterSetLines
  simp only [List.forall_mem_append, List.forall_mem_cons, List.not_mem_nil, false_implies,
    implies_true, and_true]
  refine ⟨⟨⟨?_, ?_, .ofList rfl, .ofList rfl⟩,
    oneLine_elementLines (List.forall_mem_map.2 fun p _ => oneLine_prefix p)⟩,
    .ofList rfl⟩
  · exact (OneLine.append (.ofList rfl) hname).append (.ofList rfl)
  · exact .append (.ofList rfl) (oneLine_setType f)

/-! ### Named sets -/

/-- What the declaration of a named set says. -/
structure Declaration where
  setName : String
  family : Family
  fqdn : String
  addresses : Ascending Address
  deriving DecidableEq

/-- The declaration of a set leaves out when the set expires, and the order of its addresses. -/
def declaration (s : NamedSet) : Declaration := ⟨s.setName, s.family, s.fqdn, .ofList s.addresses⟩

/-- The lines of a declaration. -/
def declarationLines (d : Declaration) : List String :=
  ["",
   "    set " ++ d.setName ++ " \x7b",
   "        type " ++ d.family.setType,
   "        comment \"" ++ d.fqdn ++ "\""]
  ++ elementLines (d.addresses.toList.map Address.text)
  ++ ["    \x7d"]

theorem declarationLines_cons_inj {d e : Declaration} {a b : List String}
    (h : declarationLines d ++ a = declarationLines e ++ b) : d = e ∧ a = b := by
  unfold declarationLines at h
  simp only [List.append_assoc, List.cons_append, List.nil_append, List.cons.injEq, true_and] at h
  obtain ⟨hname, htype, hcomment, helements⟩ := h
  have hsetType : ∀ f g : Family, f.setType = g.setType → f = g := by
    intro f g
    cases f <;> cases g <;> decide
  have hplain : ∀ as : List Address, ∀ t ∈ as.map Address.text, Line.Plain t :=
    fun as => List.forall_mem_map.2 fun a _ => plain_address a
  obtain ⟨htexts, hrest⟩ := elementLines_append_inj (hplain _) (hplain _) helements
  obtain ⟨setName, family, fqdn, addresses⟩ := d
  obtain ⟨setName', family', fqdn', addresses'⟩ := e
  have hname : setName = setName' := by simpa using hname
  have hfamily : family = family' := hsetType _ _ (by simpa using htype)
  have hfqdn : fqdn = fqdn' := by simpa using hcomment
  have haddresses : addresses = addresses' :=
    Ascending.ext_toList (map_address_text_injective htexts)
  rw [hname, hfamily, hfqdn, haddresses]
  exact ⟨rfl, hrest⟩

/-- What the chain behind the sets begins with. -/
def chainStart : String := "    chain input \x7b"

private theorem set_ne_chainStart (name : String) : "    set " ++ name ++ " \x7b" ≠ chainStart := by
  intro h
  have hchars := congrArg String.toList h
  simp [chainStart] at hchars

/-- **Declarations are told apart,** and from the chain behind the last. -/
theorem declarationLines_append_inj {ds es : List Declaration} {a b : List String}
    (h : ds.flatMap declarationLines ++ "" :: chainStart :: a =
      es.flatMap declarationLines ++ "" :: chainStart :: b) :
    ds = es ∧ a = b := by
  induction ds generalizing es with
  | nil =>
    cases es with
    | nil => simpa using h
    | cons e es =>
      have hsecond := (List.cons.inj (List.cons.inj h).2).1
      exact absurd hsecond.symm (set_ne_chainStart e.setName)
  | cons d ds ih =>
    cases es with
    | nil =>
      have hsecond := (List.cons.inj (List.cons.inj h).2).1
      exact absurd hsecond (set_ne_chainStart d.setName)
    | cons e es =>
      rw [List.flatMap_cons, List.flatMap_cons, List.append_assoc, List.append_assoc] at h
      obtain ⟨hd, hrest⟩ := declarationLines_cons_inj h
      obtain ⟨hds, hbehind⟩ := ih hrest
      exact ⟨by rw [hd, hds], hbehind⟩

theorem oneLine_namedSetLines {s : NamedSet} (hname : OneLine s.setName) (hfqdn : OneLine s.fqdn) :
    ∀ l ∈ namedSetLines s, OneLine l := by
  unfold namedSetLines
  simp only [List.forall_mem_append, List.forall_mem_cons, List.not_mem_nil, false_implies,
    implies_true, and_true]
  refine ⟨⟨⟨.ofList rfl, ?_, ?_, ?_⟩, ?_⟩, .ofList rfl⟩
  · exact (OneLine.append (.ofList rfl) hname).append (.ofList rfl)
  · exact .append (.ofList rfl) (oneLine_setType s.family)
  · exact (OneLine.append (.ofList rfl) hfqdn).append (.ofList rfl)
  · exact oneLine_elementLines (List.forall_mem_map.2 fun a _ => oneLine_address a)

/-! ### Chains of rules -/

private theorem rule_ne_end (rule : String) : "        " ++ rule ≠ "    \x7d" := by
  intro h
  have hchars := congrArg String.toList h
  simp at hchars

/-- **Rules are told apart,** and from the end of their chain. -/
theorem ruleChain_append_inj {name : String} {rules rules' : List String} {a b : List String}
    (h : ruleChain name rules ++ a = ruleChain name rules' ++ b) : rules = rules' ∧ a = b := by
  unfold ruleChain at h
  simp only [List.append_assoc, List.cons_append, List.nil_append, List.cons.injEq, true_and] at h
  induction rules generalizing rules' with
  | nil =>
    cases rules' with
    | nil => simpa using h
    | cons rule' rules' => exact absurd (List.cons.inj h).1.symm (rule_ne_end rule')
  | cons rule rules ih =>
    cases rules' with
    | nil => exact absurd (List.cons.inj h).1 (rule_ne_end rule)
    | cons rule' rules' =>
      obtain ⟨hrule, hrest⟩ := List.cons.inj h
      obtain ⟨hrules, hbehind⟩ := ih hrest
      have hrule : rule = rule' := by simpa using hrule
      exact ⟨by rw [hrule, hrules], hbehind⟩

theorem oneLine_ruleChain {name : String} (hname : OneLine name) {rules : List String}
    (h : ∀ rule ∈ rules, OneLine rule) : ∀ l ∈ ruleChain name rules, OneLine l := by
  unfold ruleChain
  simp only [List.forall_mem_append, List.forall_mem_singleton, List.forall_mem_map]
  exact ⟨⟨(OneLine.append (.ofList rfl) hname).append (.ofList rfl),
    fun rule hrule => OneLine.append (.ofList rfl) (h rule hrule)⟩, .ofList rfl⟩

theorem oneLine_inputChain (dnsProxy : Option Endpoint) : ∀ l ∈ inputChain dnsProxy, OneLine l := by
  have hproxy : ∀ e : Endpoint, ∀ l ∈ proxyLines e, OneLine l := by
    intro e
    have hport : OneLine (toString e.port.val) := by
      unfold OneLine
      rw [Text.toList_toString]
      exact fun h => Text.of_mem_decimal (P := (· ≠ '\n')) (by decide) h rfl
    have hplace : OneLine (if e.address.isUnspecified then ""
        else e.address.family.keyword ++ " daddr " ++ e.address.text ++ " ") := by
      split
      · exact .ofList rfl
      · have hkeyword : OneLine e.address.family.keyword := by
          cases e.address.family <;> exact .ofList rfl
        exact ((hkeyword.append (.ofList rfl)).append (oneLine_address _)).append (.ofList rfl)
    refine List.forall_mem_map.2 fun protocol hprotocol => ?_
    have hprotocols : ∀ protocol ∈ ["udp", "tcp"], OneLine protocol :=
      List.forall_mem_cons.2 ⟨.ofList rfl, List.forall_mem_singleton.2 (.ofList rfl)⟩
    exact ((((OneLine.append (.ofList rfl) hplace).append (hprotocols protocol hprotocol)).append
      (.ofList rfl)).append
      hport).append (.ofList rfl)
  unfold inputChain
  simp only [List.forall_mem_append, List.forall_mem_cons, List.not_mem_nil, false_implies,
    implies_true, and_true]
  refine ⟨⟨?_, ?_⟩, .ofList rfl⟩
  · and_intros <;> exact .ofList rfl
  · cases dnsProxy with
    | none => exact fun l hl => absurd hl List.not_mem_nil
    | some e => exact hproxy e

theorem oneLine_forwardChain : ∀ l ∈ forwardChain, OneLine l := by
  unfold forwardChain
  simp only [List.forall_mem_cons, List.not_mem_nil, false_implies, implies_true, and_true]
  and_intros <;> exact .ofList rfl

end Firewall.Ruleset
