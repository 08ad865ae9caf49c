/-
NAT lines, read back.

A NAT line names the interface that it is for twice, at its start and in its comment, and says
in between which sources it hides, and behind what.  The reader is given the interface: it
takes the line apart at the two places where the interface must stand and reads the words
between them, in which there is no quote.

The name of an interface may hold anything, even quotes and words of the rule language.  Still a
line is read for no interface but its own.  Each name stands in the line twice, so the names of two
interfaces for which one line could be read have the same number of quotes; and one of the names
begins the other, with a quote behind it (`eq_of_framed`).
-/
import Firewall.Proofs.Rule.Comment
import Firewall.Proofs.Ruleset.Lines
import Firewall.Ruleset.Render
import Mathlib.Data.List.Count

namespace Firewall.Ruleset

open Text (Harmless words)

/-! ### Reading -/

/-- What a NAT line says: which sources of a family it is about, and what is done
with what they send, word by word. -/
structure NatReading where
  family : Family
  sources : List Prefix
  action : List String
  deriving DecidableEq

/-- Reads what a NAT line says behind the interface. -/
def readNatWords? : List String → Option NatReading
  | family :: "saddr" :: "\x7b" :: rest => do
    let family ← Family.ofKeyword? family
    let (elements, after) ← Line.elements? rest
    let sources ← elements.mapM fun s => Prefix.read? s.toList
    match after with
    | "counter" :: action => some ⟨family, sources, action⟩
    | _ => none
  | _ => none

/-- What a NAT line for an interface begins with. -/
def natStart (interface : String) : String := "        oifname \"" ++ interface ++ "\" "

/-- What a NAT line for an interface ends with. -/
def natEnd (interface : String) : String := " comment \"snat " ++ interface ++ "\""

/-- Reads a NAT line for an interface; one for another interface says nothing about it. -/
def readNatLine? (interface line : String) : Option NatReading := do
  let rest ← line.toList.dropPrefix? (natStart interface).toList
  let middle ← rest.dropSuffix? (natEnd interface).toList
  if '"' ∈ middle then none else readNatWords? (words (String.ofList middle))

/-! ### What is written between the two places of the interface -/

/-- The words of what a NAT rule does. -/
def actionWords (rule : NatRule) : List String :=
  match rule.address with
  | some a => ["snat", rule.family.keyword, "to", a.text]
  | none => ["masquerade"]

/-- What a NAT rule says. -/
def natReading (rule : NatRule) : NatReading := ⟨rule.family, rule.sources, actionWords rule⟩

/-- What is written behind the interface. -/
private def natParts (rule : NatRule) : List String :=
  [rule.family.keyword, "saddr", "\x7b", Prefix.joinedText rule.sources, "\x7d", "counter",
    natAction rule]

theorem natLine_eq (rule : NatRule) : natLine rule
    = natStart rule.outInterface ++ String.intercalate " " (natParts rule) ++
      natEnd rule.outInterface := by
  have hopen : " saddr \x7b " = " " ++ "saddr" ++ " " ++ "\x7b" ++ " " := by decide
  have hclose : " \x7d counter " = " " ++ "\x7d" ++ " " ++ "counter" ++ " " := by decide
  unfold natLine natStart natEnd natParts
  rw [hopen, hclose]
  simp only [String.intercalate_cons_cons, String.intercalate_singleton, String.append_assoc]

private theorem words_keyword (f : Family) : words f.keyword = [f.keyword] :=
  Text.words_of_notMem (by cases f <;> decide)

theorem words_natAction (rule : NatRule) : words (natAction rule) = actionWords rule := by
  have hmasquerade : words "masquerade" = ["masquerade"] := by decide
  unfold natAction actionWords
  cases rule.address with
  | none => exact hmasquerade
  | some a =>
    have hspace : ' ' ∉ a.text.toList := by
      rw [Address.text, String.toList_ofList]
      exact Address.notMem_chars (by decide) (by decide) a
    have hparts : "snat " ++ rule.family.keyword ++ " to " ++ a.text
        = String.intercalate " " ["snat", rule.family.keyword, "to", a.text] := by
      rw [← String.toList_inj]
      simp
    have hsnat : words "snat" = ["snat"] := by decide
    have hto : words "to" = ["to"] := by decide
    dsimp only
    rw [hparts, Text.words_intercalate (List.cons_ne_nil _ _)]
    simp only [List.flatMap_cons, List.flatMap_nil, hsnat, hto, words_keyword,
      Text.words_of_notMem hspace, List.singleton_append, List.append_nil]

/-- **What is written is what is read.** -/
theorem readNatWords?_natParts {rule : NatRule} (h : rule.sources ≠ []) :
    readNatWords? (words (String.intercalate " " (natParts rule))) = some (natReading rule) := by
  have helements : ∀ after,
      Line.elements?
        (words (String.intercalate ", " (rule.sources.map Prefix.text)) ++ "\x7d" :: after)
      = some (rule.sources.map Prefix.text, after) := by
    refine Line.elements?_words (List.map_eq_nil_iff.not.2 h) fun e he => ?_
    obtain ⟨p, -, rfl⟩ := List.mem_map.1 he
    exact Line.plain_prefix p
  have hread : (rule.sources.map Prefix.text).mapM (fun s => Prefix.read? s.toList) =
      some rule.sources := by
    refine Attempt.mapM_map_eq_some fun p _ => ?_
    rw [Prefix.text, String.toList_ofList, Prefix.read?_chars]
  have hfamily : Family.ofKeyword? rule.family.keyword = some rule.family := by
    cases rule.family <;> rfl
  have hwords : words (String.intercalate " " (natParts rule)) =
      rule.family.keyword :: "saddr" :: "\x7b" ::
      (words (Prefix.joinedText rule.sources) ++ "\x7d" :: "counter" :: actionWords rule) := by
    have hsource : words "saddr" = ["saddr"] := by decide
    have hopen : words "\x7b" = ["\x7b"] := by decide
    have hclose : words "\x7d" = ["\x7d"] := by decide
    have hcounter : words "counter" = ["counter"] := by decide
    unfold natParts
    rw [Text.words_intercalate (List.cons_ne_nil _ _)]
    simp [words_keyword, hsource, hopen, hclose, hcounter, words_natAction]
  rw [hwords, readNatWords?, hfamily]
  unfold Prefix.joinedText
  simp [helements, hread, natReading]

theorem harmless_natParts (rule : NatRule) : Harmless (String.intercalate " " (natParts rule)) := by
  have haction : Harmless (natAction rule) := by
    have hmasquerade : Harmless "masquerade" := by decide
    unfold natAction
    cases rule.address with
    | none => exact hmasquerade
    | some a =>
      have hsnat : Harmless "snat " := by decide
      exact ((hsnat.append rule.family.harmless_keyword).append (by decide)).append a.harmless_text
  refine Harmless.intercalate (by decide) ?_
  unfold natParts
  simp only [List.forall_mem_cons, List.not_mem_nil, false_implies, implies_true, and_true]
  exact ⟨rule.family.harmless_keyword, by decide, by decide,
    Prefix.harmless_joinedText rule.sources, by decide,
    by decide, haction⟩

theorem oneLine_natLine {rule : NatRule} (h : OneLine rule.outInterface) :
    OneLine (natLine rule) := by
  have hparts : OneLine (String.intercalate " " (natParts rule)) := fun hmem =>
    nomatch (harmless_natParts rule _ hmem).2
  have hstart : OneLine (natStart rule.outInterface) :=
    (OneLine.append (.ofList rfl) h).append (.ofList rfl)
  have hend : OneLine (natEnd rule.outInterface) :=
    (OneLine.append (.ofList rfl) h).append (.ofList rfl)
  rw [natLine_eq]
  exact (hstart.append hparts).append hend

/-! ### A line is for one interface -/

theorem eq_of_framed {x y m n : List Char} (hm : '"' ∉ m) (hn : '"' ∉ n)
    (h : x ++ '"' :: (m ++ '"' :: ("snat ".toList ++ x ++ ['"'])) =
      y ++ '"' :: (n ++ '"' :: ("snat ".toList ++ y ++ ['"']))) :
    x = y := by
  have hcount : x.count '"' = y.count '"' := by
    have hquotes := congrArg (List.count '"') h
    have hm0 : m.count '"' = 0 := List.count_eq_zero.2 hm
    have hn0 : n.count '"' = 0 := List.count_eq_zero.2 hn
    simp only [List.count_append, List.count_cons_self, hm0, hn0] at hquotes
    omega
  -- a name that begins the other has a quote behind it
  have hfront : ∀ {a b c d : List Char}, a.count '"' = b.count '"' →
      (∃ more, b = a ++ more ∧ '"' :: c = more ++ '"' :: d) →
      a = b := by
    rintro a b c d hab ⟨more, rfl, hmore⟩
    cases more with
    | nil => exact (List.append_nil a).symm
    | cons e more =>
      rw [List.cons_append] at hmore
      rw [← (List.cons.inj hmore).1, List.count_append, List.count_cons_self] at hab
      omega
  rcases List.append_eq_append_iff.1 h with ⟨more, hmore⟩ | ⟨more, hmore⟩
  · exact hfront hcount ⟨more, hmore⟩
  · exact (hfront hcount.symm ⟨more, hmore⟩).symm

/-- What stands around the middle of a line: the name of the interface twice, and three quotes. -/
private theorem toList_around (interface : String) (middle : List Char) :
    (natStart interface).toList ++ (middle ++ (natEnd interface).toList) =
      "        oifname \"".toList ++ (interface.toList
      ++ '"' :: (' ' :: (middle ++ " comment ".toList) ++
        '"' :: ("snat ".toList ++ interface.toList ++ ['"']))) := by
  have hcomment : (" comment \"snat ").toList = " comment ".toList ++ '"' :: "snat ".toList := by
    decide
  have hquote : ("\" ").toList = ['"', ' '] := by decide
  have hend : ("\"").toList = ['"'] := by decide
  unfold natStart natEnd
  simp only [String.toList_append, hcomment, hquote, hend, List.append_assoc, List.cons_append,
    List.nil_append]

/-- **A NAT line says what its rule says, and only for the interface of the rule.** -/
theorem readNatLine?_natLine {rule : NatRule} (h : rule.sources ≠ []) (interface : String) :
    readNatLine? interface (natLine rule) = if rule.outInterface = interface then
      some (natReading rule) else none := by
  have hquote : '"' ∉ (String.intercalate " " (natParts rule)).toList :=
    fun hmem => (harmless_natParts rule _ hmem).1 rfl
  have hchars : (natLine rule).toList = (natStart rule.outInterface).toList
      ++ ((String.intercalate " " (natParts rule)).toList ++
        (natEnd rule.outInterface).toList) := by
    rw [natLine_eq, String.toList_append, String.toList_append, List.append_assoc]
  split
  · rename_i hsame
    subst hsame
    unfold readNatLine?
    rw [hchars, List.dropPrefix?_eq_some_iff.2 ⟨_, rfl, beq_self_eq_true _⟩]
    simp only [Option.bind_eq_bind, Option.bind_some]
    rw [List.dropSuffix?_eq_some_iff.2 ⟨_, rfl, beq_self_eq_true _⟩, Option.bind_some,
      if_neg hquote, String.ofList_toList, readNatWords?_natParts h]
  · rename_i hother
    refine Option.eq_none_iff_forall_ne_some.2 fun n hn => hother ?_
    unfold readNatLine? at hn
    obtain ⟨rest, hrest, hn⟩ := Option.bind_eq_some_iff.1 hn
    obtain ⟨middle, hmiddle, hn⟩ := Option.bind_eq_some_iff.1 hn
    split at hn
    · exact nomatch hn
    · rename_i hmem
      obtain ⟨start, hline, hstart⟩ := List.dropPrefix?_eq_some_iff.1 hrest
      obtain ⟨stop, hsplit, hstop⟩ := List.dropSuffix?_eq_some_iff.1 hmiddle
      rw [eq_of_beq hstart, hsplit, eq_of_beq hstop, hchars, toList_around, toList_around] at hline
      refine String.toList_inj.1 (eq_of_framed ?_ ?_ (List.append_cancel_left hline))
      · simpa using hquote
      · simpa using hmem

end Firewall.Ruleset
