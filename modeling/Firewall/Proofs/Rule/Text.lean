/-
A line that is written says what it was made from.

Reading a line back is reading its words, and the words of a line are the words of its
parts, because parts are put together with spaces (`words_intercalate`).  What remains
is to see where one part ends: the elements of a set end at the brace, and no match
begins with a word of the verdict.

Not every line can be read back.  A set without elements has no closing brace of its
own word, and a set name with a space in it would be two words.  Neither is ever
compiled, and `RuleMatch.Readable` says so of a single match.
-/
import Firewall.Proofs.Prefix.Text
import Firewall.Proofs.Rule.Reading

namespace Firewall

open Text (words)

/-! ### The words of a text are the words of its parts -/

namespace Text

theorem words_append_space (s t : String) : words (s ++ " " ++ t) = words s ++ words t := by
  unfold words
  have hchars : (s ++ " " ++ t).toList = s.toList ++ ' ' :: t.toList := by simp
  rw [hchars, pieces_append_cons, List.map_append]

theorem words_of_notMem {s : String} (h : ' ' ∉ s.toList) : words s = [s] := by
  unfold words
  rw [pieces_of_notMem h, List.map_singleton, String.ofList_toList]

/-- **The words of a text are the words of its parts.** -/
theorem words_intercalate {parts : List String} (hne : parts ≠ []) :
    words (String.intercalate " " parts) = parts.flatMap words := by
  induction parts with
  | nil => exact absurd rfl hne
  | cons s more ih =>
    cases more with
    | nil => simp
    | cons t more =>
      rw [String.intercalate_cons_cons, words_append_space, ih (List.cons_ne_nil t more)]
      rfl

end Text

namespace Line

/-! ### The elements of a set -/

/-- A text that can stand as an element of a set. -/
def Plain (s : String) : Prop := ' ' ∉ s.toList ∧ ',' ∉ s.toList

private theorem elements?_last {s : String} (h : ',' ∉ s.toList) (after : List String) :
    elements? (s :: "\x7d" :: after) = some ([s], after) := by
  have hlast : ¬ s.toList.getLast? = some ',' := fun hl => h (List.mem_of_getLast? hl)
  rw [elements?, if_neg hlast]

private theorem elements?_comma (s : String) (rest : List String) :
    elements? ((s ++ ",") :: rest) =
      (elements? rest).map fun (more, after) => (s :: more, after) := by
  have hlast : (s ++ ",").toList.getLast? = some ',' := by simp
  have hinit : String.ofList (s ++ ",").toList.dropLast = s := by simp
  conv => lhs; unfold elements?
  rw [if_pos hlast, hinit]

theorem elements?_words {es : List String} (hne : es ≠ []) (h : ∀ e ∈ es, Plain e)
    (after : List String) :
    elements? (words (String.intercalate ", " es) ++ "\x7d" :: after) = some (es, after) := by
  induction es with
  | nil => exact absurd rfl hne
  | cons e more ih =>
    obtain ⟨hspace, hcomma⟩ := h e List.mem_cons_self
    cases more with
    | nil =>
      rw [String.intercalate_singleton, Text.words_of_notMem hspace]
      exact elements?_last hcomma after
    | cons f more =>
      have hsplit : String.intercalate ", " (e :: f :: more)
          = (e ++ ",") ++ " " ++ String.intercalate ", " (f :: more) := by
        rw [String.intercalate_cons_cons, ← String.toList_inj]
        simp
      have hword : ' ' ∉ (e ++ ",").toList := by simpa using hspace
      rw [hsplit, Text.words_append_space, Text.words_of_notMem hword, List.singleton_append,
        List.cons_append,
        elements?_comma, ih (List.cons_ne_nil f more) fun r hr => h r (List.mem_cons_of_mem e hr)]
      rfl

/-- **A set that is written is the set that is read**, if its elements are. -/
theorem setOf?_words {α : Type} [Ord α] [Std.TransOrd α] [Std.LawfulEqOrd α]
    {element? : String → Option α} {text : α → String} (hread : ∀ a, element? (text a) = some a)
    (hplain : ∀ a, Plain (text a)) {s : Ascending α} (hne : s.toList ≠ []) (after : List String) :
    setOf? element? (words (String.intercalate ", " (s.toList.map text)) ++ "\x7d" :: after)
      = some (s, after) := by
  have hset : Ascending.ofList s.toList = s := Ascending.ext_mem fun a => Ascending.mem_ofList
  have helements := elements?_words (List.map_eq_nil_iff.not.2 hne)
    (fun e he => by obtain ⟨a, -, rfl⟩ := List.mem_map.1 he; exact hplain a) after
  simp [setOf?, helements, Attempt.mapM_map_eq_some fun a _ => hread a, hset]

/-! ### Prefixes and ranges as elements -/

theorem plain_prefix (p : Prefix) : Plain p.text := by
  unfold Plain Prefix.text
  rw [String.toList_ofList]
  exact ⟨Prefix.notMem_chars (by decide) (by decide) p,
    Prefix.notMem_chars (by decide) (by decide) p⟩

end Line

namespace PortRange

theorem toList_text (r : PortRange) :
    r.text.toList = if r.first = r.last then Text.decimal r.first.val
    else Text.decimal r.first.val ++ '-' :: Text.decimal r.last.val := by
  unfold text
  split
  · exact Text.toList_toString r.first.val
  · rw [String.toList_append, String.toList_append, Text.toList_toString, Text.toList_toString]
    simp

private theorem notMem_decimal {c : Char} (hc : ∀ d < 10, Nat.digitChar d ≠ c) (n : Nat) :
    c ∉ Text.decimal n :=
  fun h => Text.of_mem_decimal (P := (· ≠ c)) hc h rfl

private theorem notMem_text {c : Char} (hc : ∀ d < 10, Nat.digitChar d ≠ c) (hdash : c ≠ '-')
    (r : PortRange) : c ∉ r.text.toList := by
  have hfirst := notMem_decimal hc r.first.val
  have hlast := notMem_decimal hc r.last.val
  rw [toList_text]
  split
  · exact hfirst
  · simp [hfirst, hlast, hdash]

private theorem readPort?_decimal (n : PortNumber) :
    Endpoint.readPort? (Text.decimal n.val) = some n := by
  simp [Endpoint.readPort?, n.isLt]

theorem ofText?_text (r : PortRange) : ofText? r.text = some r := by
  have hdash : '-' ∉ Text.decimal r.first.val := notMem_decimal (by decide) r.first.val
  unfold ofText?
  rw [toList_text]
  by_cases hsame : r.first = r.last
  · have hr : single r.first = r := ext rfl hsame
    rw [if_pos hsame, Text.cut_eq_none_iff.2 hdash]
    simp [readPort?_decimal, hr]
  · rw [if_neg hsame, Text.cut_append_cons hdash]
    simp [readPort?_decimal]

theorem plain_text (r : PortRange) : Line.Plain r.text :=
  ⟨notMem_text (by decide) (by decide) r, notMem_text (by decide) (by decide) r⟩

end PortRange

/-! ### Matches -/

namespace RuleMatch

/-- The text of a match. -/
def text : RuleMatch → String
  | address clause => clause.text
  | port clause => clause.text

/-- The parts of a match, between which its text has spaces. -/
def parts : RuleMatch → List String
  | address (.among f d ps) => [f.keyword, d.keyword, "\x7b", Prefix.joinedText ps.toList, "\x7d"]
  | address (.notAmong f d ps) =>
    [f.keyword, d.keyword, "!=", "\x7b", Prefix.joinedText ps.toList, "\x7d"]
  | address (.inSet f d setName) => [f.keyword, d.keyword, "@" ++ setName]
  | address (.fromCluster f) => [f.keyword, "saddr", "==", "@" ++ clusterSetName f]
  | port (.every p) => ["meta", "l4proto", p.keyword]
  | port (.among p ranges) =>
    [p.keyword, "dport", "\x7b", String.intercalate ", " (ranges.toList.map PortRange.text), "\x7d"]

theorem text_eq_intercalate (m : RuleMatch) : m.text = String.intercalate " " m.parts := by
  rw [← String.toList_inj]
  cases m with
  | address c => cases c <;> simp [text, parts, Clause.text]
  | port c => cases c <;> simp [text, parts, PortClause.text]

/-- A match whose text can be read back: its sets have elements, and its set names no spaces. -/
def Readable : RuleMatch → Prop
  | address (.among _ _ ps) => ps.toList ≠ []
  | address (.notAmong _ _ ps) => ps.toList ≠ []
  | address (.inSet _ _ setName) => ' ' ∉ setName.toList
  | address (.fromCluster _) => True
  | port (.every _) => True
  | port (.among _ ranges) => ranges.toList ≠ []

end RuleMatch

namespace Line

/-! ### One match -/

private theorem ofKeyword?_family (f : Family) : Family.ofKeyword? f.keyword = some f := by
  cases f <;> rfl

private theorem ofKeyword?_direction (d : Direction) : Direction.ofKeyword? d.keyword = some d := by
  cases d <;> rfl

private theorem ofKeyword?_protocol (p : Protocol) : Protocol.ofKeyword? p.keyword = some p := by
  cases p <;> rfl

private theorem words_family (f : Family) : words f.keyword = [f.keyword] := by
  cases f <;> decide

private theorem words_direction (d : Direction) : words d.keyword = [d.keyword] := by
  cases d <;> decide

private theorem words_protocol (p : Protocol) : words p.keyword = [p.keyword] := by
  cases p <;> decide

private theorem words_clusterSetName (f : Family) :
    words ("@" ++ clusterSetName f) = ["@" ++ clusterSetName f] := by
  cases f <;> decide

private theorem words_open : words "\x7b" = ["\x7b"] := by decide

private theorem words_close : words "\x7d" = ["\x7d"] := by decide

/-- What is matched on an address is read behind the words for the family and the address. -/
private theorem match?_address (f : Family) (d : Direction) (ws : List String) :
    match? (f.keyword :: d.keyword :: ws) =
      (clause? f d ws).map fun (c, after) => (.address c, after) := by
  have hdport : d.keyword ≠ "dport" := by cases d <;> decide
  have hmeta : f.keyword ≠ "meta" := by cases f <;> decide
  unfold match?
  split
  · rename_i heq
    exact absurd (List.cons.inj heq).1 hmeta
  · rename_i heq
    exact absurd (List.cons.inj (List.cons.inj heq).2).1 hdport
  · rename_i heq
    simp only [List.cons.injEq] at heq
    obtain ⟨rfl, rfl, rfl⟩ := heq
    simp only [ofKeyword?_family, ofKeyword?_direction, Option.bind_eq_bind, Option.bind_some]
    cases clause? f d ws <;> rfl
  · rename_i hno
    exact absurd rfl (hno _ _ _)

private theorem clause?_inSet (f : Family) (d : Direction) (name : String) (rest : List String) :
    clause? f d (("@" ++ name) :: rest) = some (.inSet f d name, rest) := by
  have hchars : ("@" ++ name).toList = '@' :: name.toList := by simp
  have hne : ∀ {t : String}, t.toList.head? ≠ some '@' → "@" ++ name ≠ t := by
    intro t ht heq
    rw [← heq, hchars] at ht
    exact ht rfl
  unfold clause?
  split
  · rename_i heq
    exact absurd (List.cons.inj heq).1 (hne (by decide))
  · rename_i heq
    exact absurd (List.cons.inj heq).1 (hne (by decide))
  · rename_i heq
    exact absurd (List.cons.inj heq).1 (hne (by decide))
  · rename_i heq
    obtain ⟨rfl, rfl⟩ := List.cons.inj heq
    simp [hchars]
  · rename_i heq
    exact absurd heq (List.cons_ne_nil _ _)

private theorem setOf?_prefixes {ps : Ascending Prefix} (hne : ps.toList ≠ [])
    (rest : List String) :
    setOf? (fun s => Prefix.read? s.toList) (words (Prefix.joinedText ps.toList) ++ "\x7d" :: rest)
      = some (ps, rest) := by
  refine setOf?_words (fun p => ?_) plain_prefix hne rest
  rw [Prefix.text, String.toList_ofList, Prefix.read?_chars]

/-- **A match that is written is the match that is read.** -/
theorem match?_parts {m : RuleMatch} (h : m.Readable) (rest : List String) :
    match? (m.parts.flatMap words ++ rest) = some (m, rest) := by
  match m, h with
  | .address (.among f d ps), h =>
    have hset := setOf?_prefixes h rest
    simp [RuleMatch.parts, words_family, words_direction, words_open, words_close, match?_address,
      clause?, hset]
  | .address (.notAmong f d ps), h =>
    have hset := setOf?_prefixes h rest
    have hnot : words "!=" = ["!="] := by decide
    simp [RuleMatch.parts, words_family, words_direction, words_open, words_close, hnot,
      match?_address, clause?, hset]
  | .address (.inSet f d name), h =>
    have hname : ' ' ∉ ("@" ++ name).toList := by
      have hspace : ' ' ∉ name.toList := h
      simpa using hspace
    simp [RuleMatch.parts, words_family, words_direction, Text.words_of_notMem hname,
      match?_address, clause?_inSet]
  | .address (.fromCluster f), _ =>
    have hword : words "saddr" = ["saddr"] := by decide
    have heq : words "==" = ["=="] := by decide
    simp only [RuleMatch.parts, List.flatMap_cons, List.flatMap_nil, words_family, hword, heq,
      words_clusterSetName, List.append_nil, List.cons_append, List.nil_append]
    rw [show "saddr" = Direction.source.keyword from rfl, match?_address]
    simp [clause?]
  | .port (.every p), _ =>
    have hmeta : words "meta" = ["meta"] := by decide
    have hproto : words "l4proto" = ["l4proto"] := by decide
    simp [RuleMatch.parts, words_protocol, hmeta, hproto, match?, ofKeyword?_protocol]
  | .port (.among p ranges), h =>
    have hset := setOf?_words PortRange.ofText?_text PortRange.plain_text h rest
    have hdport : words "dport" = ["dport"] := by decide
    have hmeta : p.keyword ≠ "meta" := by cases p <;> decide
    simp [RuleMatch.parts, words_protocol, words_open, words_close, hdport, match?,
      ofKeyword?_protocol, hset]

/-! ### No match begins with a word of the verdict -/

private theorem words_logClause : words logClause =
    ["log", "prefix", "\"nftwall-accepted:", "\"", "limit", "rate", "10/second"] := by decide

private theorem isVerdict_cons {w : String} (hlog : w ≠ "log") (hcounter : w ≠ "counter")
    (rest : List String) :
    isVerdict (w :: rest) = false := by
  have hpass : passLog (w :: rest) = w :: rest := by
    unfold passLog
    rw [words_logClause, List.isPrefixOf_cons_cons]
    simp [Ne.symm hlog]
  unfold isVerdict
  rw [hpass]
  split
  · rename_i heq
    exact absurd (List.cons.inj heq).1 hcounter
  · rfl

private theorem passLog_counter (rest : List String) :
    passLog ("counter" :: rest) = "counter" :: rest := by
  unfold passLog
  rw [words_logClause]
  rfl

private theorem passLog_words (rest : List String) : passLog (words logClause ++ rest) = rest := by
  unfold passLog
  rw [words_logClause]
  simp

private theorem exists_keyword (m : RuleMatch) :
    ∃ k more, m.parts = k :: more ∧ words k = [k] ∧ k ≠ "log" ∧ k ≠ "counter" := by
  have hfamily : ∀ f : Family, f.keyword ≠ "log" ∧ f.keyword ≠ "counter" := by
    intro f; cases f <;> decide
  have hprotocol : ∀ p : Protocol, p.keyword ≠ "log" ∧ p.keyword ≠ "counter" := by
    intro p; cases p <;> decide
  match m with
  | .address (.among f _ _) => exact ⟨f.keyword, _, rfl, words_family f, hfamily f⟩
  | .address (.notAmong f _ _) => exact ⟨f.keyword, _, rfl, words_family f, hfamily f⟩
  | .address (.inSet f _ _) => exact ⟨f.keyword, _, rfl, words_family f, hfamily f⟩
  | .address (.fromCluster f) => exact ⟨f.keyword, _, rfl, words_family f, hfamily f⟩
  | .port (.every _) => exact ⟨"meta", _, rfl, by decide, by decide, by decide⟩
  | .port (.among p _) => exact ⟨p.keyword, _, rfl, words_protocol p, hprotocol p⟩

private theorem isVerdict_parts (m : RuleMatch) (rest : List String) :
    isVerdict (m.parts.flatMap words ++ rest) = false := by
  obtain ⟨k, more, hparts, hk, hlog, hcounter⟩ := exists_keyword m
  rw [hparts, List.flatMap_cons, hk, List.singleton_append, List.cons_append]
  exact isVerdict_cons hlog hcounter _

private theorem length_parts_pos (m : RuleMatch) : 0 < (m.parts.flatMap words).length := by
  obtain ⟨k, more, hparts, hk, -, -⟩ := exists_keyword m
  rw [hparts, List.flatMap_cons, hk, List.singleton_append]
  exact Nat.succ_pos _

/-- **The words of a match are the words of its parts.** -/
theorem words_text (m : RuleMatch) : words m.text = m.parts.flatMap words := by
  obtain ⟨k, more, hm, -⟩ := exists_keyword m
  have hne : m.parts ≠ [] := hm ▸ List.cons_ne_nil k more
  rw [m.text_eq_intercalate, Text.words_intercalate hne]

/-! ### Whole lines -/

theorem readMatches?_parts {m : RuleMatch} (h : m.Readable) (rest : List String) :
    readMatches? (m.parts.flatMap words ++ rest) = (readMatches? rest).map (m :: ·) := by
  have hshorter : rest.length < (m.parts.flatMap words ++ rest).length := by
    rw [List.length_append]
    have := length_parts_pos m
    omega
  rw [readMatches?, isVerdict_parts, match?_parts h]
  simp only [Bool.false_eq_true, if_false, if_pos hshorter]

private theorem readMatches?_of_isVerdict {ws : List String} (h : isVerdict ws = true) :
    readMatches? ws = some [] := by
  rw [readMatches?, if_pos h]

theorem readMatches?_flatMap {ms : List RuleMatch} (h : ∀ m ∈ ms, m.Readable)
    {verdict : List String} (hv : isVerdict verdict = true) :
    readMatches? (ms.flatMap (fun m => m.parts.flatMap words) ++ verdict) = some ms := by
  induction ms with
  | nil => exact readMatches?_of_isVerdict hv
  | cons m rest ih =>
    rw [List.flatMap_cons, List.append_assoc, readMatches?_parts (h m List.mem_cons_self),
      ih fun r hr => h r (List.mem_cons_of_mem m hr)]
    rfl

/-- What stands behind the matches of a line. -/
private def verdictWords (logged : Bool) (comment : String) : List String :=
  ((if logged then [logClause] else []) ++ ["counter accept", Comment.clause comment]).flatMap words

private theorem words_comment (s : String) :
    ∃ more, words (Comment.clause s) = "comment" :: more := by
  have hsplit : Comment.clause s = "comment" ++ " " ++ ("\"" ++ Comment.sanitized s ++ "\"") := by
    simp [Comment.clause, ← String.toList_inj]
  rw [hsplit, Text.words_append_space]
  exact ⟨_, rfl⟩

private theorem isVerdict_verdictWords (logged : Bool) (comment : String) :
    isVerdict (verdictWords logged comment) = true := by
  obtain ⟨more, hcomment⟩ := words_comment comment
  have hcounter : words "counter accept" = ["counter", "accept"] := by decide
  unfold verdictWords isVerdict
  cases logged with
  | true =>
    rw [if_pos rfl, List.singleton_append, List.flatMap_cons, passLog_words]
    simp [hcounter, hcomment]
  | false =>
    rw [if_neg Bool.false_ne_true, List.nil_append, List.flatMap_cons, hcounter, List.cons_append,
      passLog_counter]
    simp [hcomment]

theorem map_text_ruleMatches (l : Line) :
    l.clauses.map Clause.text ++ (l.ports.map PortClause.text).toList =
      l.ruleMatches.map RuleMatch.text := by
  cases hports : l.ports <;> simp [ruleMatches, hports, RuleMatch.text, Function.comp_def]

/-- **A line that is written says what it was made from.** -/
theorem read?_text {l : Line} (h : ∀ m ∈ l.ruleMatches, m.Readable) :
    read? l.text = some l.ruleMatches := by
  have hwords : words l.text = l.ruleMatches.flatMap (fun m => m.parts.flatMap words)
      ++ verdictWords l.logged l.comment := by
    unfold text ruleText verdictWords
    rw [map_text_ruleMatches, List.append_assoc, Text.words_intercalate (by simp),
      List.flatMap_append, List.flatMap_map]
    simp only [words_text]
  unfold read?
  rw [hwords]
  exact readMatches?_flatMap h (isVerdict_verdictWords l.logged l.comment)

theorem textAccepts_text {env : Environment} {packet : Packet} {l : Line}
    (h : ∀ m ∈ l.ruleMatches, m.Readable) :
    TextAccepts env packet l.text ↔ l.Accepts env packet := by
  rw [accepts_iff_matches]
  unfold TextAccepts
  rw [read?_text h]
  constructor
  · rintro ⟨ms, hms, hall⟩
    cases hms
    exact hall
  · intro hall
    exact ⟨l.ruleMatches, rfl, hall⟩

end Line

end Firewall
