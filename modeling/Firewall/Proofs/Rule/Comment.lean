/-
The comment of a line.

Whatever text a line is to carry as its comment, it ends in a comment that can be read: quotes and
control characters become apostrophes, and what does not fit is left out at the end, character by
character.  Nothing shorter is left than has to be (`Comment.prefix_fitting`).

The rest of a line is written from prefixes, ports and words of the rule language, in which no
quote and no control character occurs, and from names of sets.  If those are harmless too, the
comment is the only text in quotes, but for the mark that the log lines begin with, and it is
where the line ends (`Line.closed_text`).
-/
import Firewall.Proofs.Prefix.Text
import Firewall.Proofs.Rule.Text
import Firewall.Proofs.Text.Quoted
import Firewall.Rule.Line

namespace Firewall

open Text (Harmless quoted?)

namespace Comment

/-! ### What can be read as a comment -/

/-- A text that can stand between the quotes of a comment. -/
def Acceptable (s : String) : Prop :=
  s.utf8ByteSize ≤ maxBytes ∧ ∀ c ∈ s.toList, c ≠ '"' ∧ Text.isControl c = false

instance (s : String) : Decidable (Acceptable s) :=
  inferInstanceAs (Decidable (s.utf8ByteSize ≤ maxBytes ∧ Harmless s))

theorem safeChar_acceptable (c : Char) :
    safeChar c ≠ '"' ∧ Text.isControl (safeChar c) = false := by
  unfold safeChar
  by_cases h : c = '"' || Text.isControl c
  · rw [if_pos h]
    decide
  · rw [if_neg h]
    simp only [Bool.or_eq_true, decide_eq_true_eq, not_or, Bool.not_eq_true] at h
    exact h

theorem size_fitting_le (room : Nat) (cs : List Char) :
    (String.ofList (fitting room cs)).utf8ByteSize ≤ room := by
  induction cs generalizing room with
  | nil => exact Nat.zero_le room
  | cons c rest ih =>
    unfold fitting
    split
    · rename_i hfits
      have hrest := ih (room - c.utf8Size)
      rw [String.ofList_cons, String.utf8ByteSize_append, String.utf8ByteSize_singleton]
      omega
    · exact Nat.zero_le room

theorem fitting_front (room : Nat) (cs : List Char) : fitting room cs <+: cs := by
  induction cs generalizing room with
  | nil => exact List.nil_prefix
  | cons c rest ih =>
    unfold fitting
    split
    · exact List.cons_prefix_cons.2 ⟨rfl, ih _⟩
    · exact List.nil_prefix

/-- **Nothing at the front that takes no more room is longer than what fits.** -/
theorem prefix_fitting {room : Nat} {front cs : List Char} (h : front <+: cs)
    (hsize : (String.ofList front).utf8ByteSize ≤ room) : front <+: fitting room cs := by
  induction cs generalizing room front with
  | nil =>
    rw [List.prefix_nil.1 h]
    exact List.nil_prefix
  | cons c rest ih =>
    cases front with
    | nil => exact List.nil_prefix
    | cons d front =>
      obtain ⟨rfl, hfront⟩ := List.cons_prefix_cons.1 h
      rw [String.ofList_cons, String.utf8ByteSize_append, String.utf8ByteSize_singleton] at hsize
      unfold fitting
      rw [if_pos (by omega)]
      exact List.cons_prefix_cons.2 ⟨rfl, ih hfront (by omega)⟩

/-- **The comment of a rule can be read.** -/
theorem sanitized_acceptable (s : String) : Acceptable (sanitized s) := by
  refine ⟨size_fitting_le _ _, ?_⟩
  intro c hc
  unfold sanitized at hc
  rw [String.toList_ofList] at hc
  obtain ⟨d, -, rfl⟩ := List.mem_map.1 ((fitting_front _ _).subset hc)
  exact safeChar_acceptable d

/-! ### Which text a comment shows -/

/-- A text with an apostrophe for each quote and each control character. -/
def apostrophed (s : String) : List Char :=
  s.toList.map fun c => if c = '"' ∨ Text.isControl c = true then '\'' else c

/-- A comment shows a text: as much of the text as 128 bytes hold, with an apostrophe for each
quote and each control character. -/
structure Shows (comment text : String) : Prop where
  short : comment.utf8ByteSize ≤ 128
  front : comment.toList <+: apostrophed text
  /-- Whatever else is at the front and short enough is part of it. -/
  longest : ∀ front, front <+: apostrophed text → (String.ofList front).utf8ByteSize ≤ 128 →
    front <+: comment.toList

theorem sanitized_shows (s : String) : Shows (sanitized s) s := by
  have hsafe : s.toList.map safeChar = apostrophed s := by
    refine List.map_congr_left fun c _ => ?_
    simp [safeChar]
  unfold sanitized
  rw [hsafe]
  refine ⟨size_fitting_le _ _, ?_, ?_⟩
  · rw [String.toList_ofList]
    exact fitting_front _ _
  · intro front hfront hsize
    rw [String.toList_ofList]
    exact prefix_fitting hfront hsize

end Comment

/-! ### Everything else in a line is harmless -/

theorem Family.harmless_keyword (f : Family) : Harmless f.keyword := by cases f <;> decide

private theorem harmless_direction (d : Direction) : Harmless d.keyword := by cases d <;> decide

private theorem harmless_protocol (p : Protocol) : Harmless p.keyword := by cases p <;> decide

theorem Address.harmless_text (a : Address) : Harmless a.text := by
  intro c hc
  rw [text, String.toList_ofList] at hc
  exact of_mem_chars (P := fun c => c ≠ '"' ∧ Text.isControl c = false) (by decide) (by decide) hc

theorem Prefix.harmless_text (p : Prefix) : Harmless p.text := by
  intro c hc
  rw [text, String.toList_ofList] at hc
  exact of_mem_chars (P := fun c => c ≠ '"' ∧ Text.isControl c = false) (by decide) (by decide) hc

theorem Prefix.harmless_joinedText (ps : List Prefix) : Harmless (joinedText ps) := by
  refine Harmless.intercalate (by decide) fun t ht => ?_
  obtain ⟨p, -, rfl⟩ := List.mem_map.1 ht
  exact p.harmless_text

theorem PortRange.harmless_text (r : PortRange) : Harmless r.text := by
  unfold text
  split
  · exact .toString _
  · exact (Harmless.append (.toString _) (by decide)).append (.toString _)

namespace Clause

/-- The name of a set, if a match has one, is harmless. -/
def HarmlessName : Clause → Prop
  | inSet _ _ setName => Harmless setName
  | _ => True

/-- A match is written without quotes and control characters, but for the name of a set. -/
theorem harmless_text {c : Clause} (h : c.HarmlessName) : Harmless c.text := by
  have hspace : Harmless " " := by decide
  have hend : Harmless " \x7d" := by decide
  cases c with
  | among f d ps =>
    have hopen : Harmless " \x7b " := by decide
    exact ((((f.harmless_keyword.append hspace).append (harmless_direction d)).append hopen).append
      (Prefix.harmless_joinedText _)).append hend
  | notAmong f d ps =>
    have hopen : Harmless " != \x7b " := by decide
    exact ((((f.harmless_keyword.append hspace).append (harmless_direction d)).append hopen).append
      (Prefix.harmless_joinedText _)).append hend
  | inSet f d setName =>
    have hmark : Harmless " @" := by decide
    exact (((f.harmless_keyword.append hspace).append (harmless_direction d)).append hmark).append h
  | fromCluster f =>
    have hmark : Harmless " saddr == @" := by decide
    exact (f.harmless_keyword.append hmark).append (by cases f <;> decide)

end Clause

theorem PortClause.harmless_text (c : PortClause) : Harmless c.text := by
  cases c with
  | every p =>
    have hmeta : Harmless "meta l4proto " := by decide
    exact hmeta.append (harmless_protocol p)
  | among p ranges =>
    have hopen : Harmless " dport \x7b " := by decide
    have hend : Harmless " \x7d" := by decide
    refine (((harmless_protocol p).append hopen).append
      (Harmless.intercalate (by decide) fun t ht => ?_)).append hend
    obtain ⟨r, -, rfl⟩ := List.mem_map.1 ht
    exact r.harmless_text

namespace Line

/-! ### Whole lines -/

/-- What is written in front of accepted packets where they are logged. -/
def logMark : String := "nftwall-accepted: "

/-- **Nothing breaks out of a line.**  It holds no control character and ends in a
comment that shows a text; and nothing but that comment stands in quotes in it, and the
mark for the log if packets are logged. -/
structure Closed (logged : Bool) (text line : String) : Prop where
  control : ∀ c ∈ line.toList, Text.isControl c = false
  comment : ∃ comment, Comment.Shows comment text ∧ '"' ∉ comment.toList ∧
    (∃ front, line = front ++ ("comment \"" ++ comment ++ "\"")) ∧
    quoted? line = some ((if logged then [logMark] else []) ++ [comment])

/-- What a line is written from, each part with what is quoted in it. -/
private def quotedParts (l : Line) : List (String × List String) :=
  l.ruleMatches.map (fun m => (m.text, [])) ++ (if l.logged then [(logClause, [logMark])] else [])
    ++ [("counter accept", []), (Comment.clause l.comment, [Comment.sanitized l.comment])]

private theorem text_eq_quotedParts (l : Line) :
    l.text = String.intercalate " " (l.quotedParts.map Prod.fst) := by
  unfold text ruleText quotedParts
  rw [map_text_ruleMatches]
  cases l.logged <;> simp [Function.comp_def]

private theorem flatMap_quotedParts (l : Line) :
    l.quotedParts.flatMap Prod.snd =
      (if l.logged then [logMark] else []) ++ [Comment.sanitized l.comment] := by
  unfold quotedParts
  cases l.logged <;> simp [List.flatMap_map]

/-- A part of a line is written without control characters, and some texts are quoted in it. -/
private def Closes (part : String) (quotes : List String) : Prop :=
  (∀ c ∈ part.toList, Text.isControl c = false) ∧ quoted? part = some quotes

private theorem closes_of_harmless {s : String} (h : Harmless s) : Closes s [] :=
  ⟨fun c hc => (h c hc).2, Text.quoted?_of_notMem fun hmem => (h _ hmem).1 rfl⟩

private theorem closes_quotes {s : String} (h : Harmless s) : Closes ("\"" ++ s ++ "\"") [s] := by
  have hquote : ∀ c ∈ "\"".toList, Text.isControl c = false := List.forall_mem_singleton.2 rfl
  refine ⟨fun c hc => ?_, Text.quoted?_quotes fun hmem => (h _ hmem).1 rfl⟩
  simp only [String.toList_append, List.mem_append] at hc
  rcases hc with (hc | hc) | hc
  · exact hquote c hc
  · exact (h c hc).2
  · exact hquote c hc

private theorem Closes.append {s t : String} {ps qs : List String} (hs : Closes s ps)
    (ht : Closes t qs) :
    Closes (s ++ t) (ps ++ qs) := by
  constructor
  · intro c hc
    rw [String.toList_append] at hc
    exact (List.mem_append.1 hc).elim (hs.1 c) (ht.1 c)
  · rw [Text.quoted?_append hs.2, ht.2, Option.map_some]

private theorem closes_of_mem_quotedParts {l : Line} (h : ∀ c ∈ l.clauses, c.HarmlessName) :
    ∀ p ∈ l.quotedParts, Closes p.1 p.2 := by
  have hmatch : ∀ m ∈ l.ruleMatches, Closes m.text [] := by
    intro m hm
    rcases List.mem_append.1 hm with hm | hm
    · obtain ⟨c, hc, rfl⟩ := List.mem_map.1 hm
      exact closes_of_harmless (Clause.harmless_text (h c hc))
    · obtain ⟨c, -, rfl⟩ := List.mem_map.1 hm
      exact closes_of_harmless c.harmless_text
  have hlog : Closes logClause [logMark] := by
    have hclause :
      logClause = "log prefix " ++ ("\"" ++ logMark ++ "\"") ++ " limit rate 10/second" := by decide
    rw [hclause]
    exact ((closes_of_harmless (by decide)).append (closes_quotes (by decide))).append
      (closes_of_harmless (by decide))
  have haction : Closes "counter accept" [] := closes_of_harmless (by decide)
  have hcomment : Closes (Comment.clause l.comment) [Comment.sanitized l.comment] := by
    have hclause :
        Comment.clause l.comment = "comment " ++ ("\"" ++ Comment.sanitized l.comment ++ "\"") := by
      simp [Comment.clause, ← String.toList_inj]
    rw [hclause]
    exact (closes_of_harmless (by decide)).append
      (closes_quotes (Comment.sanitized_acceptable l.comment).2)
  intro p hp
  unfold quotedParts at hp
  rcases List.mem_append.1 hp with hp | hp
  · rcases List.mem_append.1 hp with hp | hp
    · obtain ⟨m, hm, rfl⟩ := List.mem_map.1 hp
      exact hmatch m hm
    · split at hp
      · exact List.mem_singleton.1 hp ▸ hlog
      · exact absurd hp List.not_mem_nil
  · rcases List.mem_cons.1 hp with rfl | hp
    · exact haction
    · exact List.mem_singleton.1 hp ▸ hcomment

/-- **Nothing breaks out of a line** whose sets have harmless names. -/
theorem closed_text {l : Line} (h : ∀ c ∈ l.clauses, c.HarmlessName) :
    Closed l.logged l.comment l.text := by
  have hparts := closes_of_mem_quotedParts h
  have hspace : Harmless " " := by decide
  constructor
  · rw [text_eq_quotedParts]
    refine Text.forall_mem_intercalate (fun c hc => (hspace c hc).2) fun t ht => ?_
    obtain ⟨p, hp, rfl⟩ := List.mem_map.1 ht
    exact (hparts p hp).1
  · refine ⟨Comment.sanitized l.comment, Comment.sanitized_shows l.comment, ?_, ?_, ?_⟩
    · exact fun hmem => ((Comment.sanitized_acceptable l.comment).2 _ hmem).1 rfl
    · unfold text ruleText
      rw [List.append_cons]
      exact Text.exists_intercalate_concat " " _ (Comment.clause l.comment)
    · rw [text_eq_quotedParts, Text.quoted?_intercalate (by decide) fun p hp => (hparts p hp).2,
        flatMap_quotedParts]

end Line

end Firewall
