/-
Regular expressions: what they match, and how their texts are read.

An expression takes up a part of a text.  Whether it fits can depend on what is in front of that
part and behind it, since an anchor looks at nothing else (`Fits`).  A text is matched when an
expression fits some part of it, so where the anchors are decides whether it has to fit the whole.
What does not look around has a language of its own (`Free`), and the languages of larger
expressions are made from those of their parts.

Texts are read one character after the other (`Reader.step`).  Only what name patterns are written
with is read: characters that mean nothing else, escaped ones, classes of letters and digits,
repetition, groups, alternatives and anchors.  Everything else is not read at all, so that nothing
is given a meaning that it does not have.  Which characters mean something else is said here
(`operators`), whatever a pattern is written with: an operator that is written without its
backslash is read as the operator.
-/
import Firewall.Name.Glob

namespace Firewall

/-- A regular expression. -/
inductive Expression where
  /-- Fits without taking up anything. -/
  | empty
  | char (c : Char)
  /-- One character that lies in one of the ranges, both ends included. -/
  | oneOf (ranges : List (Char × Char))
  /-- Fits where nothing is in front. -/
  | start
  /-- Fits where nothing is behind. -/
  | finish
  | both (first second : Expression)
  | either (left right : Expression)
  /-- Any number of times, one after the other, or not at all. -/
  | many (e : Expression)
  deriving DecidableEq, Repr

namespace Expression

/-- A character lies in one of the ranges. -/
def InRanges (ranges : List (Char × Char)) (c : Char) : Prop :=
  ∃ range ∈ ranges, range.1 ≤ c ∧ c ≤ range.2

/-- An expression fits a part of a text, with what is in front of the part and what is behind it. -/
inductive Fits : (e : Expression) → (before part behind : List Char) → Prop
  | empty {before behind : List Char} : Fits .empty before [] behind
  | char {c : Char} {before behind : List Char} : Fits (.char c) before [c] behind
  | oneOf {ranges : List (Char × Char)} {c : Char} {before behind : List Char}
    (h : InRanges ranges c) :
    Fits (.oneOf ranges) before [c] behind
  | start {behind : List Char} : Fits .start [] [] behind
  | finish {before : List Char} : Fits .finish before [] []
  | both {first second : Expression} {before part more behind : List Char} :
    Fits first before part (more ++ behind) → Fits second (before ++ part) more behind →
      Fits (.both first second) before (part ++ more) behind
  | left {left right : Expression} {before part behind : List Char} :
    Fits left before part behind → Fits (.either left right) before part behind
  | right {left right : Expression} {before part behind : List Char} :
    Fits right before part behind → Fits (.either left right) before part behind
  | none {e : Expression} {before behind : List Char} : Fits (.many e) before [] behind
  | once {e : Expression} {before part more behind : List Char} :
    Fits e before part (more ++ behind) → Fits (.many e) (before ++ part) more behind →
      Fits (.many e) before (part ++ more) behind

/-- A text is matched when an expression fits some part of it. -/
def IsMatch (e : Expression) (s : String) : Prop :=
  ∃ before part behind, s.toList = before ++ part ++ behind ∧ e.Fits before part behind

/-- Expressions one after the other. -/
def inOrder : List Expression → Expression
  | [] => .empty
  | e :: rest => .both e (inOrder rest)

/-- Once or more often. -/
def plus (e : Expression) : Expression := .both e (.many e)

/-! ### Reading -/

/-- The characters that mean something where they stand. -/
def operators : List Char :=
  ['\\', '.', '+', '*', '?', '(', ')', '|', '[', ']', '\x7b', '\x7d', '^', '$']

/-- The characters that stand for themselves behind a backslash: the operators, and those that
mean something inside a class or where blanks are left out. -/
def escapable : List Char := operators ++ ['#', '&', '-', '~']

/-- The characters that a class is written with. -/
def isClassChar (c : Char) : Bool := Text.isAlphanumeric c || c ∈ ['-', '_', '.']

/-- The ranges that are written between brackets.  A dash with a letter or digit on either side
makes a range of them, and every other character is a range of its own. -/
def rangesOf? : List Char → Option (List (Char × Char))
  | [] => some []
  | first :: '-' :: last :: rest =>
    if Text.isAlphanumeric first ∧ Text.isAlphanumeric last ∧ first ≤ last then
      (rangesOf? rest).map ((first, last) :: ·)
    else none
  | c :: rest => (rangesOf? rest).map ((c, c) :: ·)

/-- What the next character is a part of. -/
inductive Mode where
  | plain
  /-- A character with a backslash in front. -/
  | escape
  /-- A class, of which some characters were read, the latest first. -/
  | ranges (seen : List Char)
  deriving DecidableEq, Repr

/-- What was read inside one pair of parentheses: the alternatives that are complete, and the items
of the one that is not, each with the latest first. -/
structure Level where
  alternatives : List Expression
  items : List Expression
  deriving DecidableEq, Repr

/-- What was read inside a pair of parentheses, as one expression. -/
def Level.expression (l : Level) : Expression :=
  l.alternatives.foldl (fun later e => .either e later) (inOrder l.items.reverse)

/-- How far a text was read: inside which parentheses, the innermost first. -/
structure Reader where
  mode : Mode
  level : Level
  outer : List Level
  deriving DecidableEq, Repr

namespace Reader

/-- Nothing was read. -/
def init : Reader := ⟨.plain, ⟨[], []⟩, []⟩

/-- One more item. -/
def push (e : Expression) (r : Reader) : Reader :=
  { r with mode := .plain, level := { r.level with items := e :: r.level.items } }

/-- The last item, repeated. -/
def repeated? (f : Expression → Expression) (r : Reader) : Option Reader :=
  match r.level.items with
  | [] => none
  | e :: items => some { r with level := { r.level with items := f e :: items } }

/-- The item that a pair of parentheses is. -/
def closed? (r : Reader) : Option Reader :=
  match r.outer with
  | [] => none
  | level :: outer => some (push r.level.expression { r with level := level, outer := outer })

/-- Reads a character that is neither escaped nor in a class. -/
def plainStep (r : Reader) (c : Char) : Option Reader :=
  if c ∉ operators then some (r.push (.char c))
  else if c = '\\' then some { r with mode := .escape }
  else if c = '[' then some { r with mode := .ranges [] }
  else if c = '^' then some (r.push .start)
  else if c = '$' then some (r.push .finish)
  else if c = '*' then r.repeated? .many
  else if c = '+' then r.repeated? plus
  else if c = '|' then
    some { r with level := ⟨inOrder r.level.items.reverse :: r.level.alternatives, []⟩ }
  else if c = '(' then some { r with level := ⟨[], []⟩, outer := r.level :: r.outer }
  else if c = ')' then r.closed?
  else none

/-- Reads one more character. -/
def step (r : Reader) (c : Char) : Option Reader :=
  match r.mode with
  | .plain => r.plainStep c
  | .escape => if c ∈ escapable then some (r.push (.char c)) else none
  | .ranges seen =>
    if c = ']' then (rangesOf? seen.reverse).map fun ranges => r.push (.oneOf ranges)
    else if isClassChar c then some { r with mode := .ranges (c :: seen) }
    else none

/-- What was read, where nothing is left open. -/
def done? (r : Reader) : Option Expression :=
  match r.mode, r.outer with
  | .plain, [] => some r.level.expression
  | _, _ => none

end Reader

/-- Reads the text of an expression. -/
def read? (text : String) : Option Expression := do
  let r ← text.toList.foldlM Reader.step Reader.init
  r.done?

/-! ### Classes -/

theorem foldlM_classChars {cs : List Char} (h : cs.all isClassChar = true) (seen : List Char)
    (level : Level) (outer : List Level) : cs.foldlM Reader.step ⟨.ranges seen, level, outer⟩
      = some ⟨.ranges (cs.reverse ++ seen), level, outer⟩ := by
  induction cs generalizing seen with
  | nil => rfl
  | cons c cs ih =>
    rw [List.all_cons, Bool.and_eq_true] at h
    obtain ⟨hc, hcs⟩ := h
    have hopen : c ≠ ']' := by
      rintro rfl
      exact absurd hc (by decide)
    have hstep : Reader.step ⟨.ranges seen, level, outer⟩ c =
        some ⟨.ranges (c :: seen), level, outer⟩ := by
      simp [Reader.step, hopen, hc]
    rw [List.foldlM_cons, hstep, List.reverse_cons, List.append_assoc]
    exact ih hcs (c :: seen)

/-- **A class is read as its ranges.** -/
theorem foldlM_class {cs : List Char} (h : cs.all isClassChar = true) {ranges : List (Char × Char)}
    (hranges : rangesOf? cs = some ranges) (alternatives items : List Expression)
    (outer : List Level) :
    ('[' :: cs ++ [']']).foldlM Reader.step ⟨.plain, ⟨alternatives, items⟩, outer⟩
      = some ⟨.plain, ⟨alternatives, .oneOf ranges :: items⟩, outer⟩ := by
  have hopen : Reader.step ⟨.plain, ⟨alternatives, items⟩, outer⟩ '['
      = some ⟨.ranges [], ⟨alternatives, items⟩, outer⟩ := by
    have hoperator : '[' ∈ operators := by decide
    simp [Reader.step, Reader.plainStep, hoperator]
  rw [List.cons_append, List.foldlM_cons, hopen]
  show (cs ++ [']']).foldlM Reader.step ⟨.ranges [], ⟨alternatives, items⟩, outer⟩ = _
  rw [List.foldlM_append, foldlM_classChars h]
  simp [Reader.step, hranges, Reader.push]

theorem inRanges_single {c d : Char} : d ≤ c ∧ c ≤ d ↔ c = d := by
  constructor
  · rintro ⟨hle, hge⟩
    exact Char.le_antisymm hge hle
  · rintro rfl
    exact ⟨Char.le_refl c, Char.le_refl c⟩

theorem inRanges_nil {c : Char} : ¬ InRanges [] c := by
  rintro ⟨range, hrange, -⟩
  exact absurd hrange List.not_mem_nil

theorem inRanges_cons {range : Char × Char} {ranges : List (Char × Char)} {c : Char} :
    InRanges (range :: ranges) c ↔ (range.1 ≤ c ∧ c ≤ range.2) ∨ InRanges ranges c := by
  unfold InRanges
  simp only [List.mem_cons, exists_eq_or_imp]

theorem inRanges_append {ranges more : List (Char × Char)} {c : Char} :
    InRanges (ranges ++ more) c ↔ InRanges ranges c ∨ InRanges more c := by
  unfold InRanges
  simp only [List.mem_append, or_and_right, exists_or]

/-! ### What is taken up by the parts of an expression -/

variable {before part behind : List Char}

theorem fits_empty : Fits .empty before part behind ↔ part = [] := by
  constructor
  · intro h
    cases h
    rfl
  · rintro rfl
    exact .empty

theorem fits_start : Fits .start before part behind ↔ before = [] ∧ part = [] := by
  constructor
  · intro h
    cases h
    exact ⟨rfl, rfl⟩
  · rintro ⟨rfl, rfl⟩
    exact .start

theorem fits_finish : Fits .finish before part behind ↔ part = [] ∧ behind = [] := by
  constructor
  · intro h
    cases h
    exact ⟨rfl, rfl⟩
  · rintro ⟨rfl, rfl⟩
    exact .finish

theorem fits_both {first second : Expression} : Fits (.both first second) before part behind ↔
    ∃ x y, part = x ++ y ∧ first.Fits before x (y ++ behind) ∧
    second.Fits (before ++ x) y behind := by
  constructor
  · intro h
    cases h with
    | both hfirst hsecond => exact ⟨_, _, rfl, hfirst, hsecond⟩
  · rintro ⟨x, y, rfl, hfirst, hsecond⟩
    exact .both hfirst hsecond

theorem fits_either {left right : Expression} : Fits (.either left right) before part behind ↔
    left.Fits before part behind ∨ right.Fits before part behind := by
  constructor
  · intro h
    cases h with
    | left h => exact .inl h
    | right h => exact .inr h
  · rintro (h | h)
    · exact .left h
    · exact .right h

theorem fits_singleton {e : Expression} :
    (inOrder [e]).Fits before part behind ↔ e.Fits before part behind := by
  unfold inOrder inOrder
  simp only [fits_both, fits_empty]
  constructor
  · rintro ⟨x, y, rfl, h, rfl⟩
    simpa using h
  · intro h
    exact ⟨part, [], (List.append_nil part).symm, h, rfl⟩

/-- **What expressions take up in order is cut wherever they are.** -/
theorem fits_inOrder_append {as bs : List Expression} :
    (inOrder (as ++ bs)).Fits before part behind ↔
    ∃ x y, part = x ++ y ∧ (inOrder as).Fits before x (y ++ behind) ∧
    (inOrder bs).Fits (before ++ x) y behind := by
  induction as generalizing before part with
  | nil =>
    simp only [List.nil_append, inOrder, fits_empty]
    constructor
    · intro h
      exact ⟨[], part, rfl, rfl, by rwa [List.append_nil]⟩
    · rintro ⟨x, y, rfl, rfl, h⟩
      rwa [List.append_nil] at h
  | cons a as ih =>
    simp only [List.cons_append, inOrder, fits_both, ih]
    constructor
    · rintro ⟨x, _, rfl, ha, y, z, rfl, has, hbs⟩
      refine ⟨x ++ y, z, (List.append_assoc x y z).symm, ⟨x, y, rfl, ?_, has⟩, ?_⟩
      · rwa [← List.append_assoc]
      · rwa [← List.append_assoc]
    · rintro ⟨_, z, rfl, ⟨x, y, rfl, ha, has⟩, hbs⟩
      refine ⟨x, y ++ z, List.append_assoc x y z, ?_, y, z, rfl, has, ?_⟩
      · rwa [List.append_assoc]
      · rwa [List.append_assoc]

/-! ### Matching a whole text -/

theorem isMatch_singleton {e : Expression} {s : String} :
    (inOrder [e]).IsMatch s ↔ e.IsMatch s := by
  unfold IsMatch
  simp only [fits_singleton]

theorem isMatch_either {left right : Expression} {s : String} :
    (either left right).IsMatch s ↔ left.IsMatch s ∨ right.IsMatch s := by
  unfold IsMatch
  simp only [fits_either]
  constructor
  · rintro ⟨before, part, behind, hs, h | h⟩
    · exact .inl ⟨before, part, behind, hs, h⟩
    · exact .inr ⟨before, part, behind, hs, h⟩
  · rintro (⟨before, part, behind, hs, h⟩ | ⟨before, part, behind, hs, h⟩)
    · exact ⟨before, part, behind, hs, .inl h⟩
    · exact ⟨before, part, behind, hs, .inr h⟩

theorem fits_anchored {es : List Expression} :
    (inOrder (start :: es ++ [finish])).Fits before part behind ↔
    before = [] ∧ behind = [] ∧ (inOrder es).Fits [] part [] := by
  rw [List.cons_append, inOrder, fits_both]
  simp only [fits_start, fits_inOrder_append, fits_singleton, fits_finish]
  constructor
  · rintro ⟨_, _, rfl, ⟨rfl, rfl⟩, x, y, rfl, h, rfl, rfl⟩
    exact ⟨rfl, rfl, by simpa using h⟩
  · rintro ⟨rfl, rfl, h⟩
    exact ⟨[], part, rfl, ⟨rfl, rfl⟩, part, [],
      (List.append_nil part).symm, by simpa using h, rfl, rfl⟩

/-- **Between anchors the whole text is taken up.** -/
theorem isMatch_anchored {es : List Expression} {s : String} :
    (inOrder (start :: es ++ [finish])).IsMatch s ↔ (inOrder es).Fits [] s.toList [] := by
  unfold IsMatch
  simp only [fits_anchored]
  constructor
  · rintro ⟨before, part, behind, hs, rfl, rfl, h⟩
    rwa [hs, List.append_nil, List.nil_append]
  · intro h
    exact ⟨[], s.toList, [], by simp, rfl, rfl, h⟩

/-! ### Expressions with a language of their own -/

/-- An expression fits the texts of a language, whatever is in front of them or behind them. -/
def Free (e : Expression) (language : List Char → Prop) : Prop :=
  ∀ before part behind, e.Fits before part behind ↔ language part

namespace Free

variable {e first second : Expression} {L M : List Char → Prop}

theorem congr (h : Free e L) (heq : ∀ cs, L cs ↔ M cs) : Free e M :=
  fun before part behind => (h before part behind).trans (heq part)

theorem empty : Free .empty (· = []) := fun _ _ _ => fits_empty

theorem char (c : Char) : Free (.char c) (· = [c]) := by
  intro before part behind
  constructor
  · intro h
    cases h
    rfl
  · rintro rfl
    exact .char

theorem oneOf (ranges : List (Char × Char)) :
    Free (.oneOf ranges) fun cs => ∃ c, cs = [c] ∧ InRanges ranges c := by
  intro before part behind
  constructor
  · intro h
    cases h with
    | oneOf hc => exact ⟨_, rfl, hc⟩
  · rintro ⟨c, rfl, hc⟩
    exact .oneOf hc

theorem both (hfirst : Free first L) (hsecond : Free second M) :
    Free (.both first second) fun cs => ∃ x y, cs = x ++ y ∧ L x ∧ M y := by
  intro before part behind
  rw [fits_both]
  simp only [hfirst before _ _, hsecond _ _ behind]

/-- What is repeated takes up parts of its language, one after the other. -/
theorem many (h : Free e L) :
    Free (.many e) fun cs => ∃ parts : List (List Char), (∀ p ∈ parts, L p) ∧
    cs = parts.flatten := by
  intro before part behind
  constructor
  · intro hfits
    generalize hmany : Expression.many e = m at hfits
    induction hfits with
    | none => exact ⟨[], fun _ hp => absurd hp List.not_mem_nil, rfl⟩
    | once hpart _ _ ih =>
      cases hmany
      obtain ⟨parts, hparts, rfl⟩ := ih rfl
      exact ⟨_ :: parts, List.forall_mem_cons.2 ⟨(h _ _ _).1 hpart, hparts⟩, rfl⟩
    | _ => cases hmany
  · rintro ⟨parts, hparts, rfl⟩
    induction parts generalizing before with
    | nil => exact .none
    | cons p parts ih =>
      obtain ⟨hp, hmore⟩ := List.forall_mem_cons.1 hparts
      exact .once ((h _ _ _).2 hp) (ih _ hmore)

theorem plus (h : Free e L) : Free (.plus e) fun cs =>
    ∃ parts : List (List Char), parts ≠ [] ∧ (∀ p ∈ parts, L p) ∧ cs = parts.flatten := by
  refine (h.both h.many).congr fun cs => ?_
  constructor
  · rintro ⟨part, _, rfl, hpart, parts, hparts, rfl⟩
    exact ⟨part :: parts, List.cons_ne_nil part parts, List.forall_mem_cons.2 ⟨hpart, hparts⟩, rfl⟩
  · rintro ⟨parts, hne, hparts, rfl⟩
    obtain ⟨part, more, rfl⟩ := List.exists_cons_of_ne_nil hne
    obtain ⟨hpart, hmore⟩ := List.forall_mem_cons.1 hparts
    exact ⟨part, more.flatten, rfl, hpart, more, hmore, rfl⟩

theorem many_oneOf (ranges : List (Char × Char)) :
    Free (.many (.oneOf ranges)) fun cs => ∀ c ∈ cs, InRanges ranges c := by
  refine (oneOf ranges).many.congr fun cs => ?_
  constructor
  · rintro ⟨parts, hparts, rfl⟩ c hc
    obtain ⟨part, hpart, hmem⟩ := List.mem_flatten.1 hc
    obtain ⟨d, rfl, hd⟩ := hparts part hpart
    rwa [List.mem_singleton.1 hmem]
  · intro h
    refine ⟨cs.map ([·]), ?_, by rw [← List.flatMap_def, List.flatMap_singleton']⟩
    intro part hpart
    obtain ⟨c, hc, rfl⟩ := List.mem_map.1 hpart
    exact ⟨c, rfl, h c hc⟩

theorem plus_oneOf (ranges : List (Char × Char)) :
    Free (.plus (.oneOf ranges)) fun cs => cs ≠ [] ∧ ∀ c ∈ cs, InRanges ranges c := by
  refine ((oneOf ranges).both (many_oneOf ranges)).congr fun cs => ?_
  constructor
  · rintro ⟨_, more, rfl, ⟨c, rfl, hc⟩, hmore⟩
    exact ⟨List.cons_ne_nil c more, List.forall_mem_cons.2 ⟨hc, hmore⟩⟩
  · rintro ⟨hne, h⟩
    obtain ⟨c, more, rfl⟩ := List.exists_cons_of_ne_nil hne
    obtain ⟨hc, hmore⟩ := List.forall_mem_cons.1 h
    exact ⟨[c], more, rfl, ⟨c, rfl, hc⟩, hmore⟩

end Free

end Expression

end Firewall
