/-
The language of a name pattern.

A pattern is written as a regular expression: a star becomes a class that is repeated, a character
that would mean something gets a backslash, and every other character is written as it is.  Read
again, each character of the pattern gives one item (`foldlM_expressionOf`), so the expression is
the items of the pattern between two anchors, and the anchors make it fit whole texts only.

The expression for one star alone does not depend on the pattern, and is read as it stands.

Either way the texts that are matched are those that the pattern stands for, and so the expression
and the rows of `Glob.accepts` decide the same thing.
-/
import Firewall.Name.Selector
import Firewall.Proofs.Name.Expression
import Firewall.Proofs.Name.Filled
import Mathlib.Tactic.Tauto

namespace Firewall.Glob

open Expression
open Name (isHostChar isLabelChar)

/-! ### Classes -/

/-- The ranges of the characters of labels. -/
def labelRanges : List (Char × Char) := [('-', '-'), ('a', 'z'), ('A', 'Z'), ('0', '9'), ('_', '_')]

/-- The range of the dot alone. -/
def dotRanges : List (Char × Char) := [('.', '.')]

theorem inRanges_labelRanges {c : Char} : InRanges labelRanges c ↔ isLabelChar c = true := by
  unfold labelRanges isLabelChar Text.isAlphanumeric
  simp only [inRanges_cons, inRanges_nil, inRanges_single, or_false, Bool.or_eq_true,
    Bool.and_eq_true, decide_eq_true_eq, beq_iff_eq]
  tauto

theorem inRanges_dotRanges {c : Char} : InRanges dotRanges c ↔ c = '.' := by
  unfold dotRanges
  rw [inRanges_cons, inRanges_single, or_iff_left inRanges_nil]

theorem inRanges_hostRanges {c : Char} :
    InRanges (labelRanges ++ dotRanges) c ↔ isHostChar c = true := by
  unfold isHostChar
  rw [inRanges_append, inRanges_labelRanges, inRanges_dotRanges, Bool.or_eq_true, beq_iff_eq]

/-! ### Reading the expression of a pattern -/

/-- What a character of a pattern is read as. -/
def itemOf (c : Char) : Expression :=
  if c = '*' then .many (.oneOf (labelRanges ++ dotRanges)) else .char c

/-- Every operator is written with a backslash, and nothing that may not have one is. -/
theorem operators_subset : operators ⊆ metacharacters := by decide

theorem metacharacters_subset : metacharacters ⊆ escapable := by decide

/-- **A character of a pattern is read as one item.** -/
theorem foldlM_expressionOf (c : Char) (alternatives items : List Expression)
    (outer : List Expression.Level) :
    (expressionOf c).foldlM Reader.step ⟨.plain, ⟨alternatives, items⟩, outer⟩
      = some ⟨.plain, ⟨alternatives, itemOf c :: items⟩, outer⟩ := by
  unfold expressionOf itemOf
  split
  · have hchars : "-a-zA-Z0-9_.".toList.all isClassChar = true := by decide
    have hranges : rangesOf? "-a-zA-Z0-9_.".toList = some (labelRanges ++ dotRanges) := by decide
    have hstar : Reader.step
        ⟨.plain, ⟨alternatives, .oneOf (labelRanges ++ dotRanges) :: items⟩, outer⟩ '*'
        = some ⟨.plain,
          ⟨alternatives, .many (.oneOf (labelRanges ++ dotRanges)) :: items⟩, outer⟩ := by
      have hoperator : '*' ∈ operators := by decide
      simp [Reader.step, Reader.plainStep, Reader.repeated?, hoperator]
    rw [show "[-a-zA-Z0-9_.]*".toList = ('[' :: "-a-zA-Z0-9_.".toList ++ [']']) ++ ['*'] by decide,
      List.foldlM_append, foldlM_class hchars hranges]
    simp [hstar]
  · split
    · rename_i hmeta
      have hbackslash : '\\' ∈ operators := by decide
      simp [Reader.step, Reader.plainStep, Reader.push, metacharacters_subset hmeta, hbackslash]
    · rename_i hplain
      have hliteral : c ∉ operators := fun h => hplain (operators_subset h)
      simp [Reader.step, Reader.plainStep, Reader.push, hliteral]

theorem foldlM_flatMap_expressionOf (pattern : List Char) (alternatives items : List Expression)
    (outer : List Expression.Level) :
    (pattern.flatMap expressionOf).foldlM Reader.step ⟨.plain, ⟨alternatives, items⟩, outer⟩
      = some ⟨.plain, ⟨alternatives, (pattern.map itemOf).reverse ++ items⟩, outer⟩ := by
  induction pattern generalizing items with
  | nil => rfl
  | cons c pattern ih =>
    rw [List.flatMap_cons, List.foldlM_append, foldlM_expressionOf]
    simp [ih]

/-- **The expression of a pattern is its items between anchors.** -/
theorem read?_chars_expression (pattern : List Char) : Expression.read? (chars pattern).expression
    = some (inOrder (.start :: pattern.map itemOf ++ [.finish])) := by
  have hreader : (chars pattern).expression.toList.foldlM Reader.step Reader.init
      = some ⟨.plain, ⟨[], .finish :: ((pattern.map itemOf).reverse ++ [.start])⟩, []⟩ := by
    have hstart : Reader.init.step '^' = some ⟨.plain, ⟨[], [.start]⟩, []⟩ := by decide
    rw [expression, String.toList_ofList, List.cons_append, List.foldlM_cons, hstart]
    show (pattern.flatMap expressionOf ++ ['$']).foldlM Reader.step ⟨.plain, ⟨[], [.start]⟩, []⟩ = _
    have hoperator : '$' ∈ operators := by decide
    rw [List.foldlM_append, foldlM_flatMap_expressionOf]
    simp [Reader.step, Reader.plainStep, Reader.push, hoperator]
  unfold Expression.read?
  rw [hreader]
  show some (inOrder (Expression.finish :: ((pattern.map itemOf).reverse ++ [.start])).reverse) = _
  simp

/-- What is read of the expression for one star alone. -/
def everyNameExpression : Expression :=
  .either
    (inOrder [inOrder [.start,
      .plus (inOrder [.plus (.oneOf labelRanges), .oneOf dotRanges]), .finish]])
    (inOrder [inOrder [.start, .oneOf dotRanges, .finish]])

theorem read?_everyName_expression :
    Expression.read? everyName.expression = some everyNameExpression := by
  decide +kernel

/-! ### What the expressions match -/

/-- **The items of a pattern take up what the pattern stands for.** -/
theorem free_inOrder_itemOf (pattern : List Char) :
    Free (inOrder (pattern.map itemOf)) (Fills pattern) := by
  induction pattern with
  | nil => exact Free.empty.congr fun cs => fills_nil.symm
  | cons c pattern ih =>
    by_cases hc : c = '*'
    · subst hc
      refine ((Free.many_oneOf (labelRanges ++ dotRanges)).both ih).congr fun cs => ?_
      simp only [inRanges_hostRanges, fills_star]
    · have hitem : itemOf c = .char c := if_neg hc
      rw [List.map_cons, hitem]
      refine ((Free.char c).both ih).congr fun cs => ?_
      rw [fills_char hc]
      constructor
      · rintro ⟨_, rest, rfl, rfl, hrest⟩
        exact ⟨rest, rfl, hrest⟩
      · rintro ⟨rest, rfl, hrest⟩
        exact ⟨[c], rest, rfl, rfl, hrest⟩

theorem free_label : Free (inOrder [.plus (.oneOf labelRanges), .oneOf dotRanges]) fun cs =>
    ∃ label : List Char, (label ≠ [] ∧ ∀ c ∈ label, isLabelChar c = true) ∧
    cs = label ++ ['.'] := by
  refine ((Free.plus_oneOf labelRanges).both ((Free.oneOf dotRanges).both .empty)).congr fun cs =>
    ?_
  simp only [inRanges_labelRanges, inRanges_dotRanges]
  constructor
  · rintro ⟨label, _, rfl, hlabel, _, _, rfl, ⟨_, rfl, rfl⟩, rfl⟩
    exact ⟨label, hlabel, rfl⟩
  · rintro ⟨label, hlabel, rfl⟩
    exact ⟨label, ['.'], rfl, hlabel, ['.'], [], rfl, ⟨'.', rfl, rfl⟩, rfl⟩

/-- **What stands for one label, repeated, takes up labels with dots.** -/
theorem free_dotted :
    Free (.plus (inOrder [.plus (.oneOf labelRanges), .oneOf dotRanges])) Dotted := by
  refine free_label.plus.congr fun cs => ?_
  constructor
  · rintro ⟨parts, hne, hparts, rfl⟩
    -- each part ends in its dot
    have hdotted : ∀ p ∈ parts, p.dropLast ++ ['.'] = p := by
      intro p hp
      obtain ⟨label, -, rfl⟩ := hparts p hp
      rw [List.dropLast_concat]
    refine ⟨parts.map List.dropLast, by simpa using hne, ?_, ?_⟩
    · intro l hl
      obtain ⟨p, hp, rfl⟩ := List.mem_map.1 hl
      obtain ⟨label, hlabel, rfl⟩ := hparts p hp
      rwa [List.dropLast_concat]
    · rw [List.flatMap_map, List.flatMap_def, List.map_congr_left hdotted, List.map_id']
  · rintro ⟨labels, hne, hlabels, rfl⟩
    refine ⟨labels.map (· ++ ['.']), by simpa using hne, ?_, List.flatMap_def⟩
    intro p hp
    obtain ⟨label, hmem, rfl⟩ := List.mem_map.1 hp
    exact ⟨label, hlabels label hmem, rfl⟩

theorem isMatch_chars {pattern : List Char} {name : String} :
    (inOrder (.start :: pattern.map itemOf ++ [.finish])).IsMatch name ↔
      Fills pattern name.toList := by
  rw [isMatch_anchored]
  exact free_inOrder_itemOf pattern _ _ _

theorem isMatch_everyNameExpression {name : String} :
    everyNameExpression.IsMatch name ↔ name = "." ∨ Dotted name.toList := by
  have hlabels :
      (inOrder (.start :: [.plus (inOrder [.plus (.oneOf labelRanges), .oneOf dotRanges])]
      ++ [.finish])).IsMatch name ↔ Dotted name.toList := by
    rw [isMatch_anchored, fits_singleton]
    exact free_dotted _ _ _
  have hroot : (inOrder (.start :: [.oneOf dotRanges] ++ [.finish])).IsMatch name ↔ name = "." := by
    rw [isMatch_anchored, fits_singleton, Free.oneOf dotRanges]
    simp only [inRanges_dotRanges, exists_eq_right]
    rw [← String.toList_inj]
    rfl
  rw [everyNameExpression, isMatch_either, isMatch_singleton, isMatch_singleton]
  exact (or_congr hlabels hroot).trans or_comm

/-- **A selector's expression can be read, and it matches what the text stands for.** -/
theorem exists_read?_expression (selector : Selector) :
    ∃ e, Expression.read? selector.glob.expression = some e ∧
    ∀ name, e.IsMatch name ↔ Describes selector.text name := by
  unfold Selector.glob ofText Describes
  dsimp only
  split
  · exact ⟨everyNameExpression, read?_everyName_expression, fun name => isMatch_everyNameExpression⟩
  · exact ⟨_, read?_chars_expression _, fun name => isMatch_chars⟩

/-- The expression of a selector matches the names that its text stands
for, and these are accepted. -/
theorem expression_describes (selector : Selector) :
    ∃ e, Expression.read? selector.glob.expression = some e ∧
      ∀ name, (e.IsMatch name ↔ Describes selector.text name) ∧
        (selector.glob.accepts name = true ↔ Describes selector.text name) := by
  obtain ⟨e, he, hmatch⟩ := exists_read?_expression selector
  exact ⟨e, he, fun name => ⟨hmatch name, accepts_ofText_iff⟩⟩

end Firewall.Glob
