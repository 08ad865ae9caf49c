/-
What patterns stand for.

A pattern stands for the texts that come from it when each star is filled with a run of host
name characters (`Fills`).  The stars are filled independently of each other, a run may be
empty, and it may go over dots, so a text can come from a pattern in several ways.

A pattern is decided row by row, from its end to its start, with an entry for every end of the
text.  The rows for an end of the text are the ends of the rows (`row_cons`), so what is proved
here about one row and one more character of the pattern is all that the rows do.

The pattern that is one star alone is decided apart, by cutting the text at its dots; it stands
for the labels that each end in a dot (`Dotted`).
-/
import Firewall.Name.Glob
import Firewall.Proofs.Text.Pieces

namespace Firewall.Glob

open Name (isHostChar isLabelChar)

/-- The texts that come from a pattern: every star is filled with a run of host name
characters, and what is no star is itself. -/
inductive Fills : List Char → List Char → Prop
  | nil : Fills [] []
  | char {c : Char} {pattern text : List Char} (h : c ≠ '*') : Fills pattern text →
    Fills (c :: pattern) (c :: text)
  | star {run pattern text : List Char} (h : ∀ c ∈ run, isHostChar c = true) :
    Fills pattern text → Fills ('*' :: pattern) (run ++ text)

/-- One or more labels, each with a dot behind it. -/
def Dotted (cs : List Char) : Prop :=
  ∃ labels : List (List Char), labels ≠ [] ∧
  (∀ label ∈ labels, label ≠ [] ∧ ∀ c ∈ label, isLabelChar c = true) ∧
    cs = labels.flatMap (· ++ ['.'])

/-! ### Filling one more character of a pattern -/

theorem fills_nil {text : List Char} : Fills [] text ↔ text = [] := by
  constructor
  · intro h
    cases h
    rfl
  · rintro rfl
    exact .nil

theorem fills_char {c : Char} (hc : c ≠ '*') {pattern text : List Char} :
    Fills (c :: pattern) text ↔ ∃ rest, text = c :: rest ∧ Fills pattern rest := by
  constructor
  · intro h
    cases h with
    | char _ hrest => exact ⟨_, rfl, hrest⟩
    | star _ _ => exact absurd rfl hc
  · rintro ⟨rest, rfl, hrest⟩
    exact .char hc hrest

theorem fills_star {pattern text : List Char} : Fills ('*' :: pattern) text ↔
    ∃ run rest, text = run ++ rest ∧ (∀ c ∈ run, isHostChar c = true) ∧ Fills pattern rest := by
  constructor
  · intro h
    cases h with
    | char hc _ => exact absurd rfl hc
    | star hrun hrest => exact ⟨_, _, rfl, hrun, hrest⟩
  · rintro ⟨run, rest, rfl, hrun, hrest⟩
    exact .star hrun hrest

theorem fills_star_nil {pattern : List Char} : Fills ('*' :: pattern) [] ↔ Fills pattern [] := by
  rw [fills_star]
  constructor
  · rintro ⟨run, rest, hnil, -, hrest⟩
    obtain ⟨-, rfl⟩ := List.append_eq_nil_iff.1 hnil.symm
    exact hrest
  · intro h
    exact ⟨[], [], rfl, fun _ hc => absurd hc List.not_mem_nil, h⟩

theorem fills_star_cons {x : Char} {pattern text : List Char} : Fills ('*' :: pattern) (x :: text) ↔
    Fills pattern (x :: text) ∨ isHostChar x = true ∧ Fills ('*' :: pattern) text := by
  constructor
  · intro h
    obtain ⟨run, rest, htext, hrun, hrest⟩ := fills_star.1 h
    cases run with
    | nil => exact .inl (htext ▸ hrest)
    | cons y run =>
      obtain ⟨hy, hmore⟩ := List.forall_mem_cons.1 hrun
      obtain ⟨rfl, rfl⟩ := List.cons.inj htext
      exact .inr ⟨hy, .star hmore hrest⟩
  · rintro (h | ⟨hx, h⟩)
    · exact fills_star.2 ⟨[], x :: text, rfl, fun _ hc => absurd hc List.not_mem_nil, h⟩
    · obtain ⟨run, rest, rfl, hrun, hrest⟩ := fills_star.1 h
      exact fills_star.2 ⟨x :: run, rest, rfl, List.forall_mem_cons.2 ⟨hx, hrun⟩, hrest⟩

theorem fills_of_starless {pattern : List Char} (h : '*' ∉ pattern) {text : List Char} :
    Fills pattern text ↔ text = pattern := by
  induction pattern generalizing text with
  | nil => exact fills_nil
  | cons c pattern ih =>
    have hc : c ≠ '*' := fun hstar => h (hstar ▸ List.mem_cons_self)
    rw [fills_char hc]
    constructor
    · rintro ⟨rest, rfl, hrest⟩
      rw [(ih fun hmem => h (List.mem_cons_of_mem c hmem)).1 hrest]
    · rintro rfl
      exact ⟨pattern, rfl, (ih fun hmem => h (List.mem_cons_of_mem c hmem)).2 rfl⟩

/-! ### Rows -/

theorem row_cons (x : Char) (text pattern : List Char) :
    row (x :: text) pattern = (row (x :: text) pattern).headD false :: row text pattern := by
  induction pattern with
  | nil => rfl
  | cons c pattern ih =>
    unfold row
    rw [ih]
    split
    · rfl
    · rfl

/-- **The first entry of the row says whether the text comes from the pattern.** -/
theorem head_row_iff {pattern text : List Char} :
    (row text pattern).headD false = true ↔ Fills pattern text := by
  induction pattern generalizing text with
  | nil =>
    rw [fills_nil]
    cases text with
    | nil => simp [row]
    | cons x text => simp [row]
  | cons c pattern ih =>
    by_cases hc : c = '*'
    · subst hc
      -- the row is filled from the end of the text
      induction text with
      | nil => exact ih.trans fills_star_nil.symm
      | cons x text ihtext =>
        have hhead : (row (x :: text) ('*' :: pattern)).headD false
            = ((row (x :: text) pattern).headD false ||
              (isHostChar x && (row text ('*' :: pattern)).headD false)) := by
          show (starRow (x :: text) (row (x :: text) pattern)).headD false = _
          rw [row_cons x text pattern]
          rfl
        rw [hhead, fills_star_cons, Bool.or_eq_true, Bool.and_eq_true, ih, ihtext]
    · rw [fills_char hc, row, if_neg hc]
      cases text with
      | nil => simp [charRow]
      | cons x text =>
        rw [row_cons x text pattern, charRow, List.headD_cons, Bool.and_eq_true, beq_iff_eq, ih]
        constructor
        · rintro ⟨rfl, hrest⟩
          exact ⟨text, rfl, hrest⟩
        · rintro ⟨rest, heq, hrest⟩
          obtain ⟨rfl, rfl⟩ := List.cons.inj heq
          exact ⟨rfl, hrest⟩

theorem accepts_chars_iff {pattern : List Char} {name : String} :
    (chars pattern).accepts name = true ↔ Fills pattern name.toList := head_row_iff

/-! ### Labels -/

private theorem join_concat_nil {labels : List (List Char)} (h : labels ≠ []) :
    Text.join ['.'] (labels ++ [[]]) = labels.flatMap (· ++ ['.']) := by
  induction labels with
  | nil => exact absurd rfl h
  | cons label more ih =>
    cases more with
    | nil => simp [Text.join]
    | cons next more =>
      rw [List.flatMap_cons, ← ih (List.cons_ne_nil next more)]
      rfl

/-- **Cutting at the dots finds the labels.** -/
theorem isDottedLabels_iff {cs : List Char} : isDottedLabels cs = true ↔ Dotted cs := by
  unfold isDottedLabels
  simp only [Bool.and_eq_true, beq_iff_eq, decide_eq_true_eq, List.all_eq_true, Bool.not_eq_true',
    List.isEmpty_eq_false_iff]
  constructor
  · rintro ⟨⟨hlast, hlength⟩, hlabels⟩
    obtain ⟨labels, hpieces⟩ := List.getLast?_eq_some_iff.1 hlast
    rw [hpieces, List.dropLast_concat] at hlabels
    have hne : labels ≠ [] := by
      rintro rfl
      rw [hpieces] at hlength
      exact absurd hlength (by decide)
    refine ⟨labels, hne, hlabels, ?_⟩
    rw [← join_concat_nil hne, ← hpieces, Text.join_pieces]
  · rintro ⟨labels, hne, hlabels, rfl⟩
    have hdotless : ∀ piece ∈ labels ++ [[]], '.' ∉ piece := by
      intro piece hpiece hdot
      rcases List.mem_append.1 hpiece with hpiece | hpiece
      · exact absurd ((hlabels piece hpiece).2 '.' hdot) (by decide)
      · rw [List.mem_singleton.1 hpiece] at hdot
        exact absurd hdot List.not_mem_nil
    have hpieces : Text.pieces '.' (labels.flatMap (· ++ ['.'])) = labels ++ [[]] := by
      rw [← join_concat_nil hne]
      exact Text.pieces_join (List.append_ne_nil_of_right_ne_nil _ (List.cons_ne_nil _ _)) hdotless
    have hlength : 0 < labels.length := List.length_pos_iff.2 hne
    rw [hpieces, List.dropLast_concat, List.getLast?_concat, List.length_append]
    exact ⟨⟨rfl, Nat.succ_le_succ hlength⟩, hlabels⟩

/-! ### The text of a selector -/

/-- The names that a text stands for: one star alone for the root and for labels with dots, every
other text for the names that come from it. -/
def Describes (text name : String) : Prop :=
  if Name.withoutFinalDots (Name.qualify text.toList) = ['*'] then name = "." ∨ Dotted name.toList
  else Fills (Name.qualify text.toList) name.toList

/-- **What is accepted is what the text stands for.** -/
theorem accepts_ofText_iff {text name : String} :
    (ofText text).accepts name = true ↔ Describes text name := by
  unfold ofText Describes
  dsimp only
  split
  · rw [accepts, Bool.or_eq_true, beq_iff_eq, isDottedLabels_iff]
  · exact accepts_chars_iff

end Firewall.Glob
