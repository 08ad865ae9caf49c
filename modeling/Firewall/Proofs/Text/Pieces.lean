/-
Cutting a text where it was put together.

`join_pieces` says that cutting loses nothing.  Here is the other half: pieces that
do not hold the separator come back as they were, so what is written between
separators can be read again piece by piece.  Everything rests on one equation,
that a text with a separator in it is cut on either side of it.
-/
import Firewall.Text.Split

namespace Firewall.Text

/-! ### Pieces -/

/-- **Cutting splits at a separator.** -/
theorem pieces_append_cons (sep : Char) (a b : List Char) :
    pieces sep (a ++ sep :: b) = pieces sep a ++ pieces sep b := by
  unfold pieces
  induction a with
  | nil => simp [piecesBy]
  | cons c rest ih =>
    rw [List.cons_append]
    by_cases hc : (c == sep) = true
    · simp [piecesBy, hc, ih]
    · obtain ⟨piece, more, hp⟩ := List.exists_cons_of_ne_nil (piecesBy_ne_nil (· == sep) rest)
      rw [hp] at ih
      simp [piecesBy, hc, ih, hp]

theorem pieces_of_notMem {sep : Char} {cs : List Char} (h : sep ∉ cs) : pieces sep cs = [cs] := by
  unfold pieces
  induction cs with
  | nil => rfl
  | cons c rest ih =>
    simp only [List.mem_cons, not_or] at h
    obtain ⟨hc, hrest⟩ := h
    have hne : (c == sep) = false := by simpa using Ne.symm hc
    simp [piecesBy, hne, ih hrest]

/-- **Pieces come back from the text that they were joined to.** -/
theorem pieces_join {sep : Char} {ps : List (List Char)} (hne : ps ≠ []) (h : ∀ p ∈ ps, sep ∉ p) :
    pieces sep (join [sep] ps) = ps := by
  induction ps with
  | nil => exact absurd rfl hne
  | cons p more ih =>
    have hp : sep ∉ p := h p List.mem_cons_self
    cases more with
    | nil => exact pieces_of_notMem hp
    | cons q more =>
      have hrest := ih (List.cons_ne_nil q more) fun r hr => h r (List.mem_cons_of_mem p hr)
      show pieces sep (p ++ [sep] ++ join [sep] (q :: more)) = p :: q :: more
      rw [List.append_assoc, List.singleton_append, pieces_append_cons, pieces_of_notMem hp, hrest]
      rfl

theorem pieces_append_of_notMem {sep : Char} {b : List Char} (h : sep ∉ b) (a : List Char) :
    ∃ init last, pieces sep a = init ++ [last] ∧ pieces sep (a ++ b) = init ++ [last ++ b] := by
  induction a with
  | nil => exact ⟨[], [], rfl, pieces_of_notMem h⟩
  | cons c rest ih =>
    obtain ⟨init, last, hrest, happend⟩ := ih
    unfold pieces at hrest happend ⊢
    by_cases hc : (c == sep) = true
    · refine ⟨[] :: init, last, ?_, ?_⟩
      · simp [piecesBy, hc, hrest]
      · simp [piecesBy, hc, happend]
    · cases init with
      | nil =>
        refine ⟨[], c :: last, ?_, ?_⟩
        · simp [piecesBy, hc, hrest]
        · simp [piecesBy, hc, happend]
      | cons piece init =>
        refine ⟨(c :: piece) :: init, last, ?_, ?_⟩
        · simp [piecesBy, hc, hrest]
        · simp [piecesBy, hc, happend]

theorem mem_join {sep : List Char} {ps : List (List Char)} {c : Char} (h : c ∈ join sep ps) :
    c ∈ sep ∨ ∃ p ∈ ps, c ∈ p := by
  induction ps with
  | nil => simp [join] at h
  | cons p more ih =>
    cases more with
    | nil => exact .inr ⟨p, List.mem_cons_self, h⟩
    | cons q more =>
      rcases List.mem_append.1 (show c ∈ (p ++ sep) ++ join sep (q :: more) from h) with h | h
      · rcases List.mem_append.1 h with h | h
        · exact .inr ⟨p, List.mem_cons_self, h⟩
        · exact .inl h
      · rcases ih h with h | ⟨r, hr, hc⟩
        · exact .inl h
        · exact .inr ⟨r, List.mem_cons_of_mem p hr, hc⟩

/-! ### Cutting once -/

theorem cut_append_cons {sep : Char} {a : List Char} (h : sep ∉ a) (b : List Char) :
    cut sep (a ++ sep :: b) = some (a, b) := by
  induction a with
  | nil => simp [cut]
  | cons c rest ih =>
    simp only [List.mem_cons, not_or] at h
    obtain ⟨hc, hrest⟩ := h
    simp [cut, Ne.symm hc, ih hrest]

end Firewall.Text
