/-
Cutting a text at a character.

`cut` takes the part before the first occurrence and the part after it; `pieces`
cuts at every occurrence, so that a text without the character is one piece and
an empty text is one empty piece.  Nothing is lost: `join_pieces` puts the text
back together.
-/
namespace Firewall.Text

/-- The parts before and after the first occurrence of a character, if it occurs. -/
def cut (sep : Char) : List Char → Option (List Char × List Char)
  | [] => none
  | c :: rest =>
    if c = sep then some ([], rest)
    else (cut sep rest).map fun (before, after) => (c :: before, after)

/-- The parts between the characters that satisfy a test. -/
def piecesBy (isSep : Char → Bool) : List Char → List (List Char)
  | [] => [[]]
  | c :: rest =>
    if isSep c then [] :: piecesBy isSep rest
    else match piecesBy isSep rest with
      | [] => [[c]]
      | piece :: more => (c :: piece) :: more

/-- The parts between the occurrences of a character. -/
def pieces (sep : Char) (cs : List Char) : List (List Char) := piecesBy (· == sep) cs

/-- The nonempty pieces: the words of a text, where the test tells what stands between them. -/
def wordsBy (isSep : Char → Bool) (cs : List Char) : List (List Char) :=
  (piecesBy isSep cs).filter fun piece => !piece.isEmpty

/-- Pieces put together again, with a separator between each two. -/
def join (sep : List Char) : List (List Char) → List Char
  | [] => []
  | [piece] => piece
  | piece :: more => piece ++ sep ++ join sep more

theorem piecesBy_ne_nil (isSep : Char → Bool) (cs : List Char) : piecesBy isSep cs ≠ [] := by
  cases cs with
  | nil => simp [piecesBy]
  | cons c rest =>
    unfold piecesBy
    split
    · simp
    · split <;> simp

/-- **Cutting loses nothing.** -/
theorem join_pieces (sep : Char) (cs : List Char) : join [sep] (pieces sep cs) = cs := by
  induction cs with
  | nil => rfl
  | cons c rest ih =>
    unfold pieces at ih ⊢
    unfold piecesBy
    obtain ⟨piece, more, hp⟩ := List.exists_cons_of_ne_nil (piecesBy_ne_nil (· == sep) rest)
    rw [hp] at ih ⊢
    split
    · rename_i h
      simpa [join, ih] using (beq_iff_eq.1 h).symm
    · cases more with
      | nil => simpa [join] using ih
      | cons next more => simpa [join] using ih

theorem cut_eq_none_iff {sep : Char} {cs : List Char} : cut sep cs = none ↔ sep ∉ cs := by
  induction cs with
  | nil => simp [cut]
  | cons c rest ih =>
    unfold cut
    split
    · rename_i hc
      simp [hc]
    · rename_i hc
      simp [ih, Ne.symm hc]

end Firewall.Text
