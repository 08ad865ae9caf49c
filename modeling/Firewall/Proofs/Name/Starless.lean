/-
What selectors stand for, and selectors of one text.

A selector selects the names that its exact name or its pattern stands for
(`Selector.selects_iff`).  Its text does not say which of the two it is.  A text without a star
makes no difference: every character of the pattern stands for itself, so the pattern fits the
one name that the exact selector is (`Glob.describes_of_starless`).  Two selectors of one text
can therefore select different names only if one is exact, the other is a pattern, and there is
a star in the text.
-/
import Firewall.Name.Selector
import Firewall.Proofs.Name.Filled
import Firewall.Proofs.Name.Qualified
import Mathlib.Data.List.DropRight

namespace Firewall

namespace Name

theorem star_notMem_qualify {cs : List Char} (h : '*' ∉ cs) : '*' ∉ qualify cs := by
  have htrim : Text.trim cs ⊆ cs :=
    List.Subset.trans (List.rdropWhile_prefix Text.isBlank _).subset
      (List.dropWhile_suffix Text.isBlank).subset
  have hmapped : '*' ∉ (Text.trim cs).map Text.lower := by
    intro hmem
    obtain ⟨c, hc, hstar⟩ := List.mem_map.1 hmem
    exact h (eq_of_lower_eq (by decide) hstar ▸ htrim hc)
  unfold qualify
  dsimp only
  split
  · exact hmapped
  · simpa using hmapped

end Name

namespace Glob

/-- **A text without a star stands for the name that it spells**, and for no other. -/
theorem describes_of_starless {s : String} (h : '*' ∉ s.toList) {name : String} :
    Describes s name ↔ name = Name.fullyQualified s := by
  have hstarless : '*' ∉ Name.qualify s.toList := Name.star_notMem_qualify h
  have hone : ¬ Name.withoutFinalDots (Name.qualify s.toList) = ['*'] := by
    intro hone
    have hsub : Name.withoutFinalDots (Name.qualify s.toList) ⊆ Name.qualify s.toList :=
      (List.rdropWhile_prefix (· == '.') _).subset
    exact hstarless (hsub (hone ▸ List.mem_singleton_self _))
  rw [Describes, if_neg hone, fills_of_starless hstarless, Name.fullyQualified]
  constructor
  · intro heq
    rw [← heq, String.ofList_toList]
  · rintro rfl
    exact String.toList_ofList

theorem accepts_ofText_of_starless {s : String} (h : '*' ∉ s.toList) (name : String) :
    (ofText s).accepts name = (Name.fullyQualified s == name) := by
  rw [Bool.eq_iff_iff, accepts_ofText_iff, describes_of_starless h, beq_iff_eq, eq_comm]

end Glob

namespace Selector

theorem nonempty?_some {text : String} (h : text ≠ "") : nonempty? (some text) = some text := by
  simp [nonempty?, h]

theorem nonempty?_eq_none_iff {text : Option String} :
    nonempty? text = none ↔ text.getD "" = "" := by
  cases text <;> simp [nonempty?]

/-- The names that a selector stands for: the one that its exact name spells or, without an exact
name or with an empty one, those that its pattern describes. -/
def StandsFor (s : Selector) (name : String) : Prop :=
  if s.matchName.getD "" ≠ "" then name = Name.fullyQualified (s.matchName.getD "")
  else Glob.Describes (s.matchPattern.getD "") name

/-- **What is selected is what the selector stands for.** -/
theorem selects_iff {s : Selector} {name : String} : s.selects name = true ↔ s.StandsFor name := by
  unfold selects glob isExact text StandsFor
  by_cases hempty : s.matchName.getD "" = ""
  · rw [nonempty?_eq_none_iff.2 hempty, if_neg (by decide), if_neg (not_not_intro hempty),
      Option.none_or]
    exact Glob.accepts_ofText_iff
  · obtain ⟨text, hname⟩ : ∃ text, s.matchName = some text :=
      Option.ne_none_iff_exists'.1 fun hnone => hempty (by rw [hnone]; rfl)
    rw [hname, Option.getD_some] at hempty ⊢
    rw [nonempty?_some hempty, if_pos Option.isSome_some, if_pos hempty, beq_iff_eq]
    exact eq_comm

/-- Without a star it makes no difference whether the text is a name or a pattern. -/
theorem selects_of_starless {s : Selector} (h : '*' ∉ s.text.toList) (fqdn : String) :
    s.selects fqdn = (Name.fullyQualified s.text == fqdn) := by
  unfold selects
  split
  · rfl
  · exact Glob.accepts_ofText_of_starless h fqdn

/-- **Selectors of one text select the same names**, unless one is exact, the other is a pattern
and there is a star in the text. -/
theorem selects_eq_of_text_eq {s t : Selector} (htext : s.text = t.text)
    (h : s.isExact = t.isExact ∨ '*' ∉ s.text.toList) (fqdn : String) :
    s.selects fqdn = t.selects fqdn := by
  rcases h with hexact | hstarless
  · unfold selects glob
    rw [hexact, htext]
  · rw [selects_of_starless hstarless, selects_of_starless (htext ▸ hstarless), htext]

end Selector

end Firewall
