/-
Spellings of a name.

One name can be written in many ways: its letters may be capital or small, white space may stand
around it, and the dot at its end may be left out (`Respelling`).  Any number of such changes,
there and back, lead from one spelling to another (`Respelled`).  Bringing a name into form
undoes them all, and nothing else: two texts come to the same form exactly if one is a spelling
of the other (`fullyQualified_eq_iff`).

A dot counts as the end of a name only where a name stands in front of it.  White space before
it is part of the name then, for what is trimmed are the ends of the whole text; so
`Respelling.dot` asks what the dot comes after.
-/
import Firewall.Proofs.Name.Starless
import Mathlib.Logic.Relation

namespace Firewall

namespace Name

open Text (exists_blanks_trim isBlank isBlank_getLast?_trim lower trim trim_append_blanks
  trim_concat trimStart
  trimStart_concat)

/-- One change of how a name is written. -/
inductive Respelling : List Char → List Char → Prop
  /-- Capital letters for small ones, or small ones for capital. -/
  | letters {cs ds : List Char} (h : cs.map lower = ds.map lower) : Respelling cs ds
  /-- White space around the name. -/
  | blanks {before after : List Char} (hbefore : ∀ c ∈ before, isBlank c = true)
      (hafter : ∀ c ∈ after, isBlank c = true) (cs : List Char) :
        Respelling cs (before ++ cs ++ after)
  /-- A dot at its end, where neither a dot nor white space is. -/
  | dot {cs : List Char} (h : ∀ c, cs.getLast? = some c → c ≠ '.' ∧ isBlank c = false) :
    Respelling cs (cs ++ ['.'])

/-- Two texts are spellings of one name. -/
def Respelled (s t : String) : Prop := Relation.EqvGen Respelling s.toList t.toList

/-! ### A change of spelling does not change the form -/

/-- The form of a text that ends in something other than a dot and white space. -/
theorem qualify_concat {cs : List Char} {c : Char} (hdot : c ≠ '.') (hblank : isBlank c = false) :
    qualify (cs ++ [c]) = (trimStart cs ++ [c]).map lower ++ ['.'] := by
  have hlast : ((trimStart cs ++ [c]).map lower).getLast? ≠ some '.' := by
    rw [List.map_append, List.map_singleton, List.getLast?_concat, ne_eq, Option.some_inj]
    exact fun hlower => hdot (eq_of_lower_eq (by decide) hlower)
  rw [qualify, trim_concat hblank]
  exact if_neg hlast

theorem qualify_concat_dot {cs : List Char}
    (h : ∀ c, cs.getLast? = some c → c ≠ '.' ∧ isBlank c = false) :
    qualify (cs ++ ['.']) = qualify cs := by
  rcases List.eq_nil_or_concat cs with rfl | ⟨front, c, rfl⟩
  · decide
  · rw [List.concat_eq_append] at h ⊢
    obtain ⟨hdot, hblank⟩ := h c List.getLast?_concat
    have hlast : ((trimStart front ++ [c] ++ ['.']).map lower).getLast? = some '.' := by
      rw [List.map_append, List.map_singleton, List.getLast?_concat]
      rfl
    rw [qualify_concat hdot hblank, qualify, trim_concat (by decide), trimStart_concat hblank,
      if_pos hlast, List.map_append]
    rfl

theorem qualify_eq_of_respelling {cs ds : List Char} (h : Respelling cs ds) :
    qualify cs = qualify ds := by
  cases h with
  | letters h => exact qualify_eq_of_map_lower_eq h
  | blanks hbefore hafter =>
    unfold qualify
    rw [trim_append_blanks hbefore hafter]
  | dot h => exact (qualify_concat_dot h).symm

theorem qualify_eq_of_eqvGen {cs ds : List Char} (h : Relation.EqvGen Respelling cs ds) :
    qualify cs = qualify ds := by
  induction h with
  | rel _ _ h => exact qualify_eq_of_respelling h
  | refl _ => rfl
  | symm _ _ _ ih => exact ih.symm
  | trans _ _ _ _ _ ih₁ ih₂ => exact ih₁.trans ih₂

/-! ### Every text is a spelling of its form -/

/-- The form is reached from a text by taking the blanks away, then the
capital letters, and adding the dot. -/
theorem eqvGen_qualify (cs : List Char) : Relation.EqvGen Respelling cs (qualify cs) := by
  have htrim : Relation.EqvGen Respelling cs (trim cs) := by
    obtain ⟨before, after, hbefore, hafter, hcs⟩ := exists_blanks_trim cs
    have hblanks := Respelling.blanks hbefore hafter (trim cs)
    rw [← hcs] at hblanks
    exact .symm _ _ (.rel _ _ hblanks)
  have hletters : Relation.EqvGen Respelling (trim cs) ((trim cs).map lower) := by
    refine .rel _ _ (.letters ?_)
    rw [List.map_map]
    exact (List.map_congr_left fun c _ => lower_lower c).symm
  refine .trans _ _ _ (.trans _ _ _ htrim hletters) ?_
  unfold qualify
  dsimp only
  split
  · exact .refl _
  · rename_i hdotted
    refine .rel _ _ (.dot fun c hc => ⟨fun hdot => hdotted (hdot ▸ hc), ?_⟩)
    rw [List.getLast?_map, Option.map_eq_some_iff] at hc
    obtain ⟨d, hd, rfl⟩ := hc
    exact (isBlank_lower d).trans (isBlank_getLast?_trim hd)

/-- **Two texts come to the same form exactly if they are spellings of one name.** -/
theorem fullyQualified_eq_iff {s t : String} :
    fullyQualified s = fullyQualified t ↔ Respelled s t := by
  unfold fullyQualified
  rw [String.ofList_inj]
  constructor
  · intro heq
    have hs := eqvGen_qualify s.toList
    rw [heq] at hs
    exact Relation.EqvGen.trans _ _ _ hs (Relation.EqvGen.symm _ _ (eqvGen_qualify t.toList))
  · exact qualify_eq_of_eqvGen

end Name

/-! ### Selectors -/

namespace Selector

/-- The selector with another text, in the field that its text is read from. -/
def withText (s : Selector) (text : String) : Selector :=
  if s.isExact then { s with matchName := some text } else { s with matchPattern := some text }

theorem isExact_withText {s : Selector} {text : String} (h : text ≠ "") :
    (s.withText text).isExact = s.isExact := by
  unfold withText
  split
  · rename_i hexact
    rw [hexact, isExact, nonempty?_some h]
    rfl
  · rfl

/-- The other text is read, unless it is empty and there is a second text behind it. -/
theorem text_withText {s : Selector} {text : String} (h : text ≠ "" ∨ s.fault? = none) :
    (s.withText text).text = text := by
  unfold withText
  split
  · rename_i hexact
    by_cases hempty : text = ""
    · -- with an exact name and no fault there is no pattern
      have hnone : nonempty? s.matchPattern = none := by
        have hvalid := h.resolve_left (not_not_intro hempty)
        unfold fault? at hvalid
        rw [hexact] at hvalid
        cases hpattern : nonempty? s.matchPattern with
        | none => rfl
        | some pattern =>
          rw [hpattern] at hvalid
          exact nomatch hvalid
      rw [hempty]
      show s.matchPattern.getD "" = ""
      exact nonempty?_eq_none_iff.1 hnone
    · unfold Selector.text
      rw [nonempty?_some hempty]
      rfl
  · rename_i hexact
    have hnone : nonempty? s.matchName = none := by simpa [isExact] using hexact
    unfold Selector.text
    rw [hnone]
    rfl

/-- **Another spelling of its text does not change what a selector selects.** -/
theorem selects_withText {s : Selector} {text : String} (hspelled : Name.Respelled s.text text)
    (h : text ≠ "" ∨ s.fault? = none) (fqdn : String) :
    (s.withText text).selects fqdn = s.selects fqdn := by
  have htext := text_withText h
  have hsame : Name.fullyQualified text = Name.fullyQualified s.text :=
    (Name.fullyQualified_eq_iff.2 hspelled).symm
  have hglob : (s.withText text).glob = s.glob := by
    unfold glob Glob.ofText
    rw [htext, String.ofList_injective hsame]
  by_cases hempty : text = ""
  · -- the empty text has no star, so it does not matter whether it is an exact name still
    have hstar : '*' ∉ (s.withText text).text.toList := by
      rw [htext, hempty]
      exact List.not_mem_nil
    rw [selects_of_starless hstar, htext, hsame]
    unfold selects
    split
    · rfl
    · rw [← hglob, glob, Glob.accepts_ofText_of_starless hstar, htext, hsame]
  · unfold selects
    rw [isExact_withText hempty, htext, hsame, hglob]

end Selector

end Firewall
