/-
What stands in quotes.

A quote opens a quoted text and the next one closes it; there is no way to write a quote inside.
`quoted?` reads a text from its start and remembers only whether a quote is open.  A text in which
every quote is closed can be put in front of any other without a change to what is quoted there
(`quoted?_append`), so the quoted texts of a whole are those of its parts, one after the other.

A text is harmless if it holds neither a quote nor a control character: nothing is quoted in it, and
nothing in it ends a quoted text or a line.
-/
import Firewall.Proofs.Text.Numeral
import Firewall.Text.Blank

namespace Firewall.Text

/-! ### Texts put together -/

/-- What holds of every character of the parts and of what stands between them holds
of every character of the whole. -/
theorem forall_mem_intercalate {P : Char → Prop} {sep : String} {parts : List String}
    (hsep : ∀ c ∈ sep.toList, P c) (h : ∀ p ∈ parts, ∀ c ∈ p.toList, P c) :
    ∀ c ∈ (String.intercalate sep parts).toList, P c := by
  induction parts with
  | nil => exact fun c hc => absurd hc List.not_mem_nil
  | cons s more ih =>
    have hs := h s List.mem_cons_self
    have hmore := ih fun p hp => h p (List.mem_cons_of_mem s hp)
    cases more with
    | nil => rwa [String.intercalate_singleton]
    | cons t more =>
      intro c hc
      rw [String.intercalate_cons_cons, String.toList_append, String.toList_append] at hc
      rcases List.mem_append.1 hc with hc | hc
      · exact (List.mem_append.1 hc).elim (hs c) (hsep c)
      · exact hmore c hc

theorem exists_intercalate_concat (sep : String) (parts : List String) (last : String) :
    ∃ front, String.intercalate sep (parts ++ [last]) = front ++ last := by
  induction parts with
  | nil => exact ⟨"", by rw [List.nil_append, String.intercalate_singleton, String.empty_append]⟩
  | cons s more ih =>
    obtain ⟨front, hfront⟩ := ih
    refine ⟨s ++ sep ++ front, ?_⟩
    obtain ⟨t, rest, hrest⟩ :=
      List.exists_cons_of_ne_nil
        (List.append_ne_nil_of_right_ne_nil more (List.cons_ne_nil last []))
    rw [List.cons_append, hrest, String.intercalate_cons_cons, ← hrest, hfront]
    simp only [String.append_assoc]

/-! ### Harmless texts -/

/-- A text without quotes and control characters. -/
def Harmless (s : String) : Prop := ∀ c ∈ s.toList, c ≠ '"' ∧ isControl c = false

-- by the text and not by all characters there are
instance (s : String) : Decidable (Harmless s) :=
  List.decidableBAll (fun c => c ≠ '"' ∧ isControl c = false) s.toList

namespace Harmless

theorem append {s t : String} (hs : Harmless s) (ht : Harmless t) : Harmless (s ++ t) := by
  intro c hc
  rw [String.toList_append] at hc
  exact (List.mem_append.1 hc).elim (hs c) (ht c)

theorem intercalate {sep : String} {parts : List String} (hsep : Harmless sep)
    (h : ∀ p ∈ parts, Harmless p) :
    Harmless (String.intercalate sep parts) := forall_mem_intercalate hsep h

theorem toString (n : Nat) : Harmless (ToString.toString n) := by
  intro c hc
  rw [toList_toString] at hc
  exact of_mem_decimal (P := fun c => c ≠ '"' ∧ isControl c = false) (by decide) hc

end Harmless

/-! ### Reading quoted texts -/

/-- Reads the quoted texts, where a quote may have been opened already and some of its text read.
There are none to read if a quote is left open. -/
def quotedFrom? : Option (List Char) → List Char → Option (List String)
  | none, [] => some []
  | some _, [] => none
  | none, c :: rest => if c = '"' then quotedFrom? (some []) rest else quotedFrom? none rest
  | some inside, c :: rest =>
    if c = '"' then (quotedFrom? none rest).map (String.ofList inside :: ·)
    else quotedFrom? (some (inside ++ [c])) rest

/-- Reads the quoted texts of a text. -/
def quoted? (s : String) : Option (List String) := quotedFrom? none s.toList

theorem quotedFrom?_append {opened : Option (List Char)} {front : List Char} {quotes : List String}
    (h : quotedFrom? opened front = some quotes) (rest : List Char) :
    quotedFrom? opened (front ++ rest) = (quotedFrom? none rest).map (quotes ++ ·) := by
  induction front generalizing opened quotes with
  | nil =>
    cases opened with
    | none =>
      cases h
      simp
    | some inside => exact nomatch h
  | cons c front ih =>
    cases opened with
    | none =>
      rw [List.cons_append, quotedFrom?]
      rw [quotedFrom?] at h
      split at h
      · rename_i hquote
        rw [if_pos hquote, ih h]
      · rename_i hquote
        rw [if_neg hquote, ih h]
    | some inside =>
      rw [List.cons_append, quotedFrom?]
      rw [quotedFrom?] at h
      split at h
      · rename_i hquote
        obtain ⟨more, hmore, rfl⟩ := Option.map_eq_some_iff.1 h
        rw [if_pos hquote, ih hmore, Option.map_map]
        rfl
      · rename_i hquote
        rw [if_neg hquote, ih h]

/-- **A text whose quotes are closed can stand in front of any other.** -/
theorem quoted?_append {s : String} {quotes : List String} (h : quoted? s = some quotes)
    (t : String) :
    quoted? (s ++ t) = (quoted? t).map (quotes ++ ·) := by
  unfold quoted?
  rw [String.toList_append]
  exact quotedFrom?_append h t.toList

theorem quoted?_of_notMem {s : String} (h : '"' ∉ s.toList) : quoted? s = some [] := by
  unfold quoted?
  generalize s.toList = cs at h
  induction cs with
  | nil => rfl
  | cons c rest ih =>
    simp only [List.mem_cons, not_or] at h
    rw [quotedFrom?, if_neg fun hc => h.1 hc.symm]
    exact ih h.2

theorem quoted?_quotes {s : String} (h : '"' ∉ s.toList) :
    quoted? ("\"" ++ s ++ "\"") = some [s] := by
  have hinside : ∀ inside cs : List Char, '"' ∉ cs →
      quotedFrom? (some inside) (cs ++ ['"']) = some [String.ofList (inside ++ cs)] := by
    intro inside cs hcs
    induction cs generalizing inside with
    | nil => simp [quotedFrom?]
    | cons c rest ih =>
      simp only [List.mem_cons, not_or] at hcs
      rw [List.cons_append, quotedFrom?, if_neg fun hc => hcs.1 hc.symm, ih _ hcs.2,
        List.append_assoc]
      rfl
  have hchars : ("\"" ++ s ++ "\"").toList = '"' :: (s.toList ++ ['"']) := by simp
  unfold quoted?
  rw [hchars, quotedFrom?, if_pos rfl, hinside [] s.toList h, List.nil_append, String.ofList_toList]

/-- **The quoted texts of a whole are those of its parts.** -/
theorem quoted?_intercalate {sep : String} (hsep : '"' ∉ sep.toList)
    {parts : List (String × List String)} (h : ∀ p ∈ parts, quoted? p.1 = some p.2) :
    quoted? (String.intercalate sep (parts.map Prod.fst)) = some (parts.flatMap Prod.snd) := by
  induction parts with
  | nil => rfl
  | cons p more ih =>
    have hp := h p List.mem_cons_self
    have hmore := ih fun q hq => h q (List.mem_cons_of_mem p hq)
    cases more with
    | nil => simpa using hp
    | cons q more =>
      have hfront : quoted? (p.1 ++ sep) = some p.2 := by
        rw [quoted?_append hp, quoted?_of_notMem hsep, Option.map_some, List.append_nil]
      rw [List.map_cons, List.map_cons, String.intercalate_cons_cons, ← List.map_cons,
        quoted?_append hfront, hmore]
      rfl

end Firewall.Text
