/-
A value comes back from its text.

A value is read from the front of a text, with anything behind it and at any level (`Reads`).
What is shown of strings, of arrays and of objects is that they are read in this way if what
they hold is.  The new lines and the blanks between the parts of a text are skipped by
whatever reads the part behind them.

Twice the length of a text is bound enough for the depth of calls: an element is read one call
deeper than the one before it, and its value one call deeper than that, while there are at least
a new line and a comma between two.
-/
import Firewall.Json.Reader
import Firewall.Proofs.Text.Numeral

namespace Firewall.Json

open Text (join)

/-! ### Strings -/

/-- A unit below the surrogates is a character whatever comes after it. -/
theorem charsOf?_unit {n : Nat} (h : n < 0xD800) (us : List Unit16) :
    charsOf? (.unit n :: us) = (charsOf? us).map (Char.ofNat n :: ·) := by
  have hhigh : isHigh n = false := by
    unfold isHigh
    simp only [Bool.and_eq_false_iff, decide_eq_false_iff_not]
    omega
  have hlow : isLow n = false := by
    unfold isLow
    simp only [Bool.and_eq_false_iff, decide_eq_false_iff_not]
    omega
  rw [charsOf?.eq_def]
  split <;> simp_all

/-- The characters that are written inside quotes as a backslash and a letter or themselves. -/
def named : List Char := ['"', '\\', '\x08', '\x0c', '\n', '\r', '\t']

theorem charChars_of_notMem_named {c : Char} (h : c ∉ named) : charChars c =
    if c.toNat < 0x20 then
      ['\\', 'u', '0', '0', Text.hexDigit (c.toNat / 16), Text.hexDigit (c.toNat % 16)]
    else [c] := by
  simp only [named, List.mem_cons, List.not_mem_nil, or_false, not_or] at h
  obtain ⟨hquote, hbackslash, hbackspace, hfeed, hline, hreturn, htab⟩ := h
  unfold charChars
  simp only [hquote, hbackslash, hbackspace, hfeed, hline, hreturn, htab, if_false]

theorem readString?_named {c : Char} (h : c ∈ named) (cs : List Char) :
    readString? (charChars c ++ cs)
    = (readString? cs).map fun (us, rest) => (.char c :: us, rest) := by
  simp only [named, List.mem_cons, List.not_mem_nil, or_false] at h
  rcases h with rfl | rfl | rfl | rfl | rfl | rfl | rfl <;> simp [charChars, readString?]

private theorem digits_hexDigit : ∀ n < 0x20,
    ['0', '0', Text.hexDigit (n / 16), Text.hexDigit (n % 16)].all (Text.isDigitOf 16) = true ∧
      Text.ofDigits 16 ['0', '0', Text.hexDigit (n / 16), Text.hexDigit (n % 16)] = n := by
  decide

/-- **A character inside quotes is read as one unit,** which spells it. -/
theorem exists_unit_charChars (c : Char) :
    ∃ u : Unit16, (∀ us, charsOf? (u :: us) = (charsOf? us).map (c :: ·)) ∧
    ∀ cs, readString? (charChars c ++ cs) =
      (readString? cs).map fun (us, rest) => (u :: us, rest) := by
  by_cases hnamed : c ∈ named
  · exact ⟨.char c, fun us => rfl, readString?_named hnamed⟩
  rw [charChars_of_notMem_named hnamed]
  split
  · rename_i hcontrol
    obtain ⟨hdigits, hnumber⟩ := digits_hexDigit c.toNat hcontrol
    refine ⟨.unit c.toNat, fun us => ?_, fun cs => ?_⟩
    · rw [charsOf?_unit (by omega), Char.ofNat_toNat]
    · simp only [List.cons_append, List.nil_append, readString?, hdigits, if_true, hnumber]
  · rename_i hcontrol
    have hquote : c ≠ '"' := fun h => hnamed (h ▸ by decide)
    have hbackslash : c ≠ '\\' := fun h => hnamed (h ▸ by decide)
    refine ⟨.char c, fun us => rfl, fun cs => ?_⟩
    rw [List.singleton_append, readString?]
    · simp only [hbackslash, hcontrol, or_self, if_false]
    · exact fun h => hquote h
    · exact fun _ _ _ _ _ h _ => hbackslash h
    · exact fun _ _ h _ => hbackslash h

theorem exists_units (s rest : List Char) : ∃ us, charsOf? us = some s ∧
    readString? (s.flatMap charChars ++ '"' :: rest) = some (us, rest) := by
  induction s with
  | nil => exact ⟨[], rfl, by simp [readString?]⟩
  | cons c s ih =>
    obtain ⟨us, hus, hread⟩ := ih
    obtain ⟨u, hu, hchar⟩ := exists_unit_charChars c
    refine ⟨u :: us, by rw [hu, hus]; rfl, ?_⟩
    rw [List.flatMap_cons, List.append_assoc, hchar, hread]
    rfl

/-- **A string comes back,** with a text or without one. -/
theorem exists_stringChars (text : Option String) : ∃ quoted, stringChars text = '"' :: quoted ∧
    ∀ rest, ∃ us, textOf? us = text ∧ readString? (quoted ++ rest) = some (us, rest) := by
  cases text with
  | none => exact ⟨"\\ud800\"".toList, by decide, fun rest => ⟨[.unit 0xD800], by decide, rfl⟩⟩
  | some s =>
    refine ⟨s.toList.flatMap charChars ++ ['"'], rfl, fun rest => ?_⟩
    obtain ⟨us, hus, hread⟩ := exists_units s.toList rest
    refine ⟨us, ?_, ?_⟩
    · unfold textOf?
      rw [hus, Option.map_some, String.ofList_toList]
    · rw [List.append_assoc, List.singleton_append, hread]

/-! ### Blanks between the parts -/

theorem skipBlanks_cons {c : Char} (h : isBlank c = false) (rest : List Char) :
    skipBlanks (c :: rest) = c :: rest :=
  List.dropWhile_cons_of_neg (by rw [h]; exact Bool.false_ne_true)

theorem skipBlanks_newLine (level : Nat) (rest : List Char) :
    skipBlanks (newLine level ++ rest) = skipBlanks rest := by
  have hblank : ∀ c ∈ newLine level, isBlank c = true := by
    intro c hc
    rcases List.mem_cons.1 hc with rfl | hc
    · decide
    · rw [List.eq_of_mem_replicate hc]
      decide
  exact List.dropWhile_append_of_pos hblank

variable {cs cs' : List Char}

theorem readValue?_congr (h : skipBlanks cs = skipBlanks cs') (fuel : Nat) :
    readValue? fuel cs = readValue? fuel cs' := by
  cases fuel with
  | zero => rfl
  | succ fuel => rw [readValue?, readValue?, h]

theorem readItems?_congr (h : skipBlanks cs = skipBlanks cs') (fuel : Nat) :
    readItems? fuel cs = readItems? fuel cs' := by
  cases fuel with
  | zero => rfl
  | succ fuel => rw [readItems?, readItems?, readValue?_congr h]

theorem readMembers?_congr (h : skipBlanks cs = skipBlanks cs') (fuel : Nat) :
    readMembers? fuel cs = readMembers? fuel cs' := by
  cases fuel with
  | zero => rfl
  | succ fuel => rw [readMembers?, readMembers?, h]

/-! ### Values -/

/-- A value comes back from the front of a text. -/
structure Reads (v : Value) : Prop where
  /-- Its text is neither empty nor the end of an array. -/
  head : ∀ level, ∃ c rest, v.chars level = c :: rest ∧ isBlank c = false ∧ c ≠ ']'
  read : ∀ level fuel rest, 2 * (v.chars level).length ≤ fuel →
    readValue? fuel (v.chars level ++ rest) = some (v, rest)

theorem Reads.of_succ {v : Value}
    (head : ∀ level, ∃ c rest, v.chars level = c :: rest ∧ isBlank c = false ∧ c ≠ ']')
    (read : ∀ level fuel rest, 2 * (v.chars level).length ≤ fuel + 1 →
      readValue? (fuel + 1) (v.chars level ++ rest) = some (v, rest)) : Reads v where
  head := head
  read level fuel rest hfuel := by
    cases fuel with
    | zero =>
      obtain ⟨c, tail, hchars, -⟩ := head level
      simp [hchars] at hfuel
    | succ fuel => exact read level fuel rest hfuel

theorem Reads.string (text : Option String) : Reads (.string text) := by
  obtain ⟨quoted, hquoted, hread⟩ := exists_stringChars text
  have hchars : ∀ level, (Value.string text).chars level = '"' :: quoted := fun level => by
    rw [Value.chars, hquoted]
  refine .of_succ (fun level => ⟨'"', quoted, hchars level, by decide, by decide⟩)
    fun level fuel rest _ => ?_
  rw [hchars]
  obtain ⟨us, htext, hstring⟩ := hread rest
  rw [readValue?, List.cons_append, skipBlanks_cons (by decide)]
  simp only [hstring, Option.map_some, htext]

/-! ### Lines

The parts of an array and of an object are written in the same way, each on a line of its own.
-/

/-- Pieces, each on a line of its own, with commas between them. -/
def lines (level : Nat) (pieces : List (List Char)) : List Char :=
  join [','] (pieces.map (newLine level ++ ·))

theorem lines_singleton (level : Nat) (piece : List Char) :
    lines level [piece] = newLine level ++ piece := rfl

theorem lines_cons (level : Nat) (piece next : List Char) (more : List (List Char)) :
    lines level (piece :: next :: more) =
      newLine level ++ (piece ++ ',' :: lines level (next :: more)) := by
  simp [lines, join]

private theorem length_lines_pos (level : Nat) (piece : List Char) (more : List (List Char)) :
    0 < 2 * (lines level (piece :: more)).length := by
  cases more <;> simp [lines, join, newLine]

theorem bracketed_of_ne_nil {pieces : List (List Char)} (h : pieces ≠ []) (level : Nat)
    (opening closing : Char) :
    bracketed level opening closing pieces
      = opening :: (lines (level + 1) pieces ++ (newLine level ++ [closing])) := by
  unfold bracketed
  rw [if_neg (by simpa using h)]
  simp [lines]

theorem exists_skipBlanks_lines {c : Char} (h : isBlank c = false) (level : Nat)
    (tail rest : List Char) (more : List (List Char)) :
    ∃ after, skipBlanks (lines level ((c :: tail) :: more) ++ rest) = c :: after := by
  cases more with
  | nil =>
    refine ⟨tail ++ rest, ?_⟩
    rw [lines_singleton, List.append_assoc, skipBlanks_newLine, List.cons_append, skipBlanks_cons h]
  | cons next more =>
    refine ⟨tail ++ ',' :: lines level (next :: more) ++ rest, ?_⟩
    rw [lines_cons, List.append_assoc, skipBlanks_newLine, List.cons_append, List.cons_append,
      skipBlanks_cons h]

/-! ### Arrays -/

/-- **Elements are read up to the bracket behind them.** -/
theorem readItems?_lines {items : List Value} (hne : items ≠ []) (hitems : ∀ v ∈ items, Reads v)
    {level fuel : Nat} (outer : Nat) (rest : List Char)
    (hfuel : 2 * (lines level (itemPieces level items)).length ≤ fuel) :
    readItems? fuel (lines level (itemPieces level items) ++ (newLine outer ++ ']' :: rest)) =
      some (items, rest) := by
  induction items generalizing fuel with
  | nil => exact absurd rfl hne
  | cons v more ih =>
    have hvalue : ∀ {fuel} rest, 2 * (v.chars level).length ≤ fuel →
        readValue? fuel (newLine level ++ (v.chars level ++ rest)) = some (v, rest) := by
      intro fuel rest h
      rw [readValue?_congr (skipBlanks_newLine level _)]
      exact (hitems v List.mem_cons_self).read level fuel rest h
    obtain ⟨fuel, rfl⟩ :=
      Nat.exists_eq_add_one.2 (Nat.lt_of_lt_of_le (length_lines_pos _ _ _) hfuel)
    cases more with
    | nil =>
      rw [itemPieces, itemPieces, lines_singleton] at hfuel ⊢
      have hlength : 2 * (v.chars level).length ≤ fuel := by
        simp only [newLine, List.length_append, List.length_cons] at hfuel
        omega
      rw [readItems?, List.append_assoc, hvalue _ hlength]
      simp only [skipBlanks_newLine, skipBlanks_cons (show isBlank ']' = false by decide)]
    | cons w more =>
      rw [itemPieces, itemPieces, lines_cons, ← itemPieces] at hfuel ⊢
      have hlength : 2 * (v.chars level).length ≤ fuel ∧
          2 * (lines level (itemPieces level (w :: more))).length ≤ fuel := by
        simp only [newLine, List.length_append, List.length_cons] at hfuel
        omega
      have hmore := ih (List.cons_ne_nil _ _)
        (fun x hx => hitems x (List.mem_cons_of_mem _ hx)) hlength.2
      rw [readItems?]
      simp only [List.append_assoc, List.cons_append, hvalue _ hlength.1,
        skipBlanks_cons (show isBlank ',' = false by decide), hmore, Option.map_some]

/-- **An array is read if its elements are.** -/
theorem Reads.array {items : List Value} (hitems : ∀ v ∈ items, Reads v) :
    Reads (.array items) := by
  cases items with
  | nil =>
    exact .of_succ (fun level => ⟨'[', [']'], rfl, by decide, by decide⟩)
      fun level fuel rest _ => rfl
  | cons v more =>
    have hchars : ∀ level, (Value.array (v :: more)).chars level = '['
        :: (lines (level + 1) (itemPieces (level + 1) (v :: more)) ++ (newLine level ++ [']'])) :=
          fun level => by
      rw [Value.chars, bracketed_of_ne_nil (by simp [itemPieces])]
    refine .of_succ (fun level => ⟨'[', _, hchars level, by decide, by decide⟩)
      fun level fuel rest hfuel => ?_
    rw [hchars] at hfuel ⊢
    have hlength : 2 * (lines (level + 1) (itemPieces (level + 1) (v :: more))).length ≤ fuel := by
      simp only [List.length_append, List.length_cons] at hfuel
      omega
    have hread := readItems?_lines (List.cons_ne_nil _ _) hitems level rest hlength
    obtain ⟨c, tail, hc, hblank, hbracket⟩ := (hitems v List.mem_cons_self).head (level + 1)
    obtain ⟨after, hskip⟩ :=
      exists_skipBlanks_lines hblank (level + 1) tail (newLine level ++ ']' :: rest)
      (itemPieces (level + 1) more)
    rw [← hc, ← itemPieces] at hskip
    rw [readItems?_congr (hskip.trans (skipBlanks_cons hblank after).symm)] at hread
    rw [readValue?, List.cons_append, skipBlanks_cons (by decide)]
    simp only [List.append_assoc, List.cons_append, List.nil_append, hskip]
    split
    · rename_i h
      exact absurd (List.cons.inj h).1 hbracket
    · rw [hread]
      rfl

/-! ### Objects -/

theorem memberPiece_eq (level : Nat) (m : Option String × Value) :
    memberPiece level m = stringChars m.1 ++ ':' :: ' ' :: m.2.chars level := by
  cases m
  rw [memberPiece]

/-- **Members are read up to the brace behind them.** -/
theorem readMembers?_lines {members : List (Option String × Value)} (hne : members ≠ [])
    (hmembers : ∀ m ∈ members, Reads m.2) {level fuel : Nat} (outer : Nat) (rest : List Char)
    (hfuel : 2 * (lines level (memberPieces level members)).length ≤ fuel) :
    readMembers? fuel
      (lines level (memberPieces level members) ++ (newLine outer ++ '\x7d' :: rest))
      = some (members, rest) := by
  induction members generalizing fuel with
  | nil => exact absurd rfl hne
  | cons m more ih =>
    obtain ⟨quoted, hquoted, hstring⟩ := exists_stringChars m.1
    have hvalue : ∀ {fuel} rest, 2 * (m.2.chars level).length ≤ fuel →
        readValue? fuel (' ' :: (m.2.chars level ++ rest)) = some (m.2, rest) := by
      intro fuel rest h
      have hblank : skipBlanks (' ' :: (m.2.chars level ++ rest)) =
        skipBlanks (m.2.chars level ++ rest) := rfl
      rw [readValue?_congr hblank]
      exact (hmembers m List.mem_cons_self).read level fuel rest h
    obtain ⟨fuel, rfl⟩ :=
      Nat.exists_eq_add_one.2 (Nat.lt_of_lt_of_le (length_lines_pos _ _ _) hfuel)
    cases more with
    | nil =>
      rw [memberPieces, memberPieces, lines_singleton, memberPiece_eq, hquoted] at hfuel ⊢
      have hlength : 2 * (m.2.chars level).length ≤ fuel := by
        simp only [newLine, List.length_append, List.length_cons] at hfuel
        omega
      obtain ⟨us, htext, hread⟩ :=
        hstring (':' :: ' ' :: (m.2.chars level ++ (newLine outer ++ '\x7d' :: rest)))
      rw [readMembers?, List.append_assoc, skipBlanks_newLine, List.cons_append, List.cons_append,
        skipBlanks_cons (by decide)]
      simp only [List.append_assoc, List.cons_append, hread,
        skipBlanks_cons (show isBlank ':' = false by decide),
        hvalue _ hlength, skipBlanks_newLine,
        skipBlanks_cons (show isBlank '\x7d' = false by decide), htext]
    | cons n more =>
      rw [memberPieces, memberPieces, lines_cons, ← memberPieces, memberPiece_eq,
        hquoted] at hfuel ⊢
      have hlength : 2 * (m.2.chars level).length ≤ fuel ∧
          2 * (lines level (memberPieces level (n :: more))).length ≤ fuel := by
        simp only [newLine, List.length_append, List.length_cons] at hfuel
        omega
      have hmore := ih (List.cons_ne_nil _ _)
        (fun x hx => hmembers x (List.mem_cons_of_mem _ hx)) hlength.2
      obtain ⟨us, htext, hread⟩ := hstring (':' :: ' ' :: (m.2.chars level
        ++ ',' :: (lines level (memberPieces level (n :: more)) ++
          (newLine outer ++ '\x7d' :: rest))))
      rw [readMembers?, List.append_assoc, skipBlanks_newLine, List.cons_append, List.cons_append,
        List.cons_append, skipBlanks_cons (by decide)]
      simp only [List.append_assoc, List.cons_append, hread,
        skipBlanks_cons (show isBlank ':' = false by decide),
        hvalue _ hlength.1, skipBlanks_cons (show isBlank ',' = false by decide), hmore,
        Option.map_some, htext]

/-- **An object is read if its values are.** -/
theorem Reads.object {members : List (Option String × Value)}
    (hmembers : ∀ m ∈ members, Reads m.2) :
    Reads (.object members) := by
  cases members with
  | nil =>
    exact .of_succ (fun level => ⟨'\x7b', ['\x7d'], rfl, by decide, by decide⟩)
      fun level fuel rest _ => rfl
  | cons m more =>
    have hchars : ∀ level, (Value.object (m :: more)).chars level = '\x7b'
        :: (lines (level + 1) (memberPieces (level + 1) (m :: more)) ++
          (newLine level ++ ['\x7d'])) := fun level => by
      rw [Value.chars, bracketed_of_ne_nil (by simp [memberPieces])]
    refine .of_succ (fun level => ⟨'\x7b', _, hchars level, by decide, by decide⟩)
      fun level fuel rest hfuel => ?_
    rw [hchars] at hfuel ⊢
    have hlength :
        2 * (lines (level + 1) (memberPieces (level + 1) (m :: more))).length ≤ fuel := by
      simp only [List.length_append, List.length_cons] at hfuel
      omega
    have hread := readMembers?_lines (List.cons_ne_nil _ _) hmembers level rest hlength
    obtain ⟨quoted, hquoted, -⟩ := exists_stringChars m.1
    have hpiece : memberPiece (level + 1) m =
        '"' :: (quoted ++ ':' :: ' ' :: m.2.chars (level + 1)) := by
      rw [memberPiece_eq, hquoted, List.cons_append]
    obtain ⟨after, hskip⟩ := exists_skipBlanks_lines (c := '"') (by decide) (level + 1)
      (quoted ++ ':' :: ' ' :: m.2.chars (level + 1)) (newLine level ++ '\x7d' :: rest)
        (memberPieces (level + 1) more)
    rw [← hpiece, ← memberPieces] at hskip
    rw [readMembers?_congr (hskip.trans (skipBlanks_cons (by decide) after).symm)] at hread
    rw [readValue?, List.cons_append, skipBlanks_cons (by decide)]
    simp only [List.append_assoc, List.cons_append, List.nil_append, hskip]
    split
    · rename_i h
      exact absurd (List.cons.inj h).1 (by decide)
    · rw [hread]
      rfl

/-! ### Texts -/

/-- **A value that is read from the front of a text is read from its own.** -/
theorem Reads.ofText?_text {v : Value} (h : Reads v) : ofText? v.text = some v := by
  unfold ofText? Value.text
  rw [String.toList_ofList]
  have hread := h.read 0 (2 * (v.chars 0).length + 2) [] (by omega)
  rw [List.append_nil] at hread
  simp only [hread]
  rfl

end Firewall.Json
