/-
An instant comes back from its text.

The parts of the text are read one after the other, each from the front of what is left.  A
number is as long as is read at most, or is followed by something that is no digit, so it
ends where it was written to end; a year of more than four digits has a sign in front, and
then any number of digits is read.

A leap second is written as the sixtieth second, and it is read as the fifty-ninth with a
thousand million nanoseconds more, which is how it was kept.  An instant can be read back
if its year is one of those that dates are kept in (`IsKept`); no other is ever read,
whatever the text (`isKept_of_ofText?`).
-/
import Firewall.Proofs.Text.Numeral
import Firewall.Proofs.Time.Calendar
import Firewall.Time.Text

namespace Firewall

/-! ### What is in front of a text -/

namespace Text

theorem isBlank_of_isDigit {c : Char} (h : c.isDigit = true) : isBlank c = false := by
  have hdigit : 48 ≤ c.toNat ∧ c.toNat ≤ 57 := by
    simpa [Char.isDigit, UInt32.le_iff_toNat_le] using h
  unfold isBlank
  simp only [Bool.or_eq_false_iff, Bool.and_eq_false_iff, decide_eq_false_iff_not,
    beq_eq_false_iff_ne]
  omega

theorem trimStart_cons {c : Char} (h : isBlank c = false) (rest : List Char) :
    trimStart (c :: rest) = c :: rest := by
  unfold trimStart
  rw [List.dropWhile_cons_of_neg (by rw [h]; exact Bool.false_ne_true)]

theorem exists_padded_eq_cons (width n : Nat) :
    ∃ c rest, padded width n = c :: rest ∧ c.isDigit = true := by
  obtain ⟨c, rest, h⟩ := List.exists_cons_of_ne_nil (padded_ne_nil width n)
  exact ⟨c, rest, h, isDigit_of_mem_padded (h ▸ List.mem_cons_self)⟩

end Text

namespace Instant

open Text (padded trimStart)

/-- A text that does not go on with a digit. -/
def EndsDigits (cs : List Char) : Prop := ∀ c ∈ cs.head?, c.isDigit = false

theorem takeWhile_isDigit {cs : List Char} (h : EndsDigits cs) :
    cs.takeWhile Char.isDigit = [] := by
  cases cs with
  | nil => rfl
  | cons c rest =>
    have hc : c.isDigit = false := h c rfl
    exact List.takeWhile_cons_of_neg (by rw [hc]; exact Bool.false_ne_true)

/-- **Digits are read up to their end,** or as many as are read at most. -/
theorem readDigits?_append {most : Nat} {digits rest : List Char} (hne : digits ≠ [])
    (hdigits : ∀ c ∈ digits, c.isDigit = true) (hmost : digits.length ≤ most)
    (hrest : digits.length = most ∨ EndsDigits rest) :
    readDigits? most (digits ++ rest) = some (digits, rest) := by
  have htake : ((digits ++ rest).take most).takeWhile Char.isDigit = digits := by
    have hmore : (rest.take (most - digits.length)).takeWhile Char.isDigit = [] := by
      rcases hrest with hfull | hend
      · rw [hfull, Nat.sub_self, List.take_zero]
        rfl
      · refine takeWhile_isDigit fun c hc => ?_
        cases rest with
        | nil => simp at hc
        | cons d rest =>
          cases hroom : most - digits.length with
          | zero => simp [hroom] at hc
          | succ room => exact hend c (by simpa [hroom] using hc)
    rw [List.take_append, List.take_of_length_le hmost, List.takeWhile_append_of_pos hdigits, hmore,
      List.append_nil]
  unfold readDigits?
  rw [htake]
  simp [hne]

/-! ### The parts of a text -/

theorem trimStart_padded (width n : Nat) (rest : List Char) :
    trimStart (padded width n ++ rest) = padded width n ++ rest := by
  obtain ⟨c, more, hpadded, hc⟩ := Text.exists_padded_eq_cons width n
  rw [hpadded, List.cons_append, Text.trimStart_cons (Text.isBlank_of_isDigit hc)]

/-- A number is read up to its end, if it has as many digits as are read
or no digit comes behind it. -/
theorem readDigits?_padded {most width n : Nat} {rest : List Char}
    (hmost : (padded width n).length ≤ most)
    (hrest : (padded width n).length = most ∨ EndsDigits rest) :
    readDigits? most (padded width n ++ rest) = some (padded width n, rest) :=
  readDigits?_append (Text.padded_ne_nil width n) (fun _ => Text.isDigit_of_mem_padded) hmost hrest

theorem readNumber?_padded {most low high n : Nat} (hpos : 0 < most) (hmost : n < 10 ^ most)
    (hrange : low ≤ n ∧ n ≤ high) (rest : List Char) :
    readNumber? most low high (padded most n ++ rest) = some (n, rest) := by
  have hlength : (padded most n).length = most := Text.length_padded hpos hmost
  unfold readNumber?
  rw [trimStart_padded, readDigits?_padded (Nat.le_of_eq hlength) (.inl hlength)]
  simp [Text.ofDigitChars_padded, hrange]

theorem readMark?_cons {mark : Char} (h : Text.isBlank mark = false) (rest : List Char) :
    readMark? mark (mark :: rest) = some rest := by
  unfold readMark?
  rw [Text.trimStart_cons h]
  exact if_pos rfl

private theorem readDigits?_signed (n : Nat) {rest : List Char} (h : EndsDigits rest) :
    readDigits? (padded 4 n ++ rest).length (padded 4 n ++ rest) = some (padded 4 n, rest) :=
  readDigits?_padded (by simp) (.inr h)

/-- **A year comes back,** with a sign or without. -/
theorem readYear?_yearChars (year : Int) {rest : List Char} (h : EndsDigits rest) :
    readYear? (yearChars year ++ rest) = some (year, rest) := by
  unfold yearChars
  split
  · rename_i hfour
    have hlength : (padded 4 year.toNat).length = 4 := Text.length_padded (by decide) (by omega)
    have hread : readDigits? 4 (padded 4 year.toNat ++ rest) = some (padded 4 year.toNat, rest) :=
      readDigits?_padded (Nat.le_of_eq hlength) (.inl hlength)
    obtain ⟨c, more, hpadded, hc⟩ := Text.exists_padded_eq_cons 4 year.toNat
    have hdigit : trimStart (padded 4 year.toNat ++ rest) = c :: (more ++ rest) := by
      rw [trimStart_padded, hpadded, List.cons_append]
    unfold readYear?
    rw [hdigit]
    split
    · rename_i heq
      rw [(List.cons.inj heq).1] at hc
      exact absurd hc (by decide)
    · rename_i heq
      rw [(List.cons.inj heq).1] at hc
      exact absurd hc (by decide)
    · rw [← List.cons_append, ← hpadded, hread]
      simp only [Option.bind_eq_bind, Option.bind_some, Text.ofDigitChars_padded,
        Int.toNat_of_nonneg hfour.1]
      rfl
  · split
    · unfold readYear?
      rw [List.cons_append, Text.trimStart_cons (by decide)]
      simp only [readDigits?_signed _ h, Option.bind_eq_bind, Option.bind_some,
        Text.ofDigitChars_padded]
      congr 2
      omega
    · unfold readYear?
      rw [List.cons_append, Text.trimStart_cons (by decide)]
      simp only [readDigits?_signed _ h, Option.bind_eq_bind, Option.bind_some,
        Text.ofDigitChars_padded]
      congr 2
      omega

theorem readFraction?_padded {width n : Nat} (hpos : 0 < width) (hwidth : width ≤ 9)
    (hn : n < 10 ^ width) {rest : List Char} (h : EndsDigits rest) :
    readFraction? ('.' :: padded width n ++ rest) = some (n * 10 ^ (9 - width), rest) := by
  have hlength : (padded width n).length = width := Text.length_padded hpos hn
  have hread : readDigits? 9 (padded width n ++ rest) = some (padded width n, rest) :=
    readDigits?_padded (Nat.le_trans (Nat.le_of_eq hlength) hwidth) (.inr h)
  have hdrop : rest.dropWhile Char.isDigit = rest := by
    cases rest with
    | nil => rfl
    | cons c rest =>
      have hc : c.isDigit = false := h c rfl
      exact List.dropWhile_cons_of_neg (by rw [hc]; exact Bool.false_ne_true)
  rw [List.cons_append, readFraction?, hread]
  simp [Text.ofDigitChars_padded, hlength, hdrop]

/-- **A fraction of a second comes back,** with as many digits as it is written. -/
theorem readFraction?_fractionChars {nano : Nat} (hnano : nano < 1_000_000_000) :
    readFraction? (fractionChars nano ++ ['Z']) = some (nano, ['Z']) := by
  have hend : EndsDigits ['Z'] := fun c hc => by
    rw [← Option.some.inj hc]
    decide
  unfold fractionChars
  split
  · rename_i hzero
    rw [hzero]
    rfl
  · split
    · rw [readFraction?_padded (by decide) (by decide) (by omega) hend]
      congr 2
      omega
    · split
      · rw [readFraction?_padded (by decide) (by decide) (by omega) hend]
        congr 2
        omega
      · rw [readFraction?_padded (by decide) (by decide) (by omega) hend]
        congr 2
        omega

/-! ### Instants -/

/-- The year of an instant is one of those that dates are kept in.  Counted seconds have no end, but
the instants of a clock do: this is where. -/
def IsKept (t : Instant) : Prop := isYear (Date.ofDays (t.second / 86400)).year = true

instance (t : Instant) : Decidable t.IsKept := inferInstanceAs (Decidable (_ = true))

/-- **The fields that an instant is written with are those of the instant.** -/
theorem ofFields?_of_isKept {t : Instant} (h : t.IsKept) :
    ofFields? (Date.ofDays (t.second / 86400)) ((t.second % 86400).toNat / 3600)
      ((t.second % 86400).toNat / 60 % 60) ((t.second % 86400).toNat % 60 + t.nano / 1_000_000_000)
      (t.nano % 1_000_000_000) 0 = some t := by
  have hvalid := Date.isValid_ofDays (t.second / 86400)
  have hnano := t.nano_lt
  have htotal : (Date.ofDays (t.second / 86400)).toDays * 86400
      + ((t.second % 86400).toNat / 3600 * 3600 + (t.second % 86400).toNat / 60 % 60 * 60
        + min ((t.second % 86400).toNat % 60 + t.nano / 1_000_000_000) 59 : Nat) - 0 =
          t.second := by
    rw [Date.toDays_ofDays]
    omega
  have hleap : (if (t.second % 86400).toNat % 60 + t.nano / 1_000_000_000 = 60
      then t.nano % 1_000_000_000 + 1_000_000_000 else t.nano % 1_000_000_000) = t.nano := by
    split <;> omega
  unfold ofFields?
  rw [if_pos ⟨hvalid, h, by decide⟩]
  simp only [htotal, hleap]
  rw [dif_pos ⟨t.nano_lt, h⟩]

/-- **An instant that can be kept comes back from its text.** -/
theorem read?_chars {t : Instant} (h : t.IsKept) : read? t.chars = some t := by
  have hdate := Date.bounds_of_isValid (Date.isValid_ofDays (t.second / 86400))
  have hnano := t.nano_lt
  have hyear : ∀ rest, readYear? (yearChars (Date.ofDays (t.second / 86400)).year ++ '-' :: rest)
      = some ((Date.ofDays (t.second / 86400)).year, '-' :: rest) := fun rest =>
    readYear?_yearChars _ fun c hc => by
      rw [← Option.some.inj hc]
      decide
  have hmonth : ∀ rest,
      readNumber? 2 1 12 (padded 2 _ ++ rest) =
        some ((Date.ofDays (t.second / 86400)).month, rest) :=
    readNumber?_padded (by decide) (by omega) hdate.1
  have hday : ∀ rest,
      readNumber? 2 1 31 (padded 2 _ ++ rest) = some ((Date.ofDays (t.second / 86400)).day, rest) :=
    readNumber?_padded (by decide) (by omega) hdate.2
  have hhour : ∀ rest,
      readNumber? 2 0 23 (padded 2 _ ++ rest) = some ((t.second % 86400).toNat / 3600, rest) :=
    readNumber?_padded (by decide) (by omega) (by omega)
  have hminute : ∀ rest,
      readNumber? 2 0 59 (padded 2 _ ++ rest) = some ((t.second % 86400).toNat / 60 % 60, rest) :=
    readNumber?_padded (by decide) (by omega) (by omega)
  have hsecond : ∀ rest, readNumber? 2 0 60 (padded 2 _ ++ rest)
      = some ((t.second % 86400).toNat % 60 + t.nano / 1_000_000_000, rest) :=
    readNumber?_padded (by decide) (by omega) (by omega)
  have hfraction := readFraction?_fractionChars (Nat.mod_lt t.nano (by decide : 0 < 1_000_000_000))
  have hoffset : readOffset? (trimStart ['Z']) = some (0, []) := by decide
  have hhyphen : ∀ rest, readMark? '-' ('-' :: rest) = some rest := readMark?_cons (by decide)
  have hcolon : ∀ rest, readMark? ':' (':' :: rest) = some rest := readMark?_cons (by decide)
  unfold chars
  simp only [List.append_assoc, List.cons_append]
  unfold read?
  refine Option.bind_eq_some_iff.2 ⟨_, hyear _, ?_⟩
  refine Option.bind_eq_some_iff.2 ⟨_, hhyphen _, ?_⟩
  refine Option.bind_eq_some_iff.2 ⟨_, hmonth _, ?_⟩
  refine Option.bind_eq_some_iff.2 ⟨_, hhyphen _, ?_⟩
  refine Option.bind_eq_some_iff.2 ⟨_, hday _, ?_⟩
  refine Option.bind_eq_some_iff.2 ⟨_, hhour _, ?_⟩
  refine Option.bind_eq_some_iff.2 ⟨_, hcolon _, ?_⟩
  refine Option.bind_eq_some_iff.2 ⟨_, hminute _, ?_⟩
  refine Option.bind_eq_some_iff.2 ⟨_, hcolon _, ?_⟩
  refine Option.bind_eq_some_iff.2 ⟨_, hsecond _, ?_⟩
  refine Option.bind_eq_some_iff.2 ⟨_, hfraction, ?_⟩
  refine Option.bind_eq_some_iff.2 ⟨_, hoffset, ?_⟩
  exact ofFields?_of_isKept h

theorem ofText?_text {t : Instant} (h : t.IsKept) : ofText? t.text = some t := by
  unfold ofText? text
  rw [String.toList_ofList, read?_chars h]

theorem isKept_of_ofFields? {date : Date} {hour minute second nano : Nat} {offset : Int}
    {t : Instant} (h : ofFields? date hour minute second nano offset = some t) : t.IsKept := by
  unfold ofFields? at h
  simp only [Option.ite_none_right_eq_some, Option.dite_none_right_eq_some] at h
  obtain ⟨-, hkept, heq⟩ := h
  rw [← Option.some.inj heq]
  exact hkept.2

theorem isKept_of_ofText? {s : String} {t : Instant} (h : ofText? s = some t) : t.IsKept := by
  unfold ofText? read? at h
  obtain ⟨year, -, h⟩ := Option.bind_eq_some_iff.1 h
  obtain ⟨_, -, h⟩ := Option.bind_eq_some_iff.1 h
  obtain ⟨month, -, h⟩ := Option.bind_eq_some_iff.1 h
  obtain ⟨_, -, h⟩ := Option.bind_eq_some_iff.1 h
  obtain ⟨day, -, h⟩ := Option.bind_eq_some_iff.1 h
  dsimp only at h
  split at h
  · split at h
    · obtain ⟨_, -, h⟩ := Option.bind_eq_some_iff.1 h
      obtain ⟨hour, -, h⟩ := Option.bind_eq_some_iff.1 h
      obtain ⟨_, -, h⟩ := Option.bind_eq_some_iff.1 h
      obtain ⟨minute, -, h⟩ := Option.bind_eq_some_iff.1 h
      obtain ⟨_, -, h⟩ := Option.bind_eq_some_iff.1 h
      obtain ⟨second, -, h⟩ := Option.bind_eq_some_iff.1 h
      obtain ⟨nano, -, h⟩ := Option.bind_eq_some_iff.1 h
      obtain ⟨offset, -, h⟩ := Option.bind_eq_some_iff.1 h
      exact isKept_of_ofFields? (Option.ite_none_right_eq_some.1 h).2
    · exact nomatch h
  · exact nomatch h

example : (⟨1483228799, 1_500_000_000, .inr (by decide)⟩ : Instant).text =
    "2016-12-31T23:59:60.500Z" := by
  decide +kernel

end Instant

end Firewall
