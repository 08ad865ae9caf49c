/-
Instants as text.

Written, an instant is a date and a time of day in universal time, with the
fewest of no, three, six or nine fraction digits that hold it; a leap second is
the sixtieth of its minute.  Read, the date and the time may have white space
inside, and may be followed by any offset from universal time of less than a day.
-/
import Firewall.Text.Blank
import Firewall.Text.Numeral
import Firewall.Time.Calendar
import Firewall.Time.Instant

namespace Firewall.Instant

open Text (padded trimStart)

/-! ### Writing -/

/-- A year: four digits, or a sign and at least four digits when it has more or is negative. -/
def yearChars (year : Int) : List Char :=
  if 0 ≤ year ∧ year ≤ 9999 then padded 4 year.toNat
  else (if year < 0 then '-' else '+') :: padded 4 year.natAbs

/-- The digits after the point, with the point; nothing for a whole second. -/
def fractionChars (nano : Nat) : List Char :=
  if nano = 0 then []
  else if nano % 1_000_000 = 0 then '.' :: padded 3 (nano / 1_000_000)
  else if nano % 1_000 = 0 then '.' :: padded 6 (nano / 1_000)
  else '.' :: padded 9 nano

/-- The text of an instant, character by character. -/
def chars (t : Instant) : List Char :=
  let date := Date.ofDays (t.second / 86400)
  let ofDay := (t.second % 86400).toNat
  let second := ofDay % 60 + t.nano / 1_000_000_000
  yearChars date.year ++ '-' :: padded 2 date.month ++ '-' :: padded 2 date.day
    ++ 'T' :: padded 2 (ofDay / 3600) ++ ':' :: padded 2 (ofDay / 60 % 60)
    ++ ':' :: padded 2 second ++ fractionChars (t.nano % 1_000_000_000) ++ ['Z']

/-- The text of an instant. -/
def text (t : Instant) : String := String.ofList t.chars

/-! ### Reading -/

/-- Reads between one and `most` digits in front of a text. -/
def readDigits? (most : Nat) (cs : List Char) : Option (List Char × List Char) :=
  let digits := (cs.take most).takeWhile Char.isDigit
  if digits.isEmpty then none else some (digits, cs.drop digits.length)

/-- Reads a number of at most `most` digits, blanks in front of it skipped, that lies in a range. -/
def readNumber? (most low high : Nat) (cs : List Char) : Option (Nat × List Char) := do
  let (digits, rest) ← readDigits? most (trimStart cs)
  let n := Nat.ofDigitChars 10 digits 0
  if low ≤ n ∧ n ≤ high then some (n, rest) else none

/-- Reads a year: up to four digits, or any number of digits behind a sign. -/
def readYear? (cs : List Char) : Option (Int × List Char) :=
  match trimStart cs with
  | '-' :: rest => do
    let (digits, rest) ← readDigits? rest.length rest
    return (-(Nat.ofDigitChars 10 digits 0 : Int), rest)
  | '+' :: rest => do
    let (digits, rest) ← readDigits? rest.length rest
    return ((Nat.ofDigitChars 10 digits 0 : Int), rest)
  | rest => do
    let (digits, rest) ← readDigits? 4 rest
    return ((Nat.ofDigitChars 10 digits 0 : Int), rest)

/-- Reads one given character, blanks in front of it skipped. -/
def readMark? (mark : Char) (cs : List Char) : Option (List Char) :=
  match trimStart cs with
  | c :: rest => if c = mark then some rest else none
  | [] => none

/-- Reads a point and digits, if a point comes first; digits beyond the ninth do not count. -/
def readFraction? : List Char → Option (Nat × List Char)
  | '.' :: rest => do
    let (digits, more) ← readDigits? 9 rest
    return (Nat.ofDigitChars 10 digits 0 * Nat.pow 10 (9 - digits.length),
      more.dropWhile Char.isDigit)
  | cs => some (0, cs)

/-- Whether a character may stand between the hours and the minutes of an offset. -/
def isOffsetSeparator (c : Char) : Bool := c == ':' || Text.isBlank c

/-- Reads an offset behind its sign: two digits of hours and two of minutes, in seconds. -/
def readOffsetSize? : List Char → Option (Nat × List Char)
  | h1 :: h2 :: rest =>
    if h1.isDigit && h2.isDigit then
      match rest.dropWhile isOffsetSeparator with
      | m1 :: m2 :: rest =>
        if '0' ≤ m1 && m1 ≤ '5' && m2.isDigit then
          some (Nat.ofDigitChars 10 [h1, h2] 0 * 3600 + Nat.ofDigitChars 10 [m1, m2] 0 * 60, rest)
        else none
      | _ => none
    else none
  | _ => none

/-- Reads an offset from universal time, in seconds. -/
def readOffset? (cs : List Char) : Option (Int × List Char) :=
  match cs with
  | c :: rest =>
    if (cs.take 3).map Text.lower = ['u', 't', 'c'] then some (0, cs.drop 3)
    else if c = 'Z' ∨ c = 'z' then some (0, rest)
    else if c = '+' then (readOffsetSize? rest).map fun (n, rest) => ((n : Int), rest)
    else if c = '-' ∨ c = '\u2212' then
      (readOffsetSize? rest).map fun (n, rest) => (-(n : Int), rest)
    else none
  | [] => none

/-- The years that dates are kept in. -/
def isYear (year : Int) : Bool := -262143 ≤ year && year ≤ 262142

/-- The instant of a time of day at an offset; the sixtieth second is a leap second. -/
def ofFields? (date : Date) (hour minute second nano : Nat) (offset : Int) : Option Instant :=
  if date.isValid ∧ isYear date.year ∧ offset.natAbs < 86400 then
    let total := date.toDays * 86400 + (hour * 3600 + minute * 60 + min second 59 : Nat) - offset
    let nano := if second = 60 then nano + 1_000_000_000 else nano
    if h : (nano < 1_000_000_000 ∨ nano < 2_000_000_000 ∧ total % 60 = 59)
        ∧ isYear (Date.ofDays (total / 86400)).year then
      some ⟨total, nano, h.1⟩
    else none
  else none

/-- Reads an instant that nothing but blanks may follow. -/
def read? (cs : List Char) : Option Instant := do
  let (year, cs) ← readYear? cs
  let cs ← readMark? '-' cs
  let (month, cs) ← readNumber? 2 1 12 cs
  let cs ← readMark? '-' cs
  let (day, cs) ← readNumber? 2 1 31 cs
  let cs ← match cs with
    | c :: rest => if c = 't' ∨ c = 'T' ∨ c = ' ' then some rest else none
    | [] => none
  let (hour, cs) ← readNumber? 2 0 23 cs
  let cs ← readMark? ':' cs
  let (minute, cs) ← readNumber? 2 0 59 cs
  let cs ← readMark? ':' cs
  let (second, cs) ← readNumber? 2 0 60 cs
  let (nano, cs) ← readFraction? cs
  let (offset, cs) ← readOffset? (trimStart cs)
  if (trimStart cs).isEmpty then ofFields? ⟨year, month, day⟩ hour minute second nano offset
  else none

/-- Reads the text of an instant. -/
def ofText? (s : String) : Option Instant := read? s.toList

end Firewall.Instant
