/-
Numbers, truth values and dates of TOML.

A scalar is read as one run of characters first and told apart afterwards.
-/
import Firewall.Text.Split
import Firewall.Time.Calendar
import Firewall.Toml.Value
import Firewall.Text.Numeral

namespace Firewall.Toml

open Text (pieces)

/-- Whether a character may stand in a scalar: any that does not end it. -/
def isScalarChar (c : Char) : Bool := !("=,[]\x7b\x7d \t#\r\n".toList).contains c

/-! ### The form of a number

A document is wrong where a scalar has no form.  Whether a number stands for anything is
another matter, which only those ask who want it: to the base ten, underscores may also
stand next to letters up to `f`, and such a number is `unreadable`, as is one too
large.
-/

/-- A sign, and what follows it. -/
def signOf (cs : List Char) : Bool × List Char :=
  match cs with
  | '-' :: rest => (true, rest)
  | '+' :: rest => (false, rest)
  | rest => (false, rest)

/-- Whether each underscore stands between two digits, or behind a sign and before a digit. -/
def isSeparated (isDigit : Char → Bool) (cs : List Char) : Bool :=
  match pieces '_' cs with
  | [] | [_] => true
  | first :: more =>
    (first.length == 1 || first.getLast?.any isDigit) && more.all (fun p => p.head?.any isDigit)
      && more.dropLast.all fun p => p.getLast?.any isDigit

/-- Reads digits, among which underscores may stand, and says which digits.  Unless it may have
zeros in front, a number begins with a zero only if it has no other digit. -/
def readDigits? (zeros : Bool) (cs : List Char) : Option (List Char × List Char) :=
  let run := cs.takeWhile fun c => c.isDigit || c == '_'
  let digits := run.filter (· != '_')
  if digits = [] ∨ (!zeros ∧ 1 < digits.length ∧ cs.head? = some '0') then none
  else some (digits, cs.drop run.length)

/-! ### Integers -/

/-- An integer, if it is one of at most 128 bits with a sign or without. -/
def bounded (n : Int) : Value :=
  let isKept := if n < 0 then n.natAbs ≤ Nat.pow 2 127 else n.natAbs < Nat.pow 2 128
  if isKept then .integer n else .unreadable

/-- What a run of digits and underscores stands for. -/
def integerOf (base : Nat) (negative : Bool) (run : List Char) : Value :=
  let digits := run.filter (· != '_')
  if digits ≠ [] ∧ digits.all (Text.isDigitOf base) then
    let n : Int := Text.ofDigits base digits
    bounded (if negative then -n else n)
  else .unreadable

/-- Reads an integer to a base that was marked; there may be no digit at
all, which stands for nothing. -/
def marked? (base : Nat) (run : List Char) : Option Value :=
  if run.all (fun c => c == '_' || Text.isDigitOf base c) ∧
      isSeparated (Text.isDigitOf base) run then
    some (integerOf base false run)
  else none

/-- Reads a decimal integer. -/
def decimal? (cs : List Char) : Option Value :=
  let (negative, body) := signOf cs
  let more := body.dropWhile Char.isDigit
  if body = ['0'] then some (integerOf 10 negative body)
  else if body ≠ [] ∧ body.head? ≠ some '0' ∧ (more = [] ∨ more.head? = some '_')
      ∧ isSeparated (Text.isDigitOf 16) cs then
    some (integerOf 10 negative body)
  else none

/-! ### Floats -/

/-- The least of the numbers that round to infinity. -/
def leastInfinite : Nat := Nat.pow 2 1024 - Nat.pow 2 970

/-- Whether digits, scaled by a power of ten, stay below the numbers that round to infinity. -/
def isFinite (digits : List Char) (exponent : Int) : Bool :=
  let n := Text.ofDigits 10 digits
  let digitCount : Int := ((digits.dropWhile (· == '0')).length : Int)
  if n = 0 ∨ digitCount + exponent < 300 then true
  else if digitCount + exponent > 310 then false
  else if 0 ≤ exponent then n * Nat.pow 10 exponent.toNat < leastInfinite
  else n < leastInfinite * Nat.pow 10 exponent.natAbs

/-- Reads the digits behind a point, if there is a point. -/
def readFraction? : List Char → Option (List Char × List Char)
  | '.' :: rest => readDigits? true rest
  | cs => some ([], cs)

/-- Reads a power of ten behind its letter, if there is one. -/
def readExponent? (cs : List Char) : Option (Int × List Char) :=
  match cs with
  | 'e' :: rest | 'E' :: rest =>
    let (negative, rest) := signOf rest
    (readDigits? true rest).map fun (digits, rest) =>
      let n : Int := Text.ofDigits 10 digits
      (if negative then -n else n, rest)
  | cs => some (0, cs)

/-- Reads a float written in digits. -/
def float? (cs : List Char) : Option Value := do
  let (whole, rest) ← readDigits? false (signOf cs).2
  let (fraction, rest) ← readFraction? rest
  let (exponent, rest) ← readExponent? rest
  if rest = [] ∧ isSeparated Char.isDigit cs then
    return if isFinite (whole ++ fraction) (exponent - fraction.length) then .float else .unreadable
  else none

/-- Reads a number: an integer to the base 16, 8 or 2 behind a mark, one of the two names, a float
if there is a point or a letter of an exponent, and else a decimal integer. -/
def number? (cs : List Char) : Option Value :=
  match cs with
  | '0' :: 'x' :: run => marked? 16 run
  | '0' :: 'o' :: run => marked? 8 run
  | '0' :: 'b' :: run => marked? 2 run
  | cs =>
    let body := (signOf cs).2
    if body = ['i', 'n', 'f'] ∨ body = ['n', 'a', 'n'] then some .float
    else if (body.dropWhile Char.isDigit).any fun c =>
      c == '.' || c == 'e' || c == 'E' then float? cs
    else decimal? cs

/-! ### Dates and times -/

/-- Reads a given count of digits that stand for a number in a range. -/
def fixedNumber? (count low high : Nat) (cs : List Char) : Option (Nat × List Char) :=
  let digits := cs.take count
  if digits.length = count ∧ digits.all Char.isDigit then
    let n := Text.ofDigits 10 digits
    if low ≤ n ∧ n ≤ high then some (n, cs.drop count) else none
  else none

/-- Reads one given character. -/
def mark? (c : Char) : List Char → Option (List Char)
  | d :: rest => if d = c then some rest else none
  | [] => none

/-- Reads a date. -/
def readDate? (cs : List Char) : Option (List Char) := do
  let (year, cs) ← fixedNumber? 4 0 9999 cs
  let (month, cs) ← fixedNumber? 2 1 12 (← mark? '-' cs)
  let (day, cs) ← fixedNumber? 2 1 31 (← mark? '-' cs)
  if day ≤ Date.daysInMonth year month then some cs else none

/-- Reads a time of day, the seconds and their fraction being optional. -/
def readTime? (cs : List Char) : Option (List Char) := do
  let (_, cs) ← fixedNumber? 2 0 23 cs
  let (_, cs) ← fixedNumber? 2 0 59 (← mark? ':' cs)
  match cs with
  | ':' :: cs => do
    let (_, cs) ← fixedNumber? 2 0 60 cs
    match cs with
    | '.' :: cs =>
      if (cs.takeWhile Char.isDigit).isEmpty then none else some (cs.dropWhile Char.isDigit)
    | cs => some cs
  | cs => some cs

/-- Reads an offset from universal time. -/
def readOffset? (cs : List Char) : Option (List Char) :=
  match cs with
  | 'Z' :: rest | 'z' :: rest => some rest
  | '+' :: rest | '-' :: rest => do
    let (_, rest) ← fixedNumber? 2 0 23 rest
    let (_, rest) ← fixedNumber? 2 0 59 (← mark? ':' rest)
    return rest
  | _ => none

/-- Whether a text is a date, a time of day, or both with or without an offset. -/
def isDateTime (cs : List Char) : Bool :=
  match readDate? cs with
  | none => readTime? cs == some []
  | some [] => true
  | some (c :: rest) =>
    (c == 'T' || c == 't' || c == ' ')
      && match readTime? rest with
        | none => false
        | some [] => true
        | some rest => readOffset? rest == some []

/-! ### Scalars -/

/-- The run of characters that a scalar is made of; a date may be parted
from its time by a space. -/
def scalarRun (cs : List Char) : List Char :=
  let run := cs.takeWhile isScalarChar
  let rest := cs.drop run.length
  if readDate? run = some [] then
    match rest with
    | ' ' :: a :: b :: ':' :: _ =>
      if a.isDigit && b.isDigit then run ++ ' ' :: (rest.drop 1).takeWhile isScalarChar else run
    | _ => run
  else run

/-- Reads a scalar that is not a string. -/
def readScalar? (cs : List Char) : Option (Value × List Char) :=
  let run := scalarRun cs
  let value : Option Value :=
    if run = "true".toList then some (.boolean true)
    else if run = "false".toList then some (.boolean false)
    else if isDateTime run then some .dateTime
    else number? run
  value.map fun v => (v, cs.drop run.length)

end Firewall.Toml
