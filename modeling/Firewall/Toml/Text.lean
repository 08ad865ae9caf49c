/-
Strings, keys and comments of TOML.

Every function takes what is left of the document and returns what is left after
it, or nothing when the document is wrong there.
-/
import Firewall.Text.Numeral

namespace Firewall.Toml

/-! ### Blanks and comments -/

/-- A space or a tab. -/
def isSpace (c : Char) : Bool := c == ' ' || c == '\t'

/-- Drops the spaces and tabs in front. -/
def skipSpace (cs : List Char) : List Char := cs.dropWhile isSpace

/-- Whether a character may stand in a comment or inside quotes: any but a control character, tabs
aside. -/
def isPrintable (c : Char) : Bool := c == '\t' || (0x20 ≤ c.toNat && c != '\x7f')

/-- Reads a line break. -/
def readBreak? : List Char → Option (List Char)
  | '\n' :: rest => some rest
  | '\r' :: '\n' :: rest => some rest
  | _ => none

/-- Reads the rest of a comment, up to the line break that ends it. -/
def readComment? : List Char → Option (List Char)
  | [] => some []
  | '\n' :: rest => some ('\n' :: rest)
  | '\r' :: '\n' :: rest => some ('\r' :: '\n' :: rest)
  | c :: rest => if isPrintable c then readComment? rest else none

/-- Reads what may end a line, spaces and a comment, and the line break unless the document ends. -/
def readLineEnd? (cs : List Char) : Option (List Char) := do
  let rest ← match skipSpace cs with
    | '#' :: rest => readComment? rest
    | rest => some rest
  if rest.isEmpty then some [] else readBreak? rest

/-- Skips spaces, line breaks and comments; the flag tells that a comment has begun. -/
def skipTrivia? : (inComment : Bool) → List Char → Option (List Char)
  | _, [] => some []
  | _, '\n' :: rest => skipTrivia? false rest
  | _, '\r' :: '\n' :: rest => skipTrivia? false rest
  | true, c :: rest => if isPrintable c then skipTrivia? true rest else none
  | false, c :: rest =>
    if isSpace c then skipTrivia? false rest
    else if c = '#' then skipTrivia? true rest
    else some (c :: rest)

/-! ### Strings -/

/-- The character with a number, if there is one. -/
def charOf? (n : Nat) : Option Char := if h : n.isValidChar then some (Char.ofNatAux n h) else none

/-- The character that digits after a backslash stand for. -/
def escapedNumber? (digits : List Char) : Option Char :=
  if digits.all (Text.isDigitOf 16) then charOf? (Text.ofDigits 16 digits) else none

/-- The character that a letter after a backslash stands for. -/
def escapedLetter? (c : Char) : Option Char :=
  match c with
  | 'b' => some '\x08'
  | 't' => some '\t'
  | 'n' => some '\n'
  | 'f' => some '\x0c'
  | 'r' => some '\r'
  | 'e' => some '\x1b'
  | '"' => some '"'
  | '\\' => some '\\'
  | _ => none

/-- Reads an escape, its backslash being read already. -/
def readEscape? : List Char → Option (Char × List Char)
  | 'x' :: a :: b :: rest => (escapedNumber? [a, b]).map fun c => (c, rest)
  | 'u' :: a :: b :: c :: d :: rest => (escapedNumber? [a, b, c, d]).map fun c => (c, rest)
  | 'U' :: a :: b :: c :: d :: e :: f :: g :: h :: rest =>
    (escapedNumber? [a, b, c, d, e, f, g, h]).map fun c => (c, rest)
  | c :: rest => (escapedLetter? c).map fun e => (e, rest)
  | [] => none

theorem readEscape?_length {cs rest : List Char} {c : Char} (h : readEscape? cs = some (c, rest)) :
    rest.length < cs.length := by
  unfold readEscape? at h
  split at h
  all_goals first
    | contradiction
    | (obtain ⟨_, _, h⟩ := Option.map_eq_some_iff.1 h
       simp only [Prod.mk.injEq] at h
       obtain ⟨_, rfl⟩ := h
       simp only [List.length_cons]
       omega)

/-- Reads a string in double quotes up to the closing one. -/
def readBasic? (cs : List Char) : Option (List Char × List Char) :=
  match cs with
  | [] => none
  | '"' :: rest => some ([], rest)
  | '\\' :: rest =>
    match h : readEscape? rest with
    | none => none
    | some (c, more) =>
      have : more.length < rest.length := readEscape?_length h
      (readBasic? more).map fun (s, rest) => (c :: s, rest)
  | c :: rest => if isPrintable c then (readBasic? rest).map fun (s, rest) =>
    (c :: s, rest) else none
termination_by cs.length

/-- Reads a string in single quotes up to the closing one. -/
def readLiteral? : List Char → Option (List Char × List Char)
  | [] => none
  | '\'' :: rest => some ([], rest)
  | c :: rest => if isPrintable c then (readLiteral? rest).map fun (s, rest) =>
    (c :: s, rest) else none

/-- Drops the line break right after opening quotes, if there is one. -/
def skipFirstBreak (cs : List Char) : List Char := (readBreak? cs).getD cs

/-- Whether a backslash stands at the end of a line, spaces aside. -/
def endsLine (afterBackslash : List Char) : Bool := (readBreak? (skipSpace afterBackslash)).isSome

/-- Drops spaces and line breaks. -/
def skipBlankLines : List Char → List Char
  | '\n' :: rest | '\r' :: '\n' :: rest => skipBlankLines rest
  | c :: rest => if isSpace c then skipBlankLines rest else c :: rest
  | [] => []

theorem length_skipBlankLines_le (cs : List Char) : (skipBlankLines cs).length ≤ cs.length := by
  fun_induction skipBlankLines cs <;> grind

/-- Reads a string over several lines up to three closing quotes, before which one or two more
belong to the string.  A backslash at the end of a line takes the blanks after it with it. -/
def readLines? (quote : Char) (escapes : Bool) (cs : List Char) : Option (List Char × List Char) :=
  match cs with
  | [] => none
  | c :: rest =>
    if c = quote ∧ rest.take 2 = [quote, quote] then
      let more := rest.drop 2
      let extra := (more.take 2).takeWhile (· == quote)
      some (extra, more.drop extra.length)
    else if escapes ∧ c = '\\' then
      if endsLine rest then readLines? quote escapes (skipBlankLines rest)
      else match h : readEscape? rest with
        | none => none
        | some (e, more) =>
          have : more.length < rest.length := readEscape?_length h
          (readLines? quote escapes more).map fun (s, rest) => (e :: s, rest)
    else if isPrintable c ∨ c = '\n' ∨ (c = '\r' ∧ rest.head? = some '\n') then
      (readLines? quote escapes rest).map fun (s, rest) => (c :: s, rest)
    else none
termination_by cs.length
decreasing_by
  all_goals simp only [List.length_cons]
  · have := length_skipBlankLines_le rest
    omega
  · omega
  · omega

/-- Reads a string of any form. -/
def readString? : List Char → Option (String × List Char)
  | '"' :: '"' :: '"' :: rest =>
    (readLines? '"' true (skipFirstBreak rest)).map fun (s, rest) => (String.ofList s, rest)
  | '\'' :: '\'' :: '\'' :: rest =>
    (readLines? '\'' false (skipFirstBreak rest)).map fun (s, rest) => (String.ofList s, rest)
  | '"' :: rest => (readBasic? rest).map fun (s, rest) => (String.ofList s, rest)
  | '\'' :: rest => (readLiteral? rest).map fun (s, rest) => (String.ofList s, rest)
  | _ => none

/-! ### Keys -/

/-- Whether a character may stand in a key without quotes. -/
def isBare (c : Char) : Bool :=
  ('a' ≤ c && c ≤ 'z') || ('A' ≤ c && c ≤ 'Z') || c.isDigit || c == '_' || c == '-'

/-- Reads one part of a key. -/
def readKeyPart? (cs : List Char) : Option (String × List Char) :=
  match cs with
  | '"' :: rest => (readBasic? rest).map fun (s, rest) => (String.ofList s, rest)
  | '\'' :: rest => (readLiteral? rest).map fun (s, rest) => (String.ofList s, rest)
  | cs =>
    let bare := cs.takeWhile isBare
    if bare.isEmpty then none else some (String.ofList bare, cs.drop bare.length)

/-- Reads the parts of a key, with dots between them; at most so many of them. -/
def readKeyParts? : (most : Nat) → List Char → Option (List String × List Char)
  | 0, _ => none
  | most + 1, cs => do
    let (part, rest) ← readKeyPart? (skipSpace cs)
    match skipSpace rest with
    | '.' :: rest => (readKeyParts? most rest).map fun (parts, rest) => (part :: parts, rest)
    | rest => some ([part], rest)

/-- How many parts a key may have. -/
def maxKeyParts : Nat := 80

/-- Reads a key: the path of its parts, and the last part. -/
def readKey? (cs : List Char) : Option ((List String × String) × List Char) := do
  let (parts, rest) ← readKeyParts? maxKeyParts cs
  let last ← parts.getLast?
  return ((parts.dropLast, last), rest)

end Firewall.Toml
