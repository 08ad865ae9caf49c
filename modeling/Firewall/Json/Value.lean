/-
JSON values, and their text.

A string of JSON may spell half of a surrogate pair, which is no character; such
a string is a value all the same, but has no text.  An object keeps its members
in the order in which they are written, repeated keys included: what a repeated
key means is for the reader of the object to say.

The text has each element and each member on a line of its own, two blanks deeper
than what holds it, and nothing inside an empty array or object.
-/
import Firewall.Text.Numeral
import Firewall.Text.Split

namespace Firewall.Json

/-- A JSON value. -/
inductive Value where
  | null
  | bool (b : Bool)
  /-- A number, as it is written. -/
  | number (literal : List Char)
  /-- A string; without a text when it spells half of a surrogate pair. -/
  | string (text : Option String)
  | array (items : List Value)
  | object (members : List (Option String × Value))
  deriving Repr

/-- The value of a text. -/
def Value.ofString (s : String) : Value := .string (some s)

/-- The object with the given members. -/
def Value.ofMembers (members : List (String × Value)) : Value :=
  .object (members.map fun (k, v) => (some k, v))

/-! ### Writing -/

/-- A character inside quotes. -/
def charChars (c : Char) : List Char :=
  if c = '"' then ['\\', '"']
  else if c = '\\' then ['\\', '\\']
  else if c = '\x08' then ['\\', 'b']
  else if c = '\x0c' then ['\\', 'f']
  else if c = '\n' then ['\\', 'n']
  else if c = '\r' then ['\\', 'r']
  else if c = '\t' then ['\\', 't']
  else if c.toNat < 0x20 then
    ['\\', 'u', '0', '0', Text.hexDigit (c.toNat / 16), Text.hexDigit (c.toNat % 16)]
  else [c]

/-- A string in quotes. -/
def stringChars (text : Option String) : List Char :=
  match text with
  | some s => '"' :: s.toList.flatMap charChars ++ ['"']
  | none => "\"\\ud800\"".toList

/-- A new line, and two blanks for each level. -/
def newLine (level : Nat) : List Char := '\n' :: List.replicate (2 * level) ' '

/-- Pieces between brackets, each on a line of its own one level deeper,
with commas between them. -/
def bracketed (level : Nat) (opening closing : Char) (pieces : List (List Char)) : List Char :=
  if pieces.isEmpty then [opening, closing]
  else opening :: Text.join [','] (pieces.map (newLine (level + 1) ++ ·)) ++
    newLine level ++ [closing]

mutual

/-- The text of a value that stands at a level. -/
def Value.chars (level : Nat) : Value → List Char
  | .null => ['n', 'u', 'l', 'l']
  | .bool true => ['t', 'r', 'u', 'e']
  | .bool false => ['f', 'a', 'l', 's', 'e']
  | .number literal => literal
  | .string text => stringChars text
  | .array items => bracketed level '[' ']' (itemPieces (level + 1) items)
  | .object members => bracketed level '\x7b' '\x7d' (memberPieces (level + 1) members)

/-- The texts of the elements of an array. -/
def itemPieces (level : Nat) : List Value → List (List Char)
  | [] => []
  | v :: rest => v.chars level :: itemPieces level rest

/-- The texts of the members of an object. -/
def memberPieces (level : Nat) : List (Option String × Value) → List (List Char)
  | [] => []
  | m :: rest => memberPiece level m :: memberPieces level rest

/-- The text of a member: its key, a colon and a blank, and its value. -/
def memberPiece (level : Nat) : Option String × Value → List Char
  | (k, v) => stringChars k ++ ':' :: ' ' :: v.chars level

end

/-- The text of a value. -/
def Value.text (v : Value) : String := String.ofList (v.chars 0)

end Firewall.Json
