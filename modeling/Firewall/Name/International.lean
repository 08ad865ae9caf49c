/-
International names in the form in which name servers know them.

Name servers know names in ASCII.  A label with other characters is brought into the
form in which names are compared and then written in ASCII behind the mark `xn--`;
one that comes with the mark is read back first, and then has to be right like any other.
What dots arise on the way part the label into pieces.

A piece does not begin with a mark, and the characters that only make their
neighbours join stand where they have an effect.  If anything in the label is written
from right to left, every piece has one direction that can be told from its ends.
-/
import Firewall.Name.International.Mapping
import Firewall.Name.Punycode
import Firewall.Text.Blank
import Firewall.Text.Split
import Firewall.Unicode.Direction
import Firewall.Unicode.Joining
import Firewall.Unicode.Mark

namespace Firewall.Name.International

open Unicode (BidiClass bidiClass joining)

/-- Whether a character is an ASCII character. -/
def isAscii (c : Char) : Bool := c.toNat < 0x80

/-- Whether a character may stand in a label: any beyond ASCII, and small
letters, digits, dashes and dots. -/
def mayStand (c : Char) : Bool :=
  !isAscii c || ('a' ≤ c && c ≤ 'z') || c.isDigit || c == '-' || c == '.'

/-! ### Joiners -/

/-- The character that makes its neighbours join. -/
def joiner : Char := '\u200d'

/-- The character that keeps its neighbours from joining. -/
def nonJoiner : Char := '\u200c'

/-- Whether the nearest character that is not transparent joins in one of the given ways. -/
def nearestJoins (ways : List Unicode.Joining) (cs : List Char) : Bool :=
  (cs.find? fun c => joining c != .transparent).any fun c => ways.contains (joining c)

/-- Whether all joiners have an effect, given what is before, from right to left: they stand behind
a virama, or the nonjoiner stands between characters that would join. -/
def joinersHaveEffect (before : List Char) : List Char → Bool
  | [] => true
  | c :: rest =>
    let behindVirama := before.head?.any fun b => Unicode.combiningClass b == Unicode.viramaClass
    let between := nearestJoins [.after, .both] before && nearestJoins [.before, .both] rest
    let fine :=
      if c = joiner then behindVirama
      else if c = nonJoiner then behindVirama || between
      else true
    fine && joinersHaveEffect (c :: before) rest

/-! ### Directions -/

/-- Whether a character is written from right to left. -/
def isFromRight (c : Char) : Bool :=
  match bidiClass c with
  | .rightToLeft | .arabicLetter | .arabicNumber => true
  | _ => false

/-- The classes that may stand in a piece of either direction. -/
def neutral : List BidiClass :=
  [.europeanNumber, .europeanSeparator, .commonSeparator, .europeanTerminator, .otherNeutral,
   .boundaryNeutral, .nonspacingMark]

/-- Whether classes are all of some that may stand, and the last that is
no mark is one that may end. -/
def runs (mayStand mayEnd : List BidiClass) (ds : List BidiClass) : Bool :=
  ds.all mayStand.contains && (ds.reverse.find? (· != .nonspacingMark)).any mayEnd.contains

/-- Whether a piece has one direction: it begins with a letter of it, holds no letter of the other,
and ends in a letter or number.  From right to left, numbers are of one kind only. -/
def hasOneDirection (piece : List Char) : Bool :=
  let ds := piece.map bidiClass
  match ds.head? with
  | none => true
  | some .leftToRight => runs (.leftToRight :: neutral) [.leftToRight, .europeanNumber] ds
  | some .rightToLeft | some .arabicLetter =>
    runs (.rightToLeft :: .arabicLetter :: .arabicNumber :: neutral)
        [.rightToLeft, .arabicLetter, .europeanNumber, .arabicNumber] ds
      && !(ds.contains .europeanNumber && ds.contains .arabicNumber)
  | some _ => false

/-! ### Labels -/

/-- A piece of a label: what it says, and how it is written in ASCII. -/
structure Piece where
  text : List Char
  ascii : List Char

/-- The mark of what is written in ASCII. -/
def asciiMark : List Char := ['x', 'n', '-', '-']

/-- Reads a piece of a label in the form in which names are compared. -/
def piece? (cs : List Char) : Option Piece :=
  if cs.take 4 = asciiMark then
    if cs.all isAscii ∧ cs.getLast? ≠ some '-' then do
      let text ← Punycode.decode? (cs.drop 4)
      if normalized? text = some text then some ⟨text, cs⟩ else none
    else none
  else some ⟨cs, if cs.all isAscii then cs else asciiMark ++ Punycode.encode cs⟩

/-- Whether a piece is right, directions aside. -/
def Piece.isRight (p : Piece) : Bool :=
  !p.text.head?.any Unicode.isMark && joinersHaveEffect [] p.text

/-- A label in ASCII, if it is right. -/
def toAscii? (label : List Char) : Option (List Char) := do
  let text ← normalized? label
  let parts ← (Text.pieces '.' text).mapM piece?
  let fromRight := parts.any fun p => p.text.any isFromRight
  if text.all mayStand ∧ parts.all Piece.isRight ∧
      (fromRight → parts.all fun p => hasOneDirection p.text) then
    some (Text.join ['.'] (parts.map (·.ascii)))
  else none

end Firewall.Name.International
