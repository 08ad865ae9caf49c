/-
Host names in the form in which they are compared.

Every name that reaches the cache, from a message, a saved state or a selector,
passes through `fullyQualified`: no white space around it, ASCII letters small,
and a dot at the end.  Doing it twice changes nothing.
-/
import Firewall.Text.Blank

namespace Firewall.Name

open Text (lower trim)

/-- A name without blanks around it, in small letters, ending in a dot. -/
def qualify (cs : List Char) : List Char :=
  let name := (trim cs).map lower
  if name.getLast? = some '.' then name else name ++ ['.']

/-- The form in which a name is compared. -/
def fullyQualified (s : String) : String := String.ofList (qualify s.toList)

/-- A name without the dots at its end. -/
def withoutFinalDots (cs : List Char) : List Char := (cs.reverse.dropWhile (· == '.')).reverse

/-- The characters that a host name is made of, the dot aside. -/
def isLabelChar (c : Char) : Bool := Text.isAlphanumeric c || c == '-' || c == '_'

/-- The characters that a host name is made of. -/
def isHostChar (c : Char) : Bool := isLabelChar c || c == '.'

/-- How many bytes a name of some labels takes where it is sent: each label stands behind its
length, and an empty one ends the name. -/
def wireLength {α : Type} (labels : List (List α)) : Nat :=
  labels.foldr (fun label n => label.length + 1 + n) 1

end Firewall.Name
