/-
Rule lines.

A line is a list of matches followed by what is done with the packets that meet
them all, and ends in a comment.  A comment stands in quotes and takes at most
128 bytes, so quotes and control characters in it become apostrophes, and what is
too long is cut at the last character that fits.
-/
import Firewall.Rule.Clause
import Firewall.Rule.Ports
import Firewall.Text.Blank

namespace Firewall

namespace Comment

/-- How many bytes a comment may take. -/
def maxBytes : Nat := 128

/-- A character as it may stand in a comment. -/
def safeChar (c : Char) : Char := if c = '"' || Text.isControl c then '\'' else c

/-- The longest piece from the front that takes at most a number of bytes. -/
def fitting : Nat → List Char → List Char
  | _, [] => []
  | room, c :: rest => if c.utf8Size ≤ room then c :: fitting (room - c.utf8Size) rest else []

/-- A text as it may stand in a comment. -/
def sanitized (s : String) : String := String.ofList (fitting maxBytes (s.toList.map safeChar))

/-- The end of a line: the comment in quotes. -/
def clause (s : String) : String := "comment \"" ++ sanitized s ++ "\""

end Comment

/-- The part of a line that has the accepted packets logged. -/
def logClause : String := "log prefix \"nftwall-accepted: \" limit rate 10/second"

/-- The text of a line, from the texts of its matches. -/
def ruleText (constraints : List String) (ports : Option String) (logged : Bool)
    (comment : String) :
    String :=
  String.intercalate " " (constraints ++ ports.toList ++ (if logged then [logClause] else [])
    ++ ["counter accept", Comment.clause comment])

/-- A line that accepts the packets that meet every one of its matches. -/
structure Line where
  clauses : List Clause
  ports : Option PortClause
  logged : Bool
  comment : String
  deriving DecidableEq

namespace Line

/-- The text of a line. -/
def text (l : Line) : String :=
  ruleText (l.clauses.map Clause.text) (l.ports.map PortClause.text) l.logged l.comment

end Line

/-- Texts in ascending order, each once. -/
def uniqueSorted (texts : List String) : Ascending String := .ofList texts

end Firewall
