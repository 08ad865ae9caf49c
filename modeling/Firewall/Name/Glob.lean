/-
Name patterns.

In a pattern a star stands for any run of host name characters, dots included,
and every other character for itself.  A pattern that is one star alone means
something narrower: the root, or labels that each end in a dot.

`Glob.accepts` decides a pattern by filling, from the end of the pattern to its
start, one row with an entry for every end of the text; the entry says whether
the rest of the pattern fits that end.  `Glob.expression` writes the pattern as
a regular expression for the same texts.
-/
import Firewall.Name.Basic
import Firewall.Text.Split

namespace Firewall

/-- A name pattern, read. -/
inductive Glob where
  /-- The root, or labels that each end in a dot. -/
  | everyName
  /-- The given characters, each star standing for a run of host name characters. -/
  | chars (pattern : List Char)
  deriving DecidableEq, Repr

namespace Glob

open Name (isHostChar isLabelChar)

/-- Reads a pattern: it is brought into the form of a name first. -/
def ofText (s : String) : Glob :=
  let pattern := Name.qualify s.toList
  if Name.withoutFinalDots pattern = ['*'] then everyName else chars pattern

/-- Whether a text is one or more labels, each of them not empty and ending in a dot. -/
def isDottedLabels (cs : List Char) : Bool :=
  let labels := Text.pieces '.' cs
  labels.getLast? == some [] && labels.length ≥ 2
    && labels.dropLast.all fun label => !label.isEmpty && label.all isLabelChar

/-- The row for a pattern that begins with a character standing for itself, from the row for the
rest of the pattern. -/
def charRow (c : Char) : List Char → List Bool → List Bool
  | x :: text, _ :: next => (x == c && next.headD false) :: charRow c text next
  | _, _ => [false]

/-- The row for a pattern that begins with a star, from the row for the rest of the pattern. -/
def starRow : List Char → List Bool → List Bool
  | x :: text, here :: next =>
    let row := starRow text next
    (here || (isHostChar x && row.headD false)) :: row
  | _, next => next

/-- For every end of the text, the whole text first, whether the pattern fits it. -/
def row (text : List Char) : List Char → List Bool
  | [] => text.map (fun _ => false) ++ [true]
  | c :: pattern =>
    if c = '*' then starRow text (row text pattern) else charRow c text (row text pattern)

/-- Whether a name fits a pattern. -/
def accepts (glob : Glob) (name : String) : Bool :=
  match glob with
  | everyName => name == "." || isDottedLabels name.toList
  | chars pattern => (row name.toList pattern).headD false

/-! ### As a regular expression -/

/-- The characters that mean something in a regular expression. -/
def metacharacters : List Char := "\\.+*?()|[]\x7b\x7d^$#&-~".toList

/-- A character of a pattern as a regular expression. -/
def expressionOf (c : Char) : List Char :=
  if c = '*' then "[-a-zA-Z0-9_.]*".toList
  else if c ∈ metacharacters then ['\\', c]
  else [c]

/-- The regular expression for the names that fit a pattern. -/
def expression : Glob → String
  | everyName => "(^([-a-zA-Z0-9_]+[.])+$)|(^[.]$)"
  | chars pattern => String.ofList ('^' :: pattern.flatMap expressionOf ++ ['$'])

end Glob

end Firewall
