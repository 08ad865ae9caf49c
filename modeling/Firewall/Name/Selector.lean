/-
Selectors of names: one exact name, or a pattern.
-/
import Firewall.Name.Glob

namespace Firewall

/-- Selects names by exact name or by pattern.  Which of the two is set, and whether only one is, is
for `fault?` to say. -/
structure Selector where
  matchName : Option String := none
  matchPattern : Option String := none
  deriving DecidableEq, Repr

namespace Selector

instance : Inhabited Selector := ⟨{}⟩

/-- Selects one name. -/
def exact (name : String) : Selector := { matchName := some name }

/-- Selects by a pattern. -/
def pattern (text : String) : Selector := { matchPattern := some text }

/-- An optional text, without it if it is empty. -/
def nonempty? (s : Option String) : Option String := s.filter (· != "")

/-- Whether an exact name is selected. -/
def isExact (s : Selector) : Bool := (nonempty? s.matchName).isSome

/-- The exact name if there is one, else the pattern. -/
def text (s : Selector) : String := ((nonempty? s.matchName).or s.matchPattern).getD ""

/-- Why a selector is refused. -/
inductive Fault where
  | both
  | neither
  deriving DecidableEq, Repr

/-- The words for a fault. -/
def Fault.reason : Fault → String
  | both => "only one of matchName and matchPattern may be set"
  | neither => "one of matchName or matchPattern must be set"

/-- The message for a selector that is refused. -/
def Fault.message (f : Fault) : String := "invalid FQDN selector: " ++ f.reason

/-- What is wrong with a selector, if anything is. -/
def fault? (s : Selector) : Option Fault :=
  match s.isExact, (nonempty? s.matchPattern).isSome with
  | true, true => some .both
  | false, false => some .neither
  | _, _ => none

/-- The pattern that a selector's text spells. -/
def glob (s : Selector) : Glob := .ofText s.text

/-- Whether a fully qualified name is selected: an exact name by being
equal, a pattern by fitting. -/
def selects (s : Selector) (fqdn : String) : Bool :=
  if s.isExact then Name.fullyQualified s.text == fqdn else s.glob.accepts fqdn

end Selector

end Firewall
