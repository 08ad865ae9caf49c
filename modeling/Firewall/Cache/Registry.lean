/-
Which name belongs to whom.

The registry gives each owner one set name.  A name is made from the owner: the
letters and digits of the host name, everything else an underscore, cut to a
length that fits.  Different owners can come to the same name that way, and the
later one gets a number behind it, the least that is free.

There is one table, from owner to name; the owner of a name is found by looking
through it.
-/
import Firewall.Cache.NamedSet
import Firewall.Name.Basic
import Firewall.Order.Dictionary

namespace Firewall

/-- The set names in use, each under its owner. -/
structure Registry where
  names : Dictionary Owner String
  deriving DecidableEq

namespace Registry

instance : Inhabited Registry := ⟨⟨∅⟩⟩

/-- The registry without names. -/
def empty : Registry := ⟨∅⟩

instance : EmptyCollection Registry := ⟨empty⟩

/-- How many characters of a host name go into a set name. -/
def labelLength : Nat := 48

/-- A character of a host name as it appears in a set name. -/
def labelChar (c : Char) : Char := if Text.isAlphanumeric c then Text.lower c else '_'

/-- The part of a set name that comes from the host name. -/
def label (fqdn : String) : String :=
  String.ofList (((Name.withoutFinalDots fqdn.toList).map labelChar).take labelLength)

/-- The name that an owner has unless another got there first. -/
def baseName (o : Owner) : String := "fqdn_" ++ label o.fqdn ++ "_" ++ o.family.suffix

/-- The names that an owner may have, in the order in which they are tried. -/
def candidate (o : Owner) (k : Nat) : String :=
  if k = 0 then baseName o else baseName o ++ "_" ++ toString k

/-- The name of an owner. -/
def name? (r : Registry) (o : Owner) : Option String := r.names.get? o

/-- The owner of a name. -/
def owner? (r : Registry) (name : String) : Option Owner :=
  (r.names.entries.find? fun e => e.2 == name).map (·.1)

/-- Whether a name belongs to anyone. -/
def isTaken (r : Registry) (name : String) : Bool := (r.owner? name).isSome

/-- The first candidate that is free.  As many candidates as there are names, and one more, cannot
all be taken. -/
def freshName (r : Registry) (o : Owner) : String :=
  match (List.range (r.names.size + 1)).find? fun k => !r.isTaken (candidate o k) with
  | some k => candidate o k
  | none => baseName o

/-- The name of an owner, a fresh one if it has none. -/
def nameFor (r : Registry) (o : Owner) : String := (r.name? o).getD (r.freshName o)

/-- The registry in which an owner has a name. -/
def register (r : Registry) (o : Owner) : Registry :=
  if r.names.contains o then r else ⟨r.names.insert o (r.freshName o)⟩

/-- The registry in which an owner has a given name; refused when the name is
another's, or the owner has another name. -/
def adopt? (r : Registry) (name : String) (o : Owner) : Option Registry :=
  match r.owner? name with
  | some other => if other = o then some r else none
  | none => if r.names.contains o then none else some ⟨r.names.insert o name⟩

/-- Keeps the names of the owners that satisfy a test. -/
def retain (keep : Owner → Bool) (r : Registry) : Registry := ⟨r.names.filter fun o _ => keep o⟩

end Registry

end Firewall
