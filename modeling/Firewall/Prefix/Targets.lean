/-
What the peers of a rule allow and exclude.
-/
import Firewall.Order.Ascending
import Firewall.Prefix.Set

namespace Firewall

/-- Prefixes that are allowed and prefixes that are excluded from them. -/
structure Targets where
  allow : Ascending Prefix := ∅
  except : Ascending Prefix := ∅
  deriving DecidableEq

namespace Targets

instance : Inhabited Targets := ⟨{}⟩

/-- Whether nothing is allowed and nothing excluded. -/
def isEmpty (t : Targets) : Bool := t.allow.isEmpty && t.except.isEmpty

/-- Whether nothing is excluded and the one allowed prefix is all there is. -/
def allowsEverything (t : Targets) : Bool :=
  t.except.isEmpty && t.allow.size == 1 && t.allow.toList.all (·.length == 0)

/-- One more allowed prefix. -/
def addAllow (t : Targets) (p : Prefix) : Targets := { t with allow := t.allow.insert p }

/-- One more excluded prefix. -/
def addExcept (t : Targets) (p : Prefix) : Targets := { t with except := t.except.insert p }

/-- The targets given by two lists of entries, the allowed ones read first. -/
def parse (allow except : List String) : Except Prefix.Invalid Targets := do
  let allow ← Prefix.parseAll allow
  let except ← Prefix.parseAll except
  return ⟨.ofList allow, .ofList except⟩

end Targets

end Firewall
