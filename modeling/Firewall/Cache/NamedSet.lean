/-
Named sets of addresses.

The ruleset knows the addresses of a host name by the name of a set.  A set
belongs to one pair of a fully qualified name and an address family, its owner.
-/
import Firewall.Address.Basic
import Firewall.Time.Instant

namespace Firewall

/-- The pair that a set name belongs to. -/
structure Owner where
  fqdn : String
  family : Family
  deriving DecidableEq, Repr, Inhabited

namespace Owner

theorem ext {a b : Owner} (hn : a.fqdn = b.fqdn) (hf : a.family = b.family) : a = b := by
  cases a; cases b; cases hn; cases hf; rfl

/-- Owners are ordered by name first and by family second. -/
instance : Ord Owner := ⟨compareLex (compareOn fqdn) (compareOn family)⟩

instance : Std.TransOrd Owner :=
  inferInstanceAs (Std.TransCmp (compareLex (compareOn fqdn) (compareOn family)))

instance : Std.LawfulEqOrd Owner where
  compare_self {a} := by
    show compareLex (compareOn fqdn) (compareOn family) a a = .eq
    exact Std.ReflCmp.compare_self
  eq_of_compare {a b} h := by
    obtain ⟨hn, hf⟩ := compareLex_eq_eq.1
      (show compareLex (compareOn fqdn) (compareOn family) a b = .eq from h)
    exact ext (Std.LawfulEqOrd.eq_of_compare hn) (Std.LawfulEqOrd.eq_of_compare hf)

end Owner

/-- A set of addresses under a name, as it is rendered, reported and saved. -/
structure NamedSet where
  fqdn : String
  setName : String
  addresses : List Address
  expiration : Instant
  family : Family
  deriving DecidableEq, Repr

namespace NamedSet

/-- The pair that the set belongs to. -/
def owner (s : NamedSet) : Owner := ⟨s.fqdn, s.family⟩

/-- Whether the set still counts at a time. -/
def isLive (s : NamedSet) (now : Instant) : Bool := now < s.expiration

end NamedSet

end Firewall
