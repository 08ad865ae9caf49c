/-
Internet addresses.

An address is a number below two to the power of the width of its family.  Addresses are
ordered by family first and by number second, which is the order in which sets
list their members.
-/
import Firewall.Address.Family

namespace Firewall

/-- An internet address: a number of as many bits as its family has. -/
structure Address where
  family : Family
  value : Nat
  value_lt : value < Nat.pow 2 family.width
  deriving DecidableEq

namespace Address

instance : Repr Address := ⟨fun a _ => repr a.family ++ "#" ++ repr a.value⟩

/-- The wildcard of a family: all bits zero. -/
def unspecified (family : Family) : Address := ⟨family, 0, Nat.two_pow_pos family.width⟩

instance : Inhabited Address := ⟨unspecified .v4⟩

instance : Ord Address := ⟨compareLex (compareOn family) (compareOn value)⟩

instance : Std.TransOrd Address :=
  inferInstanceAs (Std.TransCmp (compareLex (compareOn family) (compareOn value)))

theorem ext {a b : Address} (hf : a.family = b.family) (hv : a.value = b.value) : a = b := by
  cases a; cases b; cases hf; cases hv; rfl

instance : Std.LawfulEqOrd Address where
  compare_self {a} := by
    show compareLex (compareOn family) (compareOn value) a a = .eq
    exact Std.ReflCmp.compare_self
  eq_of_compare {a b} h := by
    obtain ⟨hf, hv⟩ :=
      compareLex_eq_eq.1 (show compareLex (compareOn family) (compareOn value) a b = .eq from h)
    exact ext (Std.LawfulEqOrd.eq_of_compare hf) (Std.LawfulEqOrd.eq_of_compare hv)

/-- The address of a family with a number, if the number is not too large. -/
def ofNat? (family : Family) (n : Nat) : Option Address :=
  if h : n < Nat.pow 2 family.width then some ⟨family, n, h⟩ else none

/-- The four octets of an IPv4 address, or of the last 32 bits of an IPv6 one. -/
def octets (a : Address) : List Nat :=
  [a.value / 0x1000000 % 256, a.value / 0x10000 % 256, a.value / 0x100 % 256, a.value % 256]

/-- The eight 16-bit groups of an IPv6 address. -/
def groups (a : Address) : List Nat :=
  [7, 6, 5, 4, 3, 2, 1, 0].map fun i => a.value / Nat.pow 0x10000 i % 0x10000

/-- Whether the address belongs to the machine itself: 127.0.0.0/8 and ::1. -/
def isLoopback (a : Address) : Bool :=
  match a.family with
  | .v4 => a.value / 0x1000000 == 127
  | .v6 => a.value == 1

/-- Whether the address is the wildcard of its family: all bits zero. -/
def isUnspecified (a : Address) : Bool := a.value == 0

end Address

end Firewall
