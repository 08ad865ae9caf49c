/-
The two address families and the words the ruleset language has for them.
-/
namespace Firewall

/-- An address family: IP version 4 or 6. -/
inductive Family where
  | v4
  | v6
  deriving DecidableEq, Ord, Repr, Inhabited

namespace Family

instance : Std.TransOrd Family where
  eq_swap {a b} := by cases a <;> cases b <;> rfl
  isLE_trans {a b c} h h' := by cases a <;> cases b <;> cases c <;> first | rfl | contradiction

instance : Std.LawfulEqOrd Family where
  compare_self {a} := by cases a <;> rfl
  eq_of_compare {a b} h := by cases a <;> cases b <;> first | rfl | contradiction

/-- Both families, in their order. -/
def all : List Family := [v4, v6]

/-- How many bits an address has. -/
def width : Family → Nat
  | v4 => 32
  | v6 => 128

/-- The word that starts a match on an address of the family. -/
def keyword : Family → String
  | v4 => "ip"
  | v6 => "ip6"

/-- The element type of a set of addresses of the family. -/
def setType : Family → String
  | v4 => "ipv4_addr"
  | v6 => "ipv6_addr"

/-- How the name of a set ends when its members are of the family. -/
def suffix : Family → String
  | v4 => "v4"
  | v6 => "v6"

/-- Reads the keyword back. -/
def ofKeyword? (s : String) : Option Family :=
  if s = "ip" then some v4 else if s = "ip6" then some v6 else none

theorem mem_all (f : Family) : f ∈ all := by cases f <;> simp [all]

end Family

/-- One value for each family. -/
structure PerFamily (α : Type) where
  v4 : α
  v6 : α
  deriving DecidableEq, Repr, Inhabited

namespace PerFamily

variable {α β : Type}

/-- The value for one family. -/
def get (p : PerFamily α) : Family → α
  | .v4 => p.v4
  | .v6 => p.v6

/-- The pair that has the given value for each family. -/
def ofFun (f : Family → α) : PerFamily α := ⟨f .v4, f .v6⟩

/-- Replaces the value for one family. -/
def modify (p : PerFamily α) (family : Family) (f : α → α) : PerFamily α :=
  match family with
  | .v4 => { p with v4 := f p.v4 }
  | .v6 => { p with v6 := f p.v6 }

theorem get_modify (p : PerFamily α) (family other : Family) (f : α → α) :
    (p.modify family f).get other = if other = family then f (p.get other) else p.get other := by
  cases family <;> cases other <;> rfl

end PerFamily

end Firewall
