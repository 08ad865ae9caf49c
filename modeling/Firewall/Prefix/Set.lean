/-
Sets of addresses given by prefixes.

A set is kept in its reduced form, one trie for each family, so overlapping and
adjacent prefixes are merged as they come in and equal sets are equal values.
Whether a prefix lies in a set is then one walk down a trie.
-/
import Firewall.Prefix.Cover
import Firewall.Prefix.Text

namespace Firewall

namespace Prefix

/-- The lowest `length` bits of a number, the most significant first. -/
def bitPath : (length bits : Nat) → List Bool
  | 0, _ => []
  | length + 1, bits => (bits / Nat.pow 2 length % 2 == 1) :: bitPath length bits

/-- The leading bits of a prefix, the most significant first. -/
def path (p : Prefix) : List Bool := bitPath p.length p.bits

end Prefix

/-- A set of addresses of either family, reduced. -/
structure PrefixSet where
  v4 : Cover 32
  v6 : Cover 128
  v4_reduced : v4.Reduced
  v6_reduced : v6.Reduced

namespace PrefixSet

theorem ext {s t : PrefixSet} (h4 : s.v4 = t.v4) (h6 : s.v6 = t.v6) : s = t := by
  cases s; cases t; cases h4; cases h6; rfl

instance : DecidableEq PrefixSet := fun s t =>
  if h : s.v4 = t.v4 ∧ s.v6 = t.v6 then isTrue (ext h.1 h.2)
  else isFalse fun e => h (e ▸ ⟨rfl, rfl⟩)

/-- The set without addresses. -/
def empty : PrefixSet := ⟨.none, .none, trivial, trivial⟩

instance : EmptyCollection PrefixSet := ⟨empty⟩
instance : Inhabited PrefixSet := ⟨empty⟩

/-- The part of one family. -/
def cover (s : PrefixSet) : (family : Family) → Cover family.width
  | .v4 => s.v4
  | .v6 => s.v6

/-- The addresses of a prefix. -/
def single (p : Prefix) : PrefixSet :=
  match p.family with
  | .v4 => { empty with v4 := .ofPath p.path, v4_reduced := Cover.reduced_ofPath _ }
  | .v6 => { empty with v6 := .ofPath p.path, v6_reduced := Cover.reduced_ofPath _ }

/-- The addresses of either set. -/
def union (s t : PrefixSet) : PrefixSet where
  v4 := s.v4.union t.v4
  v6 := s.v6.union t.v6
  v4_reduced := Cover.reduced_union s.v4_reduced t.v4_reduced
  v6_reduced := Cover.reduced_union s.v6_reduced t.v6_reduced

/-- The addresses of any of the prefixes. -/
def ofList (ps : List Prefix) : PrefixSet := ps.foldl (fun s p => s.union (single p)) empty

/-- The addresses of any of the entries, or the first entry that is not a prefix. -/
def parse (entries : List String) : Except Prefix.Invalid PrefixSet :=
  (Prefix.parseAll entries).map ofList

/-- Whether every address of a prefix is in the set. -/
def contains (s : PrefixSet) (p : Prefix) : Bool := (s.cover p.family).covers p.path

/-- The fewest prefixes of one family that make up its part of the set, in ascending order. -/
def ofFamily (s : PrefixSet) (family : Family) : List Prefix := (s.cover family).prefixes family

/-- The fewest prefixes that make up the set: IPv4 first, each family in ascending order. -/
def prefixes (s : PrefixSet) : List Prefix := s.ofFamily .v4 ++ s.ofFamily .v6

/-- Whether there is no address in the set. -/
def isEmpty (s : PrefixSet) : Bool := s.prefixes.isEmpty

end PrefixSet

end Firewall
