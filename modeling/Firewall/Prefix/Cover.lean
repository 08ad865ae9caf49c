/-
Sets of addresses as binary tries.

A `Cover n` says which strings of `n` bits it holds: none, all, or those that
one trie holds below a zero and another below a one.  Two equal halves of `none`
or of `all` never stand side by side in a reduced trie, so a reduced trie is the
only one for the strings it holds, and the paths to its `all` leaves are the
shortest list of prefixes that covers them.
-/
import Firewall.Prefix.Basic

namespace Firewall

/-- A set of strings of `n` bits. -/
inductive Cover : Nat → Type where
  | none {n : Nat} : Cover n
  | all {n : Nat} : Cover n
  /-- The strings below a zero bit, and those below a one bit. -/
  | split {n : Nat} (low high : Cover n) : Cover (n + 1)
  deriving DecidableEq, Repr

namespace Cover

/-- The two halves put together; halves that are both empty or both full make one whole. -/
def node {n : Nat} (low high : Cover n) : Cover (n + 1) :=
  match low, high with
  | none, none => none
  | all, all => all
  | low, high => split low high

/-- No split has two empty or two full halves. -/
def Reduced : {n : Nat} → Cover n → Prop
  | _, none => True
  | _, all => True
  | _, split low high =>
    low.Reduced ∧ high.Reduced ∧ ¬ (low = none ∧ high = none) ∧ ¬ (low = all ∧ high = all)

theorem reduced_node {n : Nat} {low high : Cover n} (hl : low.Reduced) (hh : high.Reduced) :
    (node low high).Reduced := by
  unfold node
  split
  · trivial
  · trivial
  · rename_i h1 h2
    exact ⟨hl, hh, fun ⟨a, b⟩ => h1 a b, fun ⟨a, b⟩ => h2 a b⟩

/-- All strings that begin with the given bits. -/
def ofPath : {n : Nat} → List Bool → Cover n
  | _, [] => all
  | 0, _ :: _ => all
  | _ + 1, b :: path => if b then node none (ofPath path) else node (ofPath path) none

theorem reduced_ofPath {n : Nat} (path : List Bool) : (ofPath path : Cover n).Reduced := by
  induction path generalizing n with
  | nil => cases n <;> trivial
  | cons b path ih =>
    cases n with
    | zero => trivial
    | succ n =>
      unfold ofPath
      split
      · exact reduced_node trivial ih
      · exact reduced_node ih trivial

/-- The strings that either set holds. -/
def union : {n : Nat} → Cover n → Cover n → Cover n
  | _, none, c => c
  | _, all, _ => all
  | _, split low high, none => split low high
  | _, split _ _, all => all
  | _, split low high, split low' high' => node (low.union low') (high.union high')

theorem reduced_union {n : Nat} {c d : Cover n} (hc : c.Reduced) (hd : d.Reduced) :
    (c.union d).Reduced := by
  induction c with
  | none => simpa [union] using hd
  | all => simp [union, Reduced]
  | split low high ihl ihh =>
    cases d with
    | none => simpa [union] using hc
    | all => simp [union, Reduced]
    | split low' high' =>
      rw [union]
      exact reduced_node (ihl hc.1 hd.1) (ihh hc.2.1 hd.2.1)

/-- Whether every string that begins with the given bits is held. -/
def covers : {n : Nat} → Cover n → List Bool → Bool
  | _, none, _ => false
  | _, all, _ => true
  | _, split _ _, [] => false
  | _, split low high, b :: path => if b then high.covers path else low.covers path

theorem two_mul_lt {bits length : Nat} (h : bits < Nat.pow 2 length) :
    2 * bits < Nat.pow 2 (length + 1) := by
  have double : Nat.pow 2 (length + 1) = Nat.pow 2 length * 2 := rfl
  omega

theorem two_mul_add_one_lt {bits length : Nat} (h : bits < Nat.pow 2 length) :
    2 * bits + 1 < Nat.pow 2 (length + 1) := by
  have double : Nat.pow 2 (length + 1) = Nat.pow 2 length * 2 := rfl
  omega

/-- The prefixes that make up the set, in ascending order, when the trie
hangs below the given bits. -/
def prefixesBelow (family : Family) : {n : Nat} → Cover n → (length bits : Nat) →
    length + n = family.width → bits < Nat.pow 2 length → List Prefix
  | _, none, _, _, _, _ => []
  | _, all, length, bits, h, hb => [⟨family, length, bits, by omega, hb⟩]
  | _, split low high, length, bits, h, hb =>
    low.prefixesBelow family (length + 1) (2 * bits) (by omega) (two_mul_lt hb)
      ++ high.prefixesBelow family (length + 1) (2 * bits + 1) (by omega) (two_mul_add_one_lt hb)

/-- The prefixes that make up a set of addresses of a family, in ascending order. -/
def prefixes (family : Family) (c : Cover family.width) : List Prefix :=
  c.prefixesBelow family 0 0 (Nat.zero_add _) Nat.zero_lt_one

end Cover

end Firewall
