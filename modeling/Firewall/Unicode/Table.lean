/-
Properties of characters.

The Unicode character database gives every character a value of each of its
properties, and neighbouring characters mostly share it.  A property is kept as
the places at which its value changes, in ascending order.  `rank` counts the
places up to a character by bisection, and `lt_rank_iff` says that it counts them
right: which value a character has is then an entry of an array.

A table is written as words with spaces and line breaks between them; numbers in
it, and so the places of characters, are hexadecimal.
-/
import Firewall.Text.Numeral

namespace Firewall.Unicode

/-! ### Counting places -/

/-- How many places are at most `n`, if all before `low` are and none from `high` on is. -/
def rankWithin (places : Array Nat) (n low high : Nat) : Nat :=
  if low < high then
    let middle := (low + high) / 2
    if places.getD middle 0 ≤ n then rankWithin places n (middle + 1) high
    else rankWithin places n low middle
  else low
termination_by high - low

/-- How many of some places in ascending order are at most `n`. -/
def rank (places : Array Nat) (n : Nat) : Nat := rankWithin places n 0 places.size

theorem lt_rankWithin_iff {places : Array Nat} (sorted : places.toList.Pairwise (· < ·)) {n : Nat} :
    ∀ {low high : Nat}, low ≤ high → high ≤ places.size →
      (∀ i (h : i < places.size), i < low → places[i] ≤ n) →
      (∀ i (h : i < places.size), high ≤ i → n < places[i]) →
      ∀ {i : Nat} (h : i < places.size), i < rankWithin places n low high ↔ places[i] ≤ n := by
  have ascending : ∀ {i j : Nat} (hj : j < places.size) (hij : i ≤ j), places[i] ≤ places[j] := by
    intro i j hj hij
    obtain hlt | rfl := Nat.lt_or_eq_of_le hij
    · exact Nat.le_of_lt
        (List.pairwise_iff_getElem.1 sorted i j (by simpa using by omega) (by simpa using hj) hlt)
    · exact Nat.le_refl _
  intro low high
  fun_induction rankWithin places n low high with
  | case1 low high hlt middle hle ih =>
    intro _ hsize below above i h
    have hm : middle < places.size := by simp only [middle]; omega
    rw [Array.getD_eq_getD_getElem?, Array.getElem?_eq_getElem hm, Option.getD_some] at hle
    refine ih (by simp only [middle]; omega) hsize (fun j hj hjm => ?_) above h
    exact Nat.le_trans (ascending hm (by omega)) hle
  | case2 low high hlt middle hgt ih =>
    intro _ hsize below above i h
    have hm : middle < places.size := by simp only [middle]; omega
    rw [Array.getD_eq_getD_getElem?, Array.getElem?_eq_getElem hm, Option.getD_some] at hgt
    refine ih (by simp only [middle]; omega) (by omega) below (fun j hj hjm => ?_) h
    exact Nat.lt_of_lt_of_le (by omega) (ascending hj hjm)
  | case3 low high hge =>
    intro hle _ below above i h
    constructor
    · exact below i h
    · intro hi
      have := fun hhigh => above i h hhigh
      omega

/-- **Exactly the places counted are at most the number.** -/
theorem lt_rank_iff {places : Array Nat} (sorted : places.toList.Pairwise (· < ·)) {n i : Nat}
    (h : i < places.size) : i < rank places n ↔ places[i] ≤ n :=
  lt_rankWithin_iff sorted (Nat.zero_le _) (Nat.le_refl _)
    (fun _ _ h => absurd h (Nat.not_lt_zero _))
    (fun _ h hi => absurd h (Nat.not_lt.2 hi)) h

/-! ### Reading tables -/

/-- The words of a table. -/
def wordsOf (text : String) : List String :=
  ((text.splitOn "\n").flatMap fun line => line.splitOn " ").filter fun word => !word.isEmpty

/-- The number that a word of a table stands for. -/
def numberOf (word : String) : Nat := Text.ofDigits 16 word.toList

/-- The words of a table in pairs. -/
def pairsOf : List String → List (String × String)
  | a :: b :: rest => (a, b) :: pairsOf rest
  | _ => []

/-! ### Sets and maps of characters -/

/-- A set of characters, as the places at which characters of the set and others begin in turn. -/
structure CharSet where
  edges : Array Nat

/-- Reads a set from a table of its edges. -/
def CharSet.ofTable (text : String) : CharSet := ⟨((wordsOf text).map numberOf).toArray⟩

/-- Whether a character is in a set. -/
def CharSet.contains (s : CharSet) (c : Char) : Bool := rank s.edges c.toNat % 2 == 1

/-- A value for every character, as the places at which the value
changes and the values from there on. -/
structure CharMap (α : Type) where
  /-- The value before the first place. -/
  first : α
  edges : Array Nat
  values : Array α

/-- Reads a map from a table in which a value follows each place. -/
def CharMap.ofTable {α : Type} (first : α) (read : String → α) (text : String) : CharMap α :=
  let entries := pairsOf (wordsOf text)
  ⟨first, (entries.map fun e => numberOf e.1).toArray, (entries.map fun e => read e.2).toArray⟩

/-- The value of a character. -/
def CharMap.get {α : Type} (m : CharMap α) (c : Char) : α :=
  match rank m.edges c.toNat with
  | 0 => m.first
  | k + 1 => m.values.getD k m.first

end Firewall.Unicode
