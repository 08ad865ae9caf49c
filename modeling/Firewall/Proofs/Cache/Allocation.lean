/-
An owner without a name gets the first of its candidates that is free.

The search for it tries one candidate after the other and has no bound of its own: it is
over when a candidate is free.  What it comes to is said by an inductive relation with a
rule for a candidate that is free and one for a candidate that is taken
(`SearchEnds`).  No two candidates are the same, so not all of them are taken, and at the
latest the one numbered with the count of all names is free; that ends the search, and it
ends with the name that the registry gives out.

The number behind a name has no more digits than the count of names, and so a name is
short as long as the registry is not huge.
-/
import Firewall.Proofs.Cache.Candidates
import Mathlib.Data.List.Nodup

namespace Firewall.Registry

variable {r : Registry} {o : Owner}

/-! ### How long a candidate is -/

theorem length_label_le (fqdn : String) : (label fqdn).length ≤ 48 := by
  unfold label
  rw [String.length_ofList, List.length_take]
  exact Nat.min_le_left _ _

theorem length_baseName_le (o : Owner) : (baseName o).length ≤ 56 := by
  have hlabel := length_label_le o.fqdn
  have hsuffix : o.family.suffix.length = 2 := by cases o.family <;> decide
  have hstart : "fqdn_".length = 5 := by decide
  have hunderscore : "_".length = 1 := by decide
  unfold baseName
  rw [String.length_append, String.length_append, String.length_append]
  omega

/-- A candidate is longer than a base name by an underscore and the digits of its number. -/
theorem length_candidate_le {digits k : Nat} (hpos : 0 < digits) (h : k < 10 ^ digits) :
    (candidate o k).length ≤ 57 + digits := by
  have hbase := length_baseName_le o
  by_cases hk : k = 0
  · rw [hk, candidate_zero]
    omega
  · have hdigits : (toString k).length ≤ digits := by
      rw [← String.length_toList, Text.toList_toString]
      exact (Nat.length_toDigits_le_iff (by decide) hpos).2 h
    have hunderscore : "_".length = 1 := by decide
    rw [candidate_of_ne_zero o hk, String.length_append, String.length_append]
    omega

theorem isPrefix_candidate (o : Owner) (k : Nat) : "fqdn_".toList <+: (candidate o k).toList := by
  have hbase : "fqdn_".toList <+: (baseName o).toList := by
    unfold baseName
    simp only [String.toList_append, List.append_assoc]
    exact List.prefix_append _ _
  by_cases hk : k = 0
  · rw [hk]
    exact hbase
  · rw [candidate_of_ne_zero o hk, String.toList_append, String.toList_append, List.append_assoc]
    exact hbase.trans (List.prefix_append _ _)

/-! ### The search -/

/-- The search for a free name ends with a name, when it has come to the `k`-th candidate: with that
one if it is free, and otherwise with what the search from the next one on ends with. -/
inductive SearchEnds (r : Registry) (o : Owner) : Nat → String → Prop
  | free {k : Nat} (h : r.isTaken (candidate o k) = false) : SearchEnds r o k (candidate o k)
  | taken {k : Nat} {name : String} (h : r.isTaken (candidate o k) = true)
    (hrest : SearchEnds r o (k + 1) name) :
    SearchEnds r o k name

theorem SearchEnds.exists_free {k : Nat} {name : String} (h : r.SearchEnds o k name) :
    ∃ n, k ≤ n ∧ name = candidate o n ∧ r.isTaken (candidate o n) = false ∧
      ∀ j, k ≤ j → j < n → r.isTaken (candidate o j) = true := by
  induction h with
  | @free k hfree =>
    exact ⟨k, Nat.le_refl k, rfl, hfree, fun j hk hj => absurd hj (Nat.not_lt.2 hk)⟩
  | @taken k name htaken _ ih =>
    obtain ⟨n, hn, hname, hfree, hbefore⟩ := ih
    refine ⟨n, Nat.le_of_succ_le hn, hname, hfree, fun j hk hj => ?_⟩
    rcases Nat.eq_or_lt_of_le hk with rfl | hlt
    · exact htaken
    · exact hbefore j hlt hj

/-- The search comes to an end wherever a candidate behind taken ones is free. -/
theorem searchEnds_of_free {n : Nat} (hfree : r.isTaken (candidate o n) = false)
    (hbefore : ∀ j < n, r.isTaken (candidate o j) = true) {k : Nat} (hk : k ≤ n) :
    r.SearchEnds o k (candidate o n) := by
  induction hk using Nat.decreasingInduction with
  | self => exact .free hfree
  | of_succ k hk ih => exact .taken (hbefore k hk) ih

/-- **The search ends, and with one name only: the one that is given out.** -/
theorem searchEnds_iff {name : String} : r.SearchEnds o 0 name ↔ name = r.freshName o := by
  obtain ⟨k, -, hk, hfree, hbefore⟩ := exists_first_free r o
  constructor
  · intro h
    obtain ⟨n, -, hname, hfree', hbefore'⟩ := h.exists_free
    have hn : n = k :=
      eq_of_first_free hfree' (fun j hj => hbefore' j (Nat.zero_le j) hj) hfree hbefore
    rw [hname, hk, hn]
  · rintro rfl
    rw [hk]
    exact searchEnds_of_free hfree hbefore (Nat.zero_le k)

/-! ### Registering an owner -/

/-- What an owner is given that has no name. -/
structure Allocated (r : Registry) (o : Owner) (name : String) : Prop where
  /-- The search for a free name ends, and with this name only. -/
  ends : ∀ other, r.SearchEnds o 0 other ↔ other = name
  /-- It is the base name if that is nobody's. -/
  plain : r.owner? (baseName o) = none → name = baseName o
  /-- Otherwise it is the base name with the least number that gives a free
  name, at most the count of names. -/
  numbered : r.owner? (baseName o) ≠ none →
    ∃ k, 1 ≤ k ∧ k ≤ r.names.size ∧ name = baseName o ++ "_" ++ toString k ∧
    r.owner? name = none ∧ ∀ j, 1 ≤ j → j < k → r.owner? (baseName o ++ "_" ++ toString j) ≠ none
  start : "fqdn_".toList <+: name.toList
  written : ∀ c ∈ name.toList, IsNameChar c
  short : r.names.size < 1000000 → name.length ≤ 63

/-- **A fresh name is allocated as it should be.** -/
theorem allocated_freshName (r : Registry) (o : Owner) : r.Allocated o (r.freshName o) := by
  have hfree_iff : ∀ name, r.isTaken name = false ↔ r.owner? name = none := fun name => by
    simp [isTaken]
  have htaken_iff : ∀ name, r.isTaken name = true ↔ r.owner? name ≠ none := fun name => by
    rw [ne_eq, ← hfree_iff, Bool.not_eq_false]
  obtain ⟨k, hsize, hk, hfree, hbefore⟩ := exists_first_free r o
  rw [hk]
  refine ⟨fun other => hk ▸ searchEnds_iff, fun hbase => ?_, fun hbase => ?_,
    isPrefix_candidate o k,
    fun c hc => isNameChar_of_mem_candidate hc, fun hmany => ?_⟩
  · have hzero : k = 0 :=
      eq_of_first_free hfree hbefore ((hfree_iff _).2 hbase) fun j hj =>
        absurd hj (Nat.not_lt_zero j)
    rw [hzero, candidate_zero]
  · have hne : k ≠ 0 := by
      rintro rfl
      exact hbase ((hfree_iff _).1 hfree)
    refine ⟨k, Nat.pos_of_ne_zero hne, hsize, candidate_of_ne_zero o hne, (hfree_iff _).1 hfree,
      fun j hj hjk => ?_⟩
    rw [← candidate_of_ne_zero o (Nat.ne_of_gt hj)]
    exact (htaken_iff _).1 (hbefore j hjk)
  · exact length_candidate_le (by decide : 0 < 6) (Nat.lt_of_le_of_lt hsize hmany)

theorem register_of_name? {name : String} (h : r.name? o = some name) : r.register o = r := by
  have hknown : r.names.contains o = true := by
    show (r.name? o).isSome = true
    rw [h]
    rfl
  unfold register
  rw [if_pos hknown]

theorem nameFor_of_name?_eq_none (h : r.name? o = none) : r.nameFor o = r.freshName o := by
  rw [nameFor, h, Option.getD_none]

/-- A name that is given out has its owner from then on, and no other name has another. -/
theorem owner?_register (hr : r.Injective) (h : r.name? o = none) (name : String) :
    (r.register o).owner? name = if r.nameFor o = name then some o else r.owner? name := by
  refine Option.ext fun other => ?_
  rw [owner?_eq_some_iff (hr.register o), name?_register]
  by_cases ho : o = other
  · rw [if_pos ho, ← ho]
    by_cases hname : r.nameFor o = name
    · simp [hname]
    · simp [hname, owner?_eq_some_iff hr, h]
  · rw [if_neg ho]
    by_cases hname : r.nameFor o = name
    · -- the name was nobody's before
      have hfree : r.name? other ≠ some name := by
        intro hother
        have htaken := isTaken_iff.2 ⟨other, hother⟩
        rw [← hname, nameFor_of_name?_eq_none h, not_isTaken_freshName] at htaken
        exact Bool.false_ne_true htaken
      simp [hname, ho, hfree]
    · rw [if_neg hname, owner?_eq_some_iff hr]

/--
**Registering takes the least free name.**  Let the names of the owners and the owners of the names
be inverse to each other.  An owner that has a name is given it, and nothing is changed.  For any
other the search for a name ends: with the base name if it is nobody's, and otherwise with the least
number behind it that gives a free name, which is at most the count of names.  That name belongs to
the owner from then on, and no other name or owner is touched.
-/
theorem register_takes_least_free {r : Registry}
    (h : ∀ name o, r.owner? name = some o ↔ r.name? o = some name) (o : Owner) :
    (∀ name, r.name? o = some name → r.nameFor o = name ∧ r.register o = r) ∧
    (r.name? o = none → r.Allocated o (r.nameFor o) ∧
      (∀ other, (r.register o).name? other = if o = other then some (r.nameFor o)
        else r.name? other) ∧
      ∀ name, (r.register o).owner? name = if r.nameFor o = name then some o
        else r.owner? name) := by
  have hinjective : r.Injective := by
    intro o₁ o₂ name h₁ h₂
    have howner := (h name o₁).2 h₁
    rw [(h name o₂).2 h₂] at howner
    exact (Option.some.inj howner).symm
  constructor
  · intro name hname
    exact ⟨nameFor_of_name? hname, register_of_name? hname⟩
  · intro hnone
    refine ⟨?_, name?_register r o, owner?_register hinjective hnone⟩
    rw [nameFor_of_name?_eq_none hnone]
    exact allocated_freshName r o

theorem injective_of_nodup (h : r.names.values.Nodup) : r.Injective := by
  intro o o' name ho ho'
  have hentry := Dictionary.get?_eq_some_iff.1 ho
  have hentry' := Dictionary.get?_eq_some_iff.1 ho'
  exact congrArg Prod.fst (List.inj_on_of_nodup_map h hentry hentry' rfl)

/-- A registry in which other owners took over the name that an owner would get first, and the ones
with the numbers 1 and 3 behind it. -/
def sampleTaken : Registry where
  names := .ofList [(⟨"a.b.", .v4⟩, "fqdn_a_b_v4"), (⟨"x.", .v4⟩, "fqdn_a_b_v4_1"),
    (⟨"y.", .v6⟩, "fqdn_a_b_v4_3")]

/-- The number 2 is the least that is left. -/
theorem register_takes_least_free_sampleTaken :
    (∀ name o, sampleTaken.owner? name = some o ↔ sampleTaken.name? o = some name) ∧
      sampleTaken.name? ⟨"A-B.", .v4⟩ = none ∧
      sampleTaken.nameFor ⟨"A-B.", .v4⟩ = "fqdn_a_b_v4_2" ∧
      (sampleTaken.register ⟨"A-B.", .v4⟩).owner? "fqdn_a_b_v4_2" = some ⟨"A-B.", .v4⟩ ∧
      (sampleTaken.register ⟨"A-B.", .v4⟩).owner? "fqdn_a_b_v4_3" = some ⟨"y.", .v6⟩ ∧
      sampleTaken.register ⟨"x.", .v4⟩ = sampleTaken := by
  have hinverse : ∀ name o, sampleTaken.owner? name = some o ↔ sampleTaken.name? o = some name :=
    fun name o => owner?_eq_some_iff (injective_of_nodup (by decide +kernel))
  have hnone : sampleTaken.name? ⟨"A-B.", .v4⟩ = none := by decide +kernel
  obtain ⟨hallocated, -, howner⟩ := (register_takes_least_free hinverse ⟨"A-B.", .v4⟩).2 hnone
  have hsearch : sampleTaken.SearchEnds ⟨"A-B.", .v4⟩ 0 (candidate ⟨"A-B.", .v4⟩ 2) :=
    .taken (by decide +kernel) (.taken (by decide +kernel) (.free (by decide +kernel)))
  have hname : sampleTaken.nameFor ⟨"A-B.", .v4⟩ = "fqdn_a_b_v4_2" :=
    ((hallocated.ends _).1 hsearch).symm.trans (by decide +kernel)
  refine ⟨hinverse, hnone, hname, ?_, ?_, ?_⟩
  · rw [howner, if_pos hname]
  · rw [howner, hname]
    decide +kernel
  · exact ((register_takes_least_free hinverse ⟨"x.", .v4⟩).1 "fqdn_a_b_v4_1" (by decide +kernel)).2

end Firewall.Registry
