/-
Owners that do not compete for a name.

A candidate ends in the word for its family or in a number, with an underscore in front,
and neither has an underscore in it.  So what stands before the last underscore tells
which base name a candidate was made from, and owners with different base names have no
candidate in common (`candidate_ne`).

Registering an owner looks at its own candidates alone: it takes the first that is free
(`exists_first_free`). Whoever else is registered before makes no difference if it has another base
name, and so two such owners can be registered in either order (`register_comm`).
-/
import Firewall.Proofs.Cache.Registry
import Firewall.Proofs.Text.Pieces

namespace Firewall.Registry

variable {r r' : Registry} {o o' : Owner} {j k : Nat}

theorem ext_name? (h : ∀ o, r.name? o = r'.name? o) : r = r' := by
  obtain ⟨names⟩ := r
  obtain ⟨names'⟩ := r'
  exact congrArg Registry.mk (Dictionary.ext_get? h)

/-! ### Base names and candidates -/

/-- The last underscore of a base name is the one in front of the word for the family. -/
private theorem cut_baseName (o : Owner) : Text.cut '_' (baseName o).toList.reverse
    = some (o.family.suffix.toList.reverse, ("fqdn_" ++ label o.fqdn).toList.reverse) := by
  have hword : '_' ∉ o.family.suffix.toList.reverse := by cases o.family <;> decide
  rw [← Text.cut_append_cons hword]
  simp [baseName]

private theorem cut_candidate (o : Owner) (hk : k ≠ 0) : Text.cut '_' (candidate o k).toList.reverse
    = some ((Text.decimal k).reverse, (baseName o).toList.reverse) := by
  have hnumber : '_' ∉ (Text.decimal k).reverse :=
    fun h => Text.of_mem_decimal (P := (· ≠ '_')) (by decide) (List.mem_reverse.1 h) rfl
  rw [← Text.cut_append_cons hnumber, candidate_of_ne_zero o hk, String.toList_append,
    String.toList_append, Text.toList_toString]
  simp

theorem family_eq_of_baseName_eq (h : baseName o = baseName o') : o.family = o'.family := by
  have hcut := cut_baseName o
  rw [h, cut_baseName o', Option.some.injEq, Prod.mk.injEq] at hcut
  have hwords : ∀ f g : Family, f.suffix.toList.reverse = g.suffix.toList.reverse → f = g := by
    intro f g
    cases f <;> cases g <;> decide
  exact (hwords _ _ hcut.1).symm

private theorem baseName_ne_candidate (hk : k ≠ 0) : baseName o ≠ candidate o' k := by
  intro h
  have hcut := cut_baseName o
  rw [h, cut_candidate o' hk, Option.some.injEq, Prod.mk.injEq] at hcut
  have hv : 'v' ∈ (Text.decimal k).reverse := by
    rw [hcut.1]
    cases o.family <;> decide
  exact Text.of_mem_decimal (P := (· ≠ 'v')) (by decide) (List.mem_reverse.1 hv) rfl

/-- **Owners with different base names have no candidate in common.** -/
theorem candidate_ne (h : baseName o ≠ baseName o') (j k : Nat) :
    candidate o j ≠ candidate o' k := by
  by_cases hj : j = 0
  · by_cases hk : k = 0
    · rwa [hj, hk]
    · rw [hj]
      exact baseName_ne_candidate hk
  · by_cases hk : k = 0
    · rw [hk]
      exact (baseName_ne_candidate hj).symm
    · intro heq
      have hcut := cut_candidate o hj
      rw [heq, cut_candidate o' hk, Option.some.injEq, Prod.mk.injEq] at hcut
      exact h (String.toList_inj.1 (List.reverse_inj.1 hcut.2)).symm

/-! ### The first that is free -/

/-- **A fresh name is the first candidate that is free,** and that is numbered
with at most the count of names. -/
theorem exists_first_free (r : Registry) (o : Owner) :
    ∃ k ≤ r.names.size, r.freshName o = candidate o k ∧
    r.isTaken (candidate o k) = false ∧ ∀ j < k, r.isTaken (candidate o j) = true := by
  have hfree := not_isTaken_freshName r o
  unfold freshName at hfree ⊢
  split
  · rename_i k hk
    rw [hk] at hfree
    obtain ⟨-, hmem, hfirst⟩ := List.find?_range_eq_some.1 hk
    exact ⟨k, Nat.le_of_lt_succ (List.mem_range.1 hmem), rfl, hfree,
      fun j hj => by simpa using hfirst j hj⟩
  · rename_i hnone
    rw [hnone] at hfree
    exact ⟨0, Nat.zero_le _, rfl, hfree, fun j hj => absurd hj (Nat.not_lt_zero j)⟩

theorem eq_of_first_free (hj : r.isTaken (candidate o j) = false)
    (hbefore : ∀ i < j, r.isTaken (candidate o i) = true) (hk : r.isTaken (candidate o k) = false)
    (hbefore' : ∀ i < k, r.isTaken (candidate o i) = true) : j = k := by
  rcases Nat.lt_trichotomy j k with hlt | heq | hlt
  · rw [hbefore' j hlt] at hj
    exact nomatch hj
  · exact heq
  · rw [hbefore k hlt] at hk
    exact nomatch hk

/-- Which name is fresh depends on which candidates are taken, and on nothing else. -/
theorem freshName_congr (h : ∀ k, r.isTaken (candidate o k) = r'.isTaken (candidate o k)) :
    r.freshName o = r'.freshName o := by
  obtain ⟨k, -, hk, hfree, hbefore⟩ := exists_first_free r o
  obtain ⟨k', -, hk', hfree', hbefore'⟩ := exists_first_free r' o
  simp only [← h] at hfree' hbefore'
  rw [hk, hk', eq_of_first_free hfree hbefore hfree' hbefore']

/-! ### Registering two owners -/

/-- Registering an owner takes no candidate of an owner with another base name. -/
theorem isTaken_register (h : baseName o ≠ baseName o') (r : Registry) (k : Nat) :
    (r.register o).isTaken (candidate o' k) = r.isTaken (candidate o' k) := by
  rw [Bool.eq_iff_iff, isTaken_iff, isTaken_iff]
  refine exists_congr fun x => ?_
  rw [name?_register]
  by_cases hx : o = x
  · rw [if_pos hx, ← hx]
    unfold nameFor
    cases hknown : r.name? o with
    | some name => rfl
    | none =>
      obtain ⟨j, hj⟩ := exists_freshName_eq r o
      simp [hj, candidate_ne h j k]
  · rw [if_neg hx]

theorem nameFor_register (h : baseName o ≠ baseName o') (r : Registry) :
    (r.register o).nameFor o' = r.nameFor o' := by
  have hne : o ≠ o' := fun heq => h (congrArg baseName heq)
  unfold nameFor
  rw [name?_register, if_neg hne, freshName_congr (isTaken_register h r)]

/-- **Owners with different base names can be registered in either order.** -/
theorem register_comm (h : baseName o ≠ baseName o') (r : Registry) :
    (r.register o).register o' = (r.register o').register o := by
  have hne : o ≠ o' := fun heq => h (congrArg baseName heq)
  refine ext_name? fun x => ?_
  simp only [name?_register, nameFor_register h, nameFor_register h.symm]
  by_cases ho : o = x
  · rw [if_pos ho, if_pos ho, if_neg fun ho' => hne (ho.trans ho'.symm)]
  · rw [if_neg ho, if_neg ho]

end Firewall.Registry
