/-
Set names, kept both ways round.

A registry has one table, and finds the owner of a name by looking through it.  `NameTables` has
a second one for the owners of names.  As long as each is the inverse of the other, an owner is
found in the second exactly if it is found by looking through the first
(`Inverse.get?_owners`), and so every operation does to both what it does to a registry: it gives
the same names, and leaves the tables inverse to each other.
-/
import Firewall.Cache.Tables
import Firewall.Proofs.Cache.Registry

namespace Firewall.NameTables

/-- Each table is the inverse of the other. -/
def Inverse (n : NameTables) : Prop :=
  ∀ name o, n.owners.get? name = some o ↔ n.byOwner.get? o = some name

/-- The registry of the same names. -/
def registry (n : NameTables) : Registry := ⟨n.byOwner⟩

variable {n n' : NameTables} {name : String} {o : Owner}

theorem Inverse.injective (h : n.Inverse) : n.registry.Injective := by
  intro o o' name ho ho'
  have howner := (h name o).2 ho
  rw [(h name o').2 ho'] at howner
  exact (Option.some.inj howner).symm

/-- **The second table has the owner that looking through the first one finds.** -/
theorem Inverse.get?_owners (h : n.Inverse) (name : String) :
    n.owners.get? name = n.registry.owner? name := by
  refine Option.ext fun o => ?_
  rw [h, Registry.owner?_eq_some_iff h.injective]
  exact Iff.rfl

theorem Inverse.freshName (h : n.Inverse) (o : Owner) :
    n.freshName o = n.registry.freshName o := by
  have hsize : n.owners.size = n.registry.names.size := Dictionary.size_eq_of_inverse h
  have htaken : ∀ name, n.owners.contains name = n.registry.isTaken name := fun name =>
    congrArg Option.isSome (h.get?_owners name)
  unfold NameTables.freshName Registry.freshName
  simp only [hsize, htaken]
  cases (List.range _).find? _ <;> rfl

theorem Inverse.enter (h : n.Inverse) (hname : n.owners.get? name = none)
    (ho : n.byOwner.get? o = none) : (n.enter name o).Inverse := by
  intro name' o'
  show (n.owners.insert name o).get? name' = some o' ↔
    (n.byOwner.insert o name).get? o' = some name'
  by_cases hn : name = name'
  · rw [← hn, Dictionary.get?_insert_self]
    by_cases heq : o = o'
    · rw [← heq, Dictionary.get?_insert_self]
      exact iff_of_true rfl rfl
    · -- the name was not the other owner's before
      rw [Dictionary.get?_insert_of_ne heq, ← h, hname]
      exact iff_of_false (fun hsame => heq (Option.some.inj hsame)) fun hsame => nomatch hsame
  · rw [Dictionary.get?_insert_of_ne hn]
    by_cases heq : o = o'
    · -- the owner did not have the other name before
      rw [← heq, Dictionary.get?_insert_self, h, ho]
      exact iff_of_false (fun hsame => nomatch hsame) fun hsame => hn (Option.some.inj hsame)
    · rw [Dictionary.get?_insert_of_ne heq]
      exact h name' o'

/-! ### The operations -/

theorem inverse_empty : (⟨∅, ∅⟩ : NameTables).Inverse :=
  fun _ _ => iff_of_false (fun h => nomatch h) fun h => nomatch h

/-- What registering does to the tables it does to the registry, with the same name. -/
theorem Inverse.register_eq (h : n.Inverse) (o : Owner) :
    (n.register o).1.registry = n.registry.register o ∧
      (n.register o).2 = n.registry.nameFor o := by
  have hname : n.registry.name? o = n.byOwner.get? o := rfl
  have hknown : n.registry.names.contains o = (n.byOwner.get? o).isSome := rfl
  unfold NameTables.register Registry.register Registry.nameFor
  rw [hname, hknown]
  cases n.byOwner.get? o with
  | some name => exact ⟨rfl, rfl⟩
  | none =>
    simp only [h.freshName]
    exact ⟨rfl, rfl⟩

theorem Inverse.register (h : n.Inverse) (o : Owner) : (n.register o).1.Inverse := by
  unfold NameTables.register
  cases ho : n.byOwner.get? o with
  | some name => exact h
  | none =>
    refine h.enter ?_ ho
    rw [h.freshName, h.get?_owners]
    exact Option.not_isSome_iff_eq_none.1
      (Bool.eq_false_iff.1 (Registry.not_isTaken_freshName n.registry o))

/-- What adopting a name does to the tables it does to the registry, and where it is refused it
is refused. -/
theorem Inverse.adopt?_eq (h : n.Inverse) (name : String) (o : Owner) :
    (n.adopt? name o).map registry = n.registry.adopt? name o := by
  have hknown : n.registry.names.contains o = n.byOwner.contains o := rfl
  unfold NameTables.adopt? Registry.adopt?
  rw [h.get?_owners, hknown]
  cases n.registry.owner? name with
  | some other =>
    by_cases ho : other = o
    · simp only [if_pos ho, Option.map_some]
    · simp only [if_neg ho, Option.map_none]
  | none =>
    cases n.byOwner.contains o <;> rfl

/-- A name that is adopted is its owner's already, or it had no owner and the owner no name. -/
theorem adopt?_cases (hadopt : n.adopt? name o = some n') :
    (n.owners.get? name = some o ∧ n' = n) ∨
      (n.owners.get? name = none ∧ n.byOwner.get? o = none ∧ n' = n.enter name o) := by
  unfold adopt? at hadopt
  cases hname : n.owners.get? name with
  | some other =>
    simp only [hname] at hadopt
    split at hadopt
    · rename_i ho
      exact .inl ⟨ho ▸ rfl, (Option.some.inj hadopt).symm⟩
    · exact nomatch hadopt
  | none =>
    simp only [hname] at hadopt
    split at hadopt
    · exact nomatch hadopt
    · rename_i hnew
      exact .inr ⟨rfl, Option.not_isSome_iff_eq_none.1 hnew, (Option.some.inj hadopt).symm⟩

theorem Inverse.adopt? (h : n.Inverse) (hadopt : n.adopt? name o = some n') : n'.Inverse := by
  rcases adopt?_cases hadopt with ⟨-, rfl⟩ | ⟨hname, ho, rfl⟩
  · exact h
  · exact h.enter hname ho

theorem Inverse.retain (h : n.Inverse) (keep : Owner → Bool) : (n.retain keep).Inverse := by
  intro name o
  show (n.owners.filter fun _ o => keep o).get? name = some o ↔
    (n.byOwner.filter fun o _ => keep o).get? o = some name
  rw [Dictionary.get?_filter, Dictionary.get?_filter, Option.filter_eq_some_iff,
    Option.filter_eq_some_iff, h]

end Firewall.NameTables
