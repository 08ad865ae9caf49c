/-
Names of sets are given out once.

An owner is offered its candidates one after the other.  No two of them are the same
text (`candidate_injective`), so among as many candidates as there are names, and one
more, some is free (`not_isTaken_freshName`).  That is why registering an owner gives
it a name that is nobody else's.

Every operation on the registry is described by what it does to `name?`.
-/
import Firewall.Cache.Registry
import Firewall.Proofs.Name.Qualified
import Firewall.Proofs.Order.Dictionary
import Firewall.Proofs.Text.Numeral

namespace Firewall.Registry

/-! ### Candidates are all different -/

theorem candidate_zero (o : Owner) : candidate o 0 = baseName o := rfl

theorem candidate_of_ne_zero (o : Owner) {k : Nat} (h : k ≠ 0) :
    candidate o k = baseName o ++ "_" ++ toString k := if_neg h

private theorem decimal_injective {j k : Nat} (h : Text.decimal j = Text.decimal k) : j = k := by
  have hread := Text.readDecimal?_decimal j
  rw [h, Text.readDecimal?_decimal] at hread
  exact (Option.some.inj hread).symm

/-- **An owner's candidates are all different.** -/
theorem candidate_injective {o : Owner} {j k : Nat} (h : candidate o j = candidate o k) :
    j = k := by
  have hchars : ∀ {n : Nat}, n ≠ 0 →
      (candidate o n).toList = (baseName o).toList ++ '_' :: Text.decimal n := by
    intro n hn
    rw [candidate_of_ne_zero o hn, String.toList_append, String.toList_append, Text.toList_toString,
      List.append_assoc]
    rfl
  have hzero : ∀ {n : Nat}, n ≠ 0 → candidate o n ≠ candidate o 0 := by
    intro n hn heq
    have hlist := congrArg String.toList heq
    rw [hchars hn, candidate_zero] at hlist
    exact absurd (List.append_right_eq_self.1 hlist) (List.cons_ne_nil _ _)
  by_cases hj : j = 0
  · by_cases hk : k = 0
    · rw [hj, hk]
    · rw [hj] at h
      exact absurd h.symm (hzero hk)
  · by_cases hk : k = 0
    · rw [hk] at h
      exact absurd h (hzero hj)
    · have hlist := congrArg String.toList h
      rw [hchars hj, hchars hk, List.append_cancel_left_eq, List.cons.injEq] at hlist
      exact decimal_injective hlist.2

/-! ### What candidates are written with -/

/-- A character that names are written with. -/
def IsNameChar (c : Char) : Prop := ('a' ≤ c ∧ c ≤ 'z') ∨ ('0' ≤ c ∧ c ≤ '9') ∨ c = '_'

instance : DecidablePred IsNameChar := fun c =>
  inferInstanceAs (Decidable (('a' ≤ c ∧ c ≤ 'z') ∨ ('0' ≤ c ∧ c ≤ '9') ∨ c = '_'))

private theorem isNameChar_labelChar (c : Char) : IsNameChar (labelChar c) := by
  unfold labelChar
  split
  · rename_i halpha
    by_cases hcapital : 'A' ≤ c ∧ c ≤ 'Z'
    · have hsmall : Text.lower c = Char.ofNat (c.toNat + 32) := if_pos hcapital
      rw [hsmall]
      exact Name.capital_cases (P := IsNameChar) hcapital (by decide)
    · have hsame : Text.lower c = c := if_neg hcapital
      simp only [Text.isAlphanumeric, Bool.or_eq_true, Bool.and_eq_true,
        decide_eq_true_eq] at halpha
      rw [hsame]
      rcases halpha with (hletter | hletter) | hdigit
      · exact .inl hletter
      · exact absurd hletter hcapital
      · exact .inr (.inl hdigit)
  · exact .inr (.inr rfl)

private theorem isNameChar_of_mem_baseName {o : Owner} {c : Char} (h : c ∈ (baseName o).toList) :
    IsNameChar c := by
  have hstart : ∀ c ∈ "fqdn_".toList, IsNameChar c := by simp [IsNameChar]
  have hsuffix : ∀ c ∈ o.family.suffix.toList, IsNameChar c := by
    cases o.family <;> simp [Family.suffix, IsNameChar]
  have hlabel : ∀ c ∈ (label o.fqdn).toList, IsNameChar c := by
    intro c hc
    rw [label, String.toList_ofList] at hc
    obtain ⟨d, -, rfl⟩ := List.mem_map.1 (List.mem_of_mem_take hc)
    exact isNameChar_labelChar d
  unfold baseName at h
  simp only [String.toList_append, List.mem_append] at h
  rcases h with ((h | h) | h) | h
  · exact hstart c h
  · exact hlabel c h
  · exact (by simp [IsNameChar] : ∀ c ∈ "_".toList, IsNameChar c) c h
  · exact hsuffix c h

/-- **A candidate is written with small letters, digits and underscores.** -/
theorem isNameChar_of_mem_candidate {o : Owner} {k : Nat} {c : Char}
    (h : c ∈ (candidate o k).toList) :
    IsNameChar c := by
  by_cases hk : k = 0
  · rw [hk, candidate_zero] at h
    exact isNameChar_of_mem_baseName h
  · rw [candidate_of_ne_zero o hk, String.toList_append, String.toList_append,
      Text.toList_toString] at h
    simp only [List.mem_append] at h
    rcases h with (h | h) | h
    · exact isNameChar_of_mem_baseName h
    · exact (by simp [IsNameChar] : ∀ c ∈ "_".toList, IsNameChar c) c h
    · exact Text.of_mem_decimal (P := IsNameChar) (by decide) h

theorem space_notMem_candidate (o : Owner) (k : Nat) : ' ' ∉ (candidate o k).toList :=
  fun h => absurd (isNameChar_of_mem_candidate h) (by decide)

/-! ### The owner of a name -/

theorem owner?_eq_none_iff {r : Registry} {name : String} :
    r.owner? name = none ↔ ∀ o, r.name? o ≠ some name := by
  unfold owner? name?
  rw [Option.map_eq_none_iff, List.find?_eq_none]
  constructor
  · intro h o ho
    exact h (o, name) (Dictionary.get?_eq_some_iff.1 ho) (beq_self_eq_true name)
  · rintro h ⟨o, n⟩ hmem hn
    rw [beq_iff_eq] at hn
    exact h o (Dictionary.get?_eq_some_iff.2 (hn ▸ hmem))

theorem name?_of_owner? {r : Registry} {name : String} {o : Owner} (h : r.owner? name = some o) :
    r.name? o = some name := by
  obtain ⟨e, he, rfl⟩ := Option.map_eq_some_iff.1 h
  have hfound := List.find?_some he
  have hname : e.2 = name := beq_iff_eq.1 hfound
  rw [name?, Dictionary.get?_eq_some_iff, ← hname]
  exact List.mem_of_find?_eq_some he

theorem isTaken_iff {r : Registry} {name : String} :
    r.isTaken name = true ↔ ∃ o, r.name? o = some name := by
  unfold isTaken
  rw [Option.isSome_iff_ne_none, ne_eq, owner?_eq_none_iff]
  simp

private theorem mem_values_of_isTaken {r : Registry} {name : String} (h : r.isTaken name = true) :
    name ∈ r.names.values := Dictionary.mem_values.2 (isTaken_iff.1 h)

/-! ### Fresh names -/

private theorem exists_free (r : Registry) (o : Owner) :
    ∃ k ∈ List.range (r.names.size + 1), r.isTaken (candidate o k) = false := by
  by_cases h : ∃ k ∈ List.range (r.names.size + 1), r.isTaken (candidate o k) = false
  · exact h
  · have htaken : ∀ k ∈ List.range (r.names.size + 1), r.isTaken (candidate o k) = true := by
      intro k hk
      exact Bool.not_eq_false _ ▸ fun hfree => h ⟨k, hk, hfree⟩
    have hnodup : ((List.range (r.names.size + 1)).map (candidate o)).Nodup := by
      refine List.Pairwise.map (candidate o) ?_ List.nodup_range
      intro j k hne heq
      exact hne (candidate_injective heq)
    have hsubset : (List.range (r.names.size + 1)).map (candidate o) ⊆ r.names.values := by
      intro name hname
      obtain ⟨k, hk, rfl⟩ := List.mem_map.1 hname
      exact mem_values_of_isTaken (htaken k hk)
    -- that would be more names than there are
    have hlength := hnodup.length_le_of_subset hsubset
    rw [List.length_map, List.length_range] at hlength
    have hsize : r.names.values.length = r.names.size := List.length_map _
    omega

theorem exists_freshName_eq (r : Registry) (o : Owner) : ∃ k, r.freshName o = candidate o k := by
  unfold freshName
  split
  · rename_i k _
    exact ⟨k, rfl⟩
  · exact ⟨0, rfl⟩

/-- **A fresh name is nobody's.** -/
theorem not_isTaken_freshName (r : Registry) (o : Owner) : r.isTaken (r.freshName o) = false := by
  unfold freshName
  split
  · rename_i k hk
    have hfree := List.find?_some hk
    simpa using hfree
  · rename_i hnone
    obtain ⟨k, hk, hfree⟩ := exists_free r o
    rw [List.find?_eq_none] at hnone
    exact absurd (by rw [hfree]; rfl) (hnone k hk)

/-! ### What the operations do to the names -/

/-- The name that an owner would be registered under is its own already, or free. -/
theorem nameFor_of_name? {r : Registry} {o : Owner} {name : String} (h : r.name? o = some name) :
    r.nameFor o = name := by
  rw [nameFor, h, Option.getD_some]

/-- Registering gives an owner its name, and takes nothing from the others. -/
theorem name?_register (r : Registry) (o o' : Owner) :
    (r.register o).name? o' = if o = o' then some (r.nameFor o) else r.name? o' := by
  unfold register
  split
  · rename_i hknown
    obtain ⟨name, hname⟩ := Option.isSome_iff_exists.1 (show (r.name? o).isSome = true from hknown)
    by_cases ho : o = o'
    · rw [if_pos ho, nameFor_of_name? hname, ← ho, hname]
    · rw [if_neg ho]
  · rename_i hnew
    have hnone : r.name? o = none := Option.not_isSome_iff_eq_none.1 hnew
    by_cases ho : o = o'
    · rw [if_pos ho, ← ho, nameFor, hnone, Option.getD_none]
      exact Dictionary.get?_insert_self o _ r.names
    · rw [if_neg ho]
      exact Dictionary.get?_insert_of_ne ho _ r.names

theorem name?_retain (keep : Owner → Bool) (r : Registry) (o : Owner) :
    (r.retain keep).name? o = (r.name? o).filter fun _ => keep o :=
      Dictionary.get?_filter _ r.names o

/-- Adopting a name leaves a registry that has it, or puts it where its owner had none. -/
theorem adopt?_cases {r r' : Registry} {name : String} {o : Owner} (h : r.adopt? name o = some r') :
    (r.name? o = some name ∧ r' = r) ∨
      (r.name? o = none ∧ (∀ o', r.name? o' ≠ some name) ∧ r' = ⟨r.names.insert o name⟩) := by
  unfold adopt? at h
  split at h
  · rename_i other howner
    split at h
    · rename_i heq
      rw [heq] at howner
      exact .inl ⟨name?_of_owner? howner, (Option.some.inj h).symm⟩
    · cases h
  · rename_i hfree
    split at h
    · cases h
    · rename_i hnew
      exact .inr ⟨Option.not_isSome_iff_eq_none.1 hnew, owner?_eq_none_iff.1 hfree,
        (Option.some.inj h).symm⟩

/-- Adopting gives an owner the name, and takes nothing from the others. -/
theorem name?_adopt? {r r' : Registry} {name : String} {o : Owner} (h : r.adopt? name o = some r')
    (o' : Owner) :
    r'.name? o' = if o = o' then some name else r.name? o' := by
  rcases adopt?_cases h with ⟨hname, rfl⟩ | ⟨-, -, rfl⟩
  · by_cases ho : o = o'
    · rw [if_pos ho, ← ho, hname]
    · rw [if_neg ho]
  · by_cases ho : o = o'
    · rw [if_pos ho, ← ho]
      exact Dictionary.get?_insert_self o name r.names
    · rw [if_neg ho]
      exact Dictionary.get?_insert_of_ne ho name r.names

/-- No two owners have one name. -/
def Injective (r : Registry) : Prop :=
  ∀ ⦃o o' name⦄, r.name? o = some name → r.name? o' = some name → o = o'

theorem Injective.register {r : Registry} (h : r.Injective) (o : Owner) :
    (r.register o).Injective := by
  -- a name that is registered anew is its owner's already or was free
  have hother : ∀ {o'}, o ≠ o' → r.name? o' ≠ some (r.nameFor o) := by
    intro o' hne ho'
    unfold nameFor at ho'
    cases hname : r.name? o with
    | some name =>
      rw [hname, Option.getD_some] at ho'
      exact hne (h hname ho')
    | none =>
      rw [hname, Option.getD_none] at ho'
      have htaken := isTaken_iff.2 ⟨o', ho'⟩
      rw [not_isTaken_freshName] at htaken
      exact Bool.false_ne_true htaken
  intro o₁ o₂ name h₁ h₂
  rw [name?_register] at h₁ h₂
  split at h₁
  · rename_i ho₁
    cases h₁
    split at h₂
    · rename_i ho₂
      rw [← ho₁, ← ho₂]
    · rename_i ho₂
      exact absurd h₂ (hother ho₂)
  · rename_i ho₁
    split at h₂
    · cases h₂
      exact absurd h₁ (hother ho₁)
    · exact h h₁ h₂

theorem Injective.adopt? {r r' : Registry} (h : r.Injective) {name : String} {o : Owner}
    (hadopt : r.adopt? name o = some r') : r'.Injective := by
  rcases adopt?_cases hadopt with ⟨-, rfl⟩ | ⟨-, hfree, -⟩
  · exact h
  · intro o₁ o₂ n h₁ h₂
    rw [name?_adopt? hadopt] at h₁ h₂
    split at h₁
    · rename_i ho₁
      cases h₁
      split at h₂
      · rename_i ho₂
        rw [← ho₁, ← ho₂]
      · exact absurd h₂ (hfree o₂)
    · split at h₂
      · cases h₂
        exact absurd h₁ (hfree o₁)
      · exact h h₁ h₂

/-- **Where no two owners have one name, the owner of a name and the
name of an owner are inverse.** -/
theorem owner?_eq_some_iff {r : Registry} (h : r.Injective) {name : String} {o : Owner} :
    r.owner? name = some o ↔ r.name? o = some name := by
  constructor
  · exact name?_of_owner?
  · intro hname
    cases howner : r.owner? name with
    | none => exact absurd hname (owner?_eq_none_iff.1 howner o)
    | some o' => rw [h (name?_of_owner? howner) hname]

/-- A name can be adopted by the owner that has it, and by one that has
none if the name is nobody's. -/
theorem exists_adopt?_iff {r : Registry} (h : r.Injective) {name : String} {o : Owner} :
    (∃ r', r.adopt? name o = some r') ↔
      r.name? o = some name ∨ (r.name? o = none ∧ ∀ o', r.name? o' ≠ some name) := by
  constructor
  · rintro ⟨r', hadopt⟩
    rcases adopt?_cases hadopt with ⟨hown, -⟩ | ⟨hnone, hfree, -⟩
    · exact .inl hown
    · exact .inr ⟨hnone, hfree⟩
  · unfold adopt?
    rintro (hown | ⟨hnone, hfree⟩)
    · rw [(owner?_eq_some_iff h).2 hown]
      exact ⟨r, if_pos rfl⟩
    · have hnew : r.names.contains o = false :=
        Option.isSome_eq_false_iff.2 (Option.isNone_iff_eq_none.2 hnone)
      rw [owner?_eq_none_iff.2 hfree, hnew]
      exact ⟨_, rfl⟩

theorem Injective.retain {r : Registry} (h : r.Injective) (keep : Owner → Bool) :
    (r.retain keep).Injective := by
  intro o₁ o₂ name h₁ h₂
  rw [name?_retain] at h₁ h₂
  exact h (Option.filter_eq_some_iff.1 h₁).1 (Option.filter_eq_some_iff.1 h₂).1

end Firewall.Registry
