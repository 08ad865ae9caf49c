/-
What the other operations of a dictionary do to look-ups.

A dictionary is known by its look-ups, so each operation is described by what it does to
them; listings are read back through `mem_values`.  Values that are put in one after the
other, each under a key of its own making and only where there is none yet, leave the
first value for each key.  Two dictionaries are put together key by key, and so a dictionary
is made from its entries.
-/
import Firewall.Order.Dictionary
import Mathlib.Data.List.Nodup
import Mathlib.Data.Prod.Basic

namespace Firewall.Dictionary

variable {κ ν : Type} [Ord κ] [Std.LawfulEqOrd κ]

theorem get?_filter (p : κ → ν → Bool) (d : Dictionary κ ν) (k : κ) :
    (d.filter p).get? k = (d.get? k).filter (p k) := by
  refine Option.ext fun v => ?_
  rw [get?_eq_some_iff, Option.filter_eq_some_iff, get?_eq_some_iff]
  exact List.mem_filter

/-- Making something of each value makes the same of what is looked up. -/
theorem get?_filterMap {ν' : Type} (f : ν → Option ν') (d : Dictionary κ ν) (k : κ) :
    (d.filterMap f).get? k = (d.get? k).bind f := by
  refine Option.ext fun w => ?_
  rw [get?_eq_some_iff, Option.bind_eq_some_iff]
  show (k, w) ∈ d.entries.filterMap _ ↔ _
  simp only [List.mem_filterMap, Option.map_eq_some_iff, get?_eq_some_iff]
  constructor
  · rintro ⟨⟨k', v⟩, hv, w', hw, heq⟩
    cases heq
    exact ⟨v, hv, hw⟩
  · rintro ⟨v, hv, hw⟩
    exact ⟨(k, v), hv, w, hw, rfl⟩

omit [Std.LawfulEqOrd κ] in
/-- Dropping entries that would be dropped later anyway makes no difference. -/
theorem filter_filter_of_imp {p q : κ → ν → Bool} (h : ∀ k v, p k v = true → q k v = true)
    (d : Dictionary κ ν) :
    (d.filter q).filter p = d.filter p := by
  refine ext_entries ?_
  show (d.entries.filter _).filter _ = d.entries.filter _
  rw [List.filter_filter]
  refine List.filter_congr fun e _ => ?_
  cases hp : p e.1 e.2 with
  | false => rfl
  | true => exact h e.1 e.2 hp

theorem mem_values {d : Dictionary κ ν} {v : ν} : v ∈ d.values ↔ ∃ k, d.get? k = some v := by
  unfold values
  simp only [get?_eq_some_iff, List.mem_map]
  constructor
  · rintro ⟨⟨k, v⟩, h, rfl⟩
    exact ⟨k, h⟩
  · rintro ⟨k, h⟩
    exact ⟨(k, v), h, rfl⟩

variable [Std.TransOrd κ]

omit [Std.LawfulEqOrd κ] in
theorem nodup_entries (d : Dictionary κ ν) : d.entries.Nodup := by
  refine d.ascending.imp fun {a b} hlt heq => ?_
  rw [heq] at hlt
  exact nomatch (Std.ReflCmp.compare_self (a := b.1)).symm.trans hlt

/-- Of two dictionaries that are inverse to each other one lists as much as the other. -/
theorem size_eq_of_inverse [Ord ν] [Std.TransOrd ν] [Std.LawfulEqOrd ν] {d : Dictionary κ ν}
    {e : Dictionary ν κ} (h : ∀ v k, e.get? v = some k ↔ d.get? k = some v) : e.size = d.size := by
  have hswapped : e.entries.Perm (d.entries.map Prod.swap) := by
    refine (List.perm_ext_iff_of_nodup e.nodup_entries
      (d.nodup_entries.map Prod.swap_injective)).2 fun ⟨v, k⟩ => ?_
    rw [← get?_eq_some_iff, h, get?_eq_some_iff, List.mem_map]
    constructor
    · intro hmem
      exact ⟨(k, v), hmem, rfl⟩
    · rintro ⟨⟨k', v'⟩, hmem, heq⟩
      cases heq
      exact hmem
  rw [size, hswapped.length_eq, List.length_map, size]

theorem get?_insert_self (k : κ) (v : ν) (d : Dictionary κ ν) : (d.insert k v).get? k = some v := by
  rw [get?_insert, if_pos Std.ReflCmp.compare_self]

theorem get?_insert_of_ne {k k' : κ} (h : k ≠ k') (v : ν) (d : Dictionary κ ν) :
    (d.insert k v).get? k' = d.get? k' := by
  rw [get?_insert, if_neg fun heq => h (Std.LawfulEqOrd.eq_of_compare heq)]

theorem insert_of_get? {k : κ} {v : ν} {d : Dictionary κ ν} (h : d.get? k = some v) :
    d.insert k v = d := by
  refine ext_get? fun k' => ?_
  by_cases hk : k = k'
  · rw [← hk, get?_insert_self, h]
  · exact get?_insert_of_ne hk v d

theorem get?_insertNew (k k' : κ) (v : ν) (d : Dictionary κ ν) :
    (d.insertNew k v).get? k' = (d.get? k').or (if compare k k' = .eq then some v else none) := by
  unfold insertNew
  split
  · rename_i hk
    by_cases heq : compare k k' = .eq
    · rw [← Std.LawfulEqOrd.eq_of_compare heq]
      obtain ⟨w, hw⟩ := Option.isSome_iff_exists.1 (show (d.get? k).isSome = true from hk)
      rw [hw, Option.some_or]
    · rw [if_neg heq, Option.or_none]
  · rename_i hk
    rw [get?_insert]
    by_cases heq : compare k k' = .eq
    · have hnone : d.get? k' = none := by
        rw [← Std.LawfulEqOrd.eq_of_compare heq]
        exact Option.not_isSome_iff_eq_none.1 hk
      rw [if_pos heq, hnone, Option.none_or, if_pos heq]
    · rw [if_neg heq, if_neg heq, Option.or_none]

/-- **Of the values put in under a key the first is kept.** -/
theorem get?_foldl_insertNew (key : ν → κ) (l : List ν) (d : Dictionary κ ν) (k : κ) :
    (l.foldl (fun d v => d.insertNew (key v) v) d).get? k
      = (d.get? k).or (l.find? fun v => compare (key v) k == .eq) := by
  induction l generalizing d with
  | nil => rw [List.foldl_nil, List.find?_nil, Option.or_none]
  | cons v rest ih =>
    rw [List.foldl_cons, ih, get?_insertNew, Option.or_assoc, List.find?_cons]
    by_cases heq : compare (key v) k = .eq
    · rw [if_pos heq, Option.some_or, beq_iff_eq.2 heq]
    · rw [if_neg heq, Option.none_or, beq_eq_false_iff_ne.2 heq]

variable {key : ν → κ} {l : List ν}

private theorem get?_fresh_foldl_insertNew {k : κ} {v : ν} :
    (l.foldl (fun d v => d.insertNew (key v) v) (∅ : Dictionary κ ν)).get? k = some v ↔
      key v = k ∧ l.find? (fun w => compare (key w) (key v) == .eq) = some v := by
  have hget : (l.foldl (fun d v => d.insertNew (key v) v) (∅ : Dictionary κ ν)).get? k
      = l.find? fun v => compare (key v) k == .eq := by
    rw [get?_foldl_insertNew]
    rfl
  rw [hget]
  constructor
  · intro h
    have hfound := List.find?_some h
    have hkey : key v = k := Std.LawfulEqOrd.eq_of_compare (beq_iff_eq.1 hfound)
    rw [hkey]
    exact ⟨rfl, h⟩
  · rintro ⟨rfl, h⟩
    exact h

/-- **What is listed is the first value under each key.** -/
theorem mem_values_foldl_insertNew_iff {v : ν} :
    v ∈ (l.foldl (fun d v => d.insertNew (key v) v) (∅ : Dictionary κ ν)).values ↔
      l.find? (fun w => compare (key w) (key v) == .eq) = some v := by
  simp only [mem_values, get?_fresh_foldl_insertNew, exists_eq_left']

theorem exists_mem_values_foldl_insertNew {k : κ} :
    (∃ v ∈ (l.foldl (fun d v => d.insertNew (key v) v) (∅ : Dictionary κ ν)).values, key v = k) ↔
      ∃ v ∈ l, key v = k := by
  simp only [mem_values_foldl_insertNew_iff]
  constructor
  · rintro ⟨v, hv, hkey⟩
    exact ⟨v, List.mem_of_find?_eq_some hv, hkey⟩
  · rintro ⟨v, hv, rfl⟩
    have hsome : (l.find? fun w => compare (key w) (key v) == .eq).isSome = true := by
      rw [List.find?_isSome]
      exact ⟨v, hv, beq_iff_eq.2 Std.ReflCmp.compare_self⟩
    obtain ⟨w, hw⟩ := Option.isSome_iff_exists.1 hsome
    have hfound := List.find?_some hw
    have hkey : key w = key v := Std.LawfulEqOrd.eq_of_compare (beq_iff_eq.1 hfound)
    refine ⟨w, ?_, hkey⟩
    rw [hkey]
    exact hw

theorem pairwise_values_foldl_insertNew :
    (l.foldl (fun d v => d.insertNew (key v) v) (∅ : Dictionary κ ν)).values.Pairwise
      fun v w => compare (key v) (key w) = .lt := by
  have hkey : ∀ e ∈ (l.foldl (fun d v => d.insertNew (key v) v) (∅ : Dictionary κ ν)).entries,
      key e.2 = e.1 := by
    intro e he
    have hget := get?_eq_some_iff.2 he
    exact (get?_fresh_foldl_insertNew.1 hget).1
  unfold values
  rw [List.pairwise_map]
  refine (Dictionary.ascending _).imp_of_mem fun ha hb hab => ?_
  rw [hkey _ ha, hkey _ hb]
  exact hab

/-- Where keys belong to one value each, everything that was put in is listed. -/
theorem mem_values_foldl_insertNew (h : ∀ v ∈ l, ∀ w ∈ l, key v = key w → v = w) {v : ν} :
    v ∈ (l.foldl (fun d v => d.insertNew (key v) v) (∅ : Dictionary κ ν)).values ↔ v ∈ l := by
  constructor
  · intro hv
    exact List.mem_of_find?_eq_some (mem_values_foldl_insertNew_iff.1 hv)
  · intro hv
    have hput : ∃ w ∈ l, key w = key v := ⟨v, hv, rfl⟩
    obtain ⟨w, hw, hkey⟩ := exists_mem_values_foldl_insertNew.2 hput
    have hmem := List.mem_of_find?_eq_some (mem_values_foldl_insertNew_iff.1 hw)
    rwa [h w hmem v hv hkey] at hw

/-! ### Two dictionaries as one -/

/-- Both dictionaries as one, the two values of a key that is in both put together. -/
def joinWith (f : ν → ν → ν) (d e : Dictionary κ ν) : Dictionary κ ν :=
  e.entries.foldl
    (fun d entry => d.alter entry.1 fun old => (old.map fun v => f v entry.2).getD entry.2) d

private theorem get?_foldl_alter {f : ν → ν → ν} {l : List (κ × ν)}
    (h : l.Pairwise fun a b => compare a.1 b.1 = .lt) (d : Dictionary κ ν) (k : κ) :
    (l.foldl (fun d entry => d.alter entry.1 fun old => (old.map fun v => f v entry.2).getD entry.2)
      d).get? k
      = Option.merge f (d.get? k) ((l.find? fun e => compare e.1 k == .eq).map (·.2)) := by
  induction l generalizing d with
  | nil => simp
  | cons x rest ih =>
    obtain ⟨hx, hrest⟩ := List.pairwise_cons.1 h
    rw [List.foldl_cons, ih hrest, alter, get?_insert, List.find?_cons]
    by_cases hk : compare x.1 k = .eq
    · -- the other keys come after this one
      have hnone : rest.find? (fun e => compare e.1 k == .eq) = none := by
        rw [List.find?_eq_none]
        intro e he heq
        have hkey : e.1 = x.1 := (Std.LawfulEqOrd.eq_of_compare (beq_iff_eq.1 heq)).trans
          (Std.LawfulEqOrd.eq_of_compare hk).symm
        have hlt := hx e he
        rw [hkey] at hlt
        exact nomatch hlt.symm.trans Std.ReflCmp.compare_self
      rw [if_pos hk, beq_iff_eq.2 hk, hnone, ← Std.LawfulEqOrd.eq_of_compare hk]
      cases d.get? x.1 <;> rfl
    · rw [if_neg hk, beq_eq_false_iff_ne.2 hk]

/-- **What is found in two dictionaries as one.** -/
theorem get?_joinWith (f : ν → ν → ν) (d e : Dictionary κ ν) (k : κ) :
    (d.joinWith f e).get? k = Option.merge f (d.get? k) (e.get? k) :=
  get?_foldl_alter e.ascending d k

/-- **A dictionary is made from its entries.** -/
theorem ofList_entries (d : Dictionary κ ν) : ofList d.entries = d := by
  have hjoin : ofList d.entries = joinWith (fun _ v => v) empty d := by
    have hstep : (fun (d : Dictionary κ ν) (entry : κ × ν) => d.insert entry.1 entry.2)
        = fun d entry => d.alter entry.1 fun old => (old.map fun _ => entry.2).getD entry.2 := by
      funext d entry
      unfold alter
      cases d.get? entry.1 <;> rfl
    unfold ofList joinWith
    rw [hstep]
  refine ext_get? fun k => ?_
  rw [hjoin, get?_joinWith, get?_empty, Option.merge_none_left]

end Firewall.Dictionary
