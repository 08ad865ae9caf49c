/-
Dictionaries, held as lists of entries with strictly ascending keys.

A dictionary is read back in the order of its keys, whatever the order in which
it was filled.  The two facts the rest of the library leans on are what `insert`
does to a look-up (`get?_insert`) and that look-ups determine the dictionary
(`ext_get?`).
-/
import Firewall.Order.Ascending

namespace Firewall

/-- A finite map, held as its entries in strictly ascending order of their keys. -/
structure Dictionary (κ ν : Type) [Ord κ] where
  /-- The entries, smallest key first and no key twice. -/
  entries : List (κ × ν)
  ascending : entries.Pairwise fun a b => compare a.1 b.1 = .lt

namespace Dictionary

variable {κ ν : Type} [Ord κ]

theorem ext_entries {d e : Dictionary κ ν} (h : d.entries = e.entries) : d = e := by
  cases d; cases e; cases h; rfl

instance [DecidableEq κ] [DecidableEq ν] : DecidableEq (Dictionary κ ν) := fun d e =>
  if h : d.entries = e.entries then isTrue (ext_entries h)
  else isFalse fun eq => h (eq ▸ rfl)

/-- The dictionary without entries. -/
def empty : Dictionary κ ν := ⟨[], .nil⟩

instance : EmptyCollection (Dictionary κ ν) := ⟨empty⟩
instance : Inhabited (Dictionary κ ν) := ⟨empty⟩

/-- The value under a key. -/
def get? (d : Dictionary κ ν) (k : κ) : Option ν :=
  (d.entries.find? fun e => compare e.1 k == .eq).map (·.2)

@[simp] theorem get?_empty (k : κ) : (empty : Dictionary κ ν).get? k = none := rfl

/-- Whether a key has a value. -/
def contains (d : Dictionary κ ν) (k : κ) : Bool := (d.get? k).isSome

/-- The keys, smallest first. -/
def keys (d : Dictionary κ ν) : List κ := d.entries.map (·.1)

/-- The values, in the order of their keys. -/
def values (d : Dictionary κ ν) : List ν := d.entries.map (·.2)

/-- How many entries there are. -/
def size (d : Dictionary κ ν) : Nat := d.entries.length

/-- Whether there is no entry. -/
def isEmpty (d : Dictionary κ ν) : Bool := d.entries.isEmpty

/-- Keeps the entries that satisfy a test. -/
def filter (p : κ → ν → Bool) (d : Dictionary κ ν) : Dictionary κ ν :=
  ⟨d.entries.filter fun e => p e.1 e.2, d.ascending.sublist List.filter_sublist⟩

/-- Replaces each value by what is made of it, and drops the entries of which nothing is made. -/
def filterMap {ν' : Type} (f : ν → Option ν') (d : Dictionary κ ν) : Dictionary κ ν' where
  entries := d.entries.filterMap fun e => (f e.2).map (e.1, ·)
  ascending := by
    refine d.ascending.filterMap _ fun a b hlt a' ha b' hb => ?_
    obtain ⟨v, -, rfl⟩ := Option.map_eq_some_iff.1 ha
    obtain ⟨w, -, rfl⟩ := Option.map_eq_some_iff.1 hb
    exact hlt

/-- Removes the entry under a key, if there is one. -/
def erase (k : κ) (d : Dictionary κ ν) : Dictionary κ ν :=
  d.filter fun k' _ => compare k' k != .eq

/-- Places an entry where its key belongs; an entry with that key is replaced. -/
def place (k : κ) (v : ν) : List (κ × ν) → List (κ × ν)
  | [] => [(k, v)]
  | e :: rest =>
    match compare k e.1 with
    | .lt => (k, v) :: e :: rest
    | .eq => (k, v) :: rest
    | .gt => e :: place k v rest

section Lawful

variable [Std.TransOrd κ] [Std.LawfulEqOrd κ]

omit [Std.TransOrd κ] [Std.LawfulEqOrd κ] in
theorem mem_place_imp {k : κ} {v : ν} {e : κ × ν} {l : List (κ × ν)} (h : e ∈ place k v l) :
    e = (k, v) ∨ e ∈ l := by
  induction l with
  | nil => simpa [place] using h
  | cons c rest ih =>
    unfold place at h
    split at h
    · simpa using h
    · rcases List.mem_cons.1 h with h | h
      · exact .inl h
      · exact .inr (List.mem_cons_of_mem _ h)
    · rcases List.mem_cons.1 h with h | h
      · exact .inr (h ▸ List.mem_cons_self)
      · exact (ih h).imp_right (List.mem_cons_of_mem _)

theorem pairwise_place (k : κ) (v : ν) {l : List (κ × ν)}
    (h : l.Pairwise fun a b => compare a.1 b.1 = .lt) :
    (place k v l).Pairwise fun a b => compare a.1 b.1 = .lt := by
  induction l with
  | nil => simp [place]
  | cons c rest ih =>
    obtain ⟨hc, hrest⟩ := List.pairwise_cons.1 h
    unfold place
    split
    · rename_i hkc
      refine List.pairwise_cons.2 ⟨fun b hb => ?_, h⟩
      rcases List.mem_cons.1 hb with rfl | hb
      · exact hkc
      · exact Std.TransCmp.lt_trans hkc (hc b hb)
    · rename_i hkc
      have hkc : k = c.1 := Std.LawfulEqOrd.eq_of_compare hkc
      exact List.pairwise_cons.2 ⟨fun b hb => hkc ▸ hc b hb, hrest⟩
    · rename_i hkc
      refine List.pairwise_cons.2 ⟨fun b hb => ?_, ih hrest⟩
      rcases mem_place_imp hb with rfl | hb
      · exact Std.OrientedCmp.lt_of_gt hkc
      · exact hc b hb

/-- Gives a key a value, in place of any it had. -/
def insert (k : κ) (v : ν) (d : Dictionary κ ν) : Dictionary κ ν :=
  ⟨place k v d.entries, pairwise_place k v d.ascending⟩

/-- Gives a key a value unless it has one. -/
def insertNew (k : κ) (v : ν) (d : Dictionary κ ν) : Dictionary κ ν :=
  if d.contains k then d else d.insert k v

/-- Gives a key the value computed from the one it had. -/
def alter (k : κ) (f : Option ν → ν) (d : Dictionary κ ν) : Dictionary κ ν :=
  d.insert k (f (d.get? k))

/-- The dictionary of a list of entries; of entries with one key the last counts. -/
def ofList (l : List (κ × ν)) : Dictionary κ ν := l.foldl (fun d e => d.insert e.1 e.2) empty

/-! ### Look-ups -/

omit [Std.TransOrd κ] in
private theorem find?_place (k k' : κ) (v : ν) {l : List (κ × ν)}
    (h : l.Pairwise fun a b => compare a.1 b.1 = .lt) :
    (place k v l).find? (fun e => compare e.1 k' == .eq)
      = if compare k k' = .eq then some (k, v) else l.find? (fun e => compare e.1 k' == .eq) := by
  induction l with
  | nil => by_cases hk : compare k k' = .eq <;> simp [place, hk]
  | cons c rest ih =>
    obtain ⟨hc, hrest⟩ := List.pairwise_cons.1 h
    unfold place
    split
    · by_cases hk : compare k k' = .eq <;> simp [hk]
    · rename_i hkc
      have hkc : k = c.1 := Std.LawfulEqOrd.eq_of_compare hkc
      by_cases hk : compare k k' = .eq
      · simp [hk]
      · have hk' : ¬ compare c.1 k' = .eq := hkc ▸ hk
        simp [hk, hk']
    · rename_i hkc
      rw [List.find?_cons, ih hrest, List.find?_cons]
      by_cases hck : compare c.1 k' = .eq
      · have hck' : c.1 = k' := Std.LawfulEqOrd.eq_of_compare hck
        have hk : ¬ compare k k' = .eq := by
          rw [← hck', hkc]
          exact fun h => nomatch h
        simp [hck, hk]
      · have hck' : (compare c.1 k' == .eq) = false := by simpa using hck
        simp only [hck']

/-- **What an insertion does to every look-up.** -/
theorem get?_insert (k k' : κ) (v : ν) (d : Dictionary κ ν) :
    (d.insert k v).get? k' = if compare k k' = .eq then some v else d.get? k' := by
  unfold get? insert
  rw [find?_place k k' v d.ascending]
  split <;> rfl

omit [Std.TransOrd κ] in
theorem get?_eq_some_iff {d : Dictionary κ ν} {k : κ} {v : ν} :
    d.get? k = some v ↔ (k, v) ∈ d.entries := by
  obtain ⟨l, hl⟩ := d
  unfold get?
  induction l with
  | nil => simp
  | cons c rest ih =>
    obtain ⟨hc, hrest⟩ := List.pairwise_cons.1 hl
    have ih := ih hrest
    rw [List.find?_cons]
    by_cases hk : compare c.1 k = .eq
    · have hk' : c.1 = k := Std.LawfulEqOrd.eq_of_compare hk
      have hrest' : (k, v) ∉ rest := fun hm => by
        have := hc _ hm
        simp [hk] at this
      simp only [hk, beq_self_eq_true, Option.map_some, Option.some.injEq, List.mem_cons, hrest',
        or_false]
      constructor
      · rintro rfl; rw [← hk']
      · intro h; rw [← h]
    · have hne : ¬ (k, v) = c := fun h => by
        subst h
        simp [Std.ReflCmp.compare_self] at hk
      have hk' : (compare c.1 k == .eq) = false := by simpa using hk
      simp only [hk', List.mem_cons, hne, false_or]
      exact ih

/-- **Look-ups determine a dictionary**, and so every listing of it. -/
theorem ext_get? {d e : Dictionary κ ν} (h : ∀ k, d.get? k = e.get? k) : d = e := by
  refine ext_entries <| eq_of_mem_iff_of_pairwise (R := fun a b => compare a.1 b.1 = .lt)
    (fun a => by simp [Std.ReflCmp.compare_self])
    (fun hab hbc => Std.TransCmp.lt_trans hab hbc) d.ascending e.ascending fun ⟨k, v⟩ => ?_
  rw [← get?_eq_some_iff, ← get?_eq_some_iff, h]

end Lawful

end Dictionary

end Firewall
