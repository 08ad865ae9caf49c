/-
Finite sets, held as strictly ascending lists.

Everything the compiler prints in a fixed order — prefixes inside braces, port
ranges, members of a set, whole rule lines — is a set first and a list second.
Holding it as the one strictly ascending list of its members makes the two the
same thing: two such lists with the same members are equal (`ext_mem`), so what
is printed depends on which elements were inserted and never on when.
-/
namespace Firewall

/-- Two lists that are strictly ordered the same way and have the same members are equal. -/
theorem eq_of_mem_iff_of_pairwise {α : Type} {R : α → α → Prop} (irrefl : ∀ a, ¬ R a a)
    (trans : ∀ {a b c}, R a b → R b c → R a c) {l m : List α} (hl : l.Pairwise R)
    (hm : m.Pairwise R) (h : ∀ a, a ∈ l ↔ a ∈ m) : l = m := by
  induction l generalizing m with
  | nil =>
    cases m with
    | nil => rfl
    | cons b _ => exact absurd ((h b).2 List.mem_cons_self) List.not_mem_nil
  | cons a l ih =>
    cases m with
    | nil => exact absurd ((h a).1 List.mem_cons_self) List.not_mem_nil
    | cons b m =>
      obtain ⟨ha, hl⟩ := List.pairwise_cons.1 hl
      obtain ⟨hb, hm'⟩ := List.pairwise_cons.1 hm
      have hab : a = b := by
        rcases List.mem_cons.1 ((h a).1 List.mem_cons_self) with e | hmem
        · exact e
        rcases List.mem_cons.1 ((h b).2 List.mem_cons_self) with e | hmem'
        · exact e.symm
        · exact absurd (trans (hb a hmem) (ha b hmem')) (irrefl b)
      subst hab
      refine congrArg (a :: ·) (ih hl hm' fun c => ?_)
      constructor
      · intro hc
        rcases List.mem_cons.1 ((h c).1 (List.mem_cons_of_mem _ hc)) with rfl | hc'
        · exact absurd (ha c hc) (irrefl c)
        · exact hc'
      · intro hc
        rcases List.mem_cons.1 ((h c).2 (List.mem_cons_of_mem _ hc)) with rfl | hc'
        · exact absurd (hb c hc) (irrefl c)
        · exact hc'

/-- A finite set, held as the strictly ascending list of its members. -/
structure Ascending (α : Type) [Ord α] where
  /-- The members, smallest first and none of them twice. -/
  toList : List α
  ascending : toList.Pairwise fun a b => compare a b = .lt

namespace Ascending

variable {α : Type} [Ord α]

instance : Membership α (Ascending α) := ⟨fun s a => a ∈ s.toList⟩

theorem mem_def {s : Ascending α} {a : α} : a ∈ s ↔ a ∈ s.toList := Iff.rfl

theorem ext_toList {s t : Ascending α} (h : s.toList = t.toList) : s = t := by
  cases s; cases t; cases h; rfl

instance [DecidableEq α] : DecidableEq (Ascending α) := fun s t =>
  if h : s.toList = t.toList then isTrue (ext_toList h)
  else isFalse fun e => h (e ▸ rfl)

/-- The set without members. -/
def empty : Ascending α := ⟨[], .nil⟩

@[simp] theorem not_mem_empty {a : α} : a ∉ (empty : Ascending α) := by
  simp [mem_def, empty]

instance : EmptyCollection (Ascending α) := ⟨empty⟩
instance : Inhabited (Ascending α) := ⟨empty⟩

/-- Whether the set has no member. -/
def isEmpty (s : Ascending α) : Bool := s.toList.isEmpty

/-- How many members there are. -/
def size (s : Ascending α) : Nat := s.toList.length

/-- Places an element before the first one that is not smaller; one that is equal is replaced. -/
def place (a : α) : List α → List α
  | [] => [a]
  | b :: rest =>
    match compare a b with
    | .lt => a :: b :: rest
    | .eq => a :: rest
    | .gt => b :: place a rest

section Lawful

variable [Std.TransOrd α] [Std.LawfulEqOrd α]

omit [Std.TransOrd α] in
@[simp] theorem mem_place {a b : α} {l : List α} : b ∈ place a l ↔ b = a ∨ b ∈ l := by
  induction l with
  | nil => simp [place]
  | cons c rest ih =>
    unfold place
    split
    · simp
    · rename_i h
      have : a = c := Std.LawfulEqOrd.eq_of_compare h
      subst this
      simp
    · simp [ih, or_left_comm]

theorem pairwise_place (a : α) {l : List α} (h : l.Pairwise fun a b => compare a b = .lt) :
    (place a l).Pairwise fun a b => compare a b = .lt := by
  induction l with
  | nil => simp [place]
  | cons c rest ih =>
    obtain ⟨hc, hrest⟩ := List.pairwise_cons.1 h
    unfold place
    split
    · rename_i hac
      refine List.pairwise_cons.2 ⟨fun b hb => ?_, h⟩
      rcases List.mem_cons.1 hb with rfl | hb
      · exact hac
      · exact Std.TransCmp.lt_trans hac (hc b hb)
    · rename_i hac
      have : a = c := Std.LawfulEqOrd.eq_of_compare hac
      subst this
      exact h
    · rename_i hac
      refine List.pairwise_cons.2 ⟨fun b hb => ?_, ih hrest⟩
      rcases mem_place.1 hb with rfl | hb
      · exact Std.OrientedCmp.lt_of_gt hac
      · exact hc b hb

/-- The set with one more member. -/
def insert (a : α) (s : Ascending α) : Ascending α :=
  ⟨place a s.toList, pairwise_place a s.ascending⟩

/-- The set of the elements of a list, in whatever order and however often they occur there. -/
def ofList (l : List α) : Ascending α := l.foldl (fun s a => s.insert a) empty

@[simp] theorem mem_insert {a b : α} {s : Ascending α} : b ∈ s.insert a ↔ b = a ∨ b ∈ s :=
  mem_place

private theorem mem_foldl_insert {a : α} (l : List α) (s : Ascending α) :
    a ∈ l.foldl (fun s a => s.insert a) s ↔ a ∈ s ∨ a ∈ l := by
  induction l generalizing s with
  | nil => simp
  | cons b rest ih => simp [ih, or_assoc, or_left_comm]

@[simp] theorem mem_ofList {a : α} {l : List α} : a ∈ ofList l ↔ a ∈ l := by
  simp [ofList, mem_foldl_insert]

/-- The members of either set. -/
def union (s t : Ascending α) : Ascending α := t.toList.foldl (fun s a => s.insert a) s

@[simp] theorem mem_union {a : α} {s t : Ascending α} : a ∈ s.union t ↔ a ∈ s ∨ a ∈ t :=
  mem_foldl_insert t.toList s

/-! ### A set is determined by its members -/

/-- **Two sets with the same members are equal**, and so is every listing made from them. -/
theorem ext_mem {s t : Ascending α} (h : ∀ a, a ∈ s ↔ a ∈ t) : s = t :=
  ext_toList <| eq_of_mem_iff_of_pairwise (R := fun a b => compare a b = .lt)
    (fun a => by simp [Std.ReflCmp.compare_self])
    (fun hab hbc => Std.TransCmp.lt_trans hab hbc) s.ascending t.ascending h

end Lawful

end Ascending

end Firewall
