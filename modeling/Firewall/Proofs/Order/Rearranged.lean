/-
Lists that differ in how their entries are arranged.

Entries may come in any order and any number of times, and each may be arranged differently
inside.  What then stays is that every entry of either list has one in the other that it goes
with; that is all there is to being rearranged, so whatever asks for some entry or for every
entry cannot tell the lists apart.
-/
import Mathlib.Logic.Basic
import Mathlib.Data.List.Basic

namespace Firewall

/-- Every entry of either list goes with one of the other. -/
structure Rearranged {α : Type} (R : α → α → Prop) (xs ys : List α) : Prop where
  forth : ∀ x ∈ xs, ∃ y ∈ ys, R x y
  back : ∀ y ∈ ys, ∃ x ∈ xs, R x y

namespace Rearranged

variable {α : Type} {R : α → α → Prop} {xs ys : List α}

instance [DecidableRel R] (xs ys : List α) : Decidable (Rearranged R xs ys) :=
  decidable_of_iff ((∀ x ∈ xs, ∃ y ∈ ys, R x y) ∧ ∀ y ∈ ys, ∃ x ∈ xs, R x y)
    ⟨fun ⟨forth, back⟩ => ⟨forth, back⟩, fun h => ⟨h.forth, h.back⟩⟩

theorem of_mem_iff (hR : ∀ x, R x x) (h : ∀ x, x ∈ xs ↔ x ∈ ys) : Rearranged R xs ys :=
  ⟨fun x hx => ⟨x, (h x).1 hx, hR x⟩, fun y hy => ⟨y, (h y).2 hy, hR y⟩⟩

theorem refl (hR : ∀ x, R x x) (xs : List α) : Rearranged R xs xs := of_mem_iff hR fun _ => Iff.rfl

theorem symm (hR : ∀ {x y}, R x y → R y x) (h : Rearranged R xs ys) : Rearranged R ys xs := by
  constructor
  · intro y hy
    obtain ⟨x, hx, hxy⟩ := h.back y hy
    exact ⟨x, hx, hR hxy⟩
  · intro x hx
    obtain ⟨y, hy, hxy⟩ := h.forth x hx
    exact ⟨y, hy, hR hxy⟩

theorem mem_iff (h : Rearranged Eq xs ys) {x : α} : x ∈ xs ↔ x ∈ ys := by
  constructor
  · intro hx
    obtain ⟨y, hy, rfl⟩ := h.forth x hx
    exact hy
  · intro hx
    obtain ⟨y, hy, rfl⟩ := h.back x hx
    exact hy

theorem eq_nil_iff (h : Rearranged R xs ys) : xs = [] ↔ ys = [] := by
  constructor
  · rintro rfl
    exact List.eq_nil_iff_forall_not_mem.2 fun y hy => by simpa using h.back y hy
  · rintro rfl
    exact List.eq_nil_iff_forall_not_mem.2 fun x hx => by simpa using h.forth x hx

/-- **What asks for some entry cannot tell rearranged lists apart.** -/
theorem exists_iff {P : α → Prop} (h : Rearranged R xs ys) (hP : ∀ {x y}, R x y → (P x ↔ P y)) :
    (∃ x ∈ xs, P x) ↔ ∃ y ∈ ys, P y := by
  constructor
  · rintro ⟨x, hx, hPx⟩
    obtain ⟨y, hy, hxy⟩ := h.forth x hx
    exact ⟨y, hy, (hP hxy).1 hPx⟩
  · rintro ⟨y, hy, hPy⟩
    obtain ⟨x, hx, hxy⟩ := h.back y hy
    exact ⟨x, hx, (hP hxy).2 hPy⟩

theorem forall_iff {P : α → Prop} (h : Rearranged R xs ys) (hP : ∀ {x y}, R x y → (P x ↔ P y)) :
    (∀ x ∈ xs, P x) ↔ ∀ y ∈ ys, P y := by
  constructor
  · intro hall y hy
    obtain ⟨x, hx, hxy⟩ := h.back y hy
    exact (hP hxy).1 (hall x hx)
  · intro hall x hx
    obtain ⟨y, hy, hxy⟩ := h.forth x hx
    exact (hP hxy).2 (hall y hy)

end Rearranged

end Firewall
