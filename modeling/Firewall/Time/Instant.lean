/-
Instants of coordinated universal time.

An instant is a count of seconds since the first of January 1970 and a count of
nanoseconds.  A leap second is told in the nanoseconds: it is the last second of
its minute with a thousand million added, so instants keep their order and days
keep their length.  Waiting a whole number of seconds from inside a leap second
leaves it behind.
-/
namespace Firewall

/-- A point in time. -/
structure Instant where
  /-- Seconds since the beginning of 1970, leap seconds not counted. -/
  second : Int
  /-- Nanoseconds into the second; within a leap second, a thousand million more. -/
  nano : Nat
  nano_lt : nano < 1_000_000_000 ∨ nano < 2_000_000_000 ∧ second % 60 = 59
  deriving DecidableEq

namespace Instant

instance : Repr Instant := ⟨fun t _ => repr t.second ++ "." ++ repr t.nano⟩

instance : Inhabited Instant := ⟨0, 0, .inl (by decide)⟩

instance : Ord Instant := ⟨compareLex (compareOn second) (compareOn nano)⟩

instance : Std.TransOrd Instant :=
  inferInstanceAs (Std.TransCmp (compareLex (compareOn second) (compareOn nano)))

theorem ext {s t : Instant} (hs : s.second = t.second) (hn : s.nano = t.nano) : s = t := by
  cases s; cases t; cases hs; cases hn; rfl

instance : Std.LawfulEqOrd Instant where
  compare_self {t} := by
    show compareLex (compareOn second) (compareOn nano) t t = .eq
    exact Std.ReflCmp.compare_self
  eq_of_compare {s t} h := by
    obtain ⟨hs, hn⟩ := compareLex_eq_eq.1
      (show compareLex (compareOn second) (compareOn nano) s t = .eq from h)
    exact ext (Std.LawfulEqOrd.eq_of_compare hs) (Std.LawfulEqOrd.eq_of_compare hn)

/-- One instant is before another. -/
instance : LT Instant :=
  ⟨fun s t => s.second < t.second ∨ s.second = t.second ∧ s.nano < t.nano⟩

/-- One instant is not after another. -/
instance : LE Instant :=
  ⟨fun s t => s.second < t.second ∨ s.second = t.second ∧ s.nano ≤ t.nano⟩

theorem lt_def {s t : Instant} :
    s < t ↔ s.second < t.second ∨ s.second = t.second ∧ s.nano < t.nano := Iff.rfl

theorem le_def {s t : Instant} :
    s ≤ t ↔ s.second < t.second ∨ s.second = t.second ∧ s.nano ≤ t.nano := Iff.rfl

theorem le_refl (t : Instant) : t ≤ t := .inr ⟨rfl, Nat.le_refl _⟩

theorem le_of_lt {s t : Instant} (h : s < t) : s ≤ t := by
  rw [lt_def] at h
  rw [le_def]
  omega

theorem not_le {s t : Instant} : ¬ s ≤ t ↔ t < s := by
  rw [le_def, lt_def]
  omega

theorem lt_of_le_of_lt {s t u : Instant} (h : s ≤ t) (h' : t < u) : s < u := by
  rw [le_def] at h
  rw [lt_def] at h' ⊢
  omega

theorem lt_of_lt_of_le {s t u : Instant} (h : s < t) (h' : t ≤ u) : s < u := by
  rw [lt_def] at h ⊢
  rw [le_def] at h'
  omega

instance (s t : Instant) : Decidable (s < t) := decidable_of_iff _ lt_def.symm
instance (s t : Instant) : Decidable (s ≤ t) := decidable_of_iff _ le_def.symm

/-- A whole second. -/
def ofSeconds (s : Int) : Instant := ⟨s, 0, .inl (by decide)⟩

/-- The instant a number of seconds later.  Within a leap second the seconds are counted from its
start, which is already one second after the second it extends. -/
def addSeconds (t : Instant) (n : Nat) : Instant :=
  if h : t.nano < 1_000_000_000 then ⟨t.second + n, t.nano, .inl h⟩
  else if n = 0 then t
  else ⟨t.second + n, t.nano - 1_000_000_000, .inl (by have := t.nano_lt; omega)⟩

@[simp] theorem addSeconds_zero (t : Instant) : t.addSeconds 0 = t := by
  unfold addSeconds
  split
  · exact ext (Int.add_zero _) rfl
  · rfl

theorem lt_addSeconds_iff {t : Instant} {n : Nat} : t < t.addSeconds n ↔ n ≠ 0 := by
  constructor
  · rintro h rfl
    rw [addSeconds_zero, lt_def] at h
    omega
  · intro h
    unfold addSeconds
    rw [lt_def]
    split
    · simp only; omega
    · simp only; omega

end Instant

end Firewall
