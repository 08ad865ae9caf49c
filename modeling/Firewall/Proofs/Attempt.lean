/-
Computations that may be refused.

A computation in steps succeeds when every step does, and what it gives is what the
last step gives.  A fold in which every step keeps an invariant keeps it too; the
invariant may speak of the elements that are done.
-/
namespace Firewall.Attempt

variable {ε ε' α β σ : Type}

theorem bind_eq_ok {x : Except ε α} {f : α → Except ε β} {b : β} :
    x >>= f = .ok b ↔ ∃ a, x = .ok a ∧ f a = .ok b := by
  cases x with
  | error e => simp [bind, Except.bind]
  | ok a => simp [bind, Except.bind]

theorem mapError_eq_ok {x : Except ε α} {f : ε → ε'} {a : α} :
    x.mapError f = .ok a ↔ x = .ok a := by
  constructor
  · intro h
    cases x with
    | error e => exact nomatch h
    | ok b =>
      cases h
      rfl
  · rintro rfl
    rfl

/-- A sequence is refused where its first part is, or its second after the first succeeded. -/
theorem bind_eq_error {x : Except ε α} {f : α → Except ε β} {e : ε} :
    x >>= f = .error e ↔ x = .error e ∨ ∃ a, x = .ok a ∧ f a = .error e := by
  cases x with
  | error e => simp [bind, Except.bind]
  | ok a => simp [bind, Except.bind]

theorem map_eq_error {x : Except ε α} {f : α → β} {e : ε} : x.map f = .error e ↔ x = .error e := by
  cases x <;> simp [Except.map]

theorem map_eq_ok {x : Except ε α} {f : α → β} {b : β} :
    x.map f = .ok b ↔ ∃ a, x = .ok a ∧ f a = b := by
  cases x <;> simp [Except.map]

theorem isOk_iff {x : Except ε α} : x.isOk = true ↔ ∃ a, x = .ok a := by
  cases x with
  | error e => simp [Except.isOk, Except.toBool]
  | ok a => simp [Except.isOk, Except.toBool]

/-- A traversal that succeeds gives what the elements give, as many as there are. -/
theorem of_mapM_eq_ok {f : α → Except ε β} {l : List α} {ys : List β} (h : l.mapM f = .ok ys) :
    ys.length = l.length ∧ ∀ y, y ∈ ys ↔ ∃ x ∈ l, f x = .ok y := by
  induction l generalizing ys with
  | nil =>
    rw [List.mapM_nil] at h
    cases h
    simp
  | cons x rest ih =>
    rw [List.mapM_cons, bind_eq_ok] at h
    obtain ⟨y, hy, h⟩ := h
    obtain ⟨zs, hzs, h⟩ := bind_eq_ok.1 h
    cases h
    obtain ⟨hlength, hmem⟩ := ih hzs
    refine ⟨congrArg Nat.succ hlength, fun z => ?_⟩
    simp only [List.mem_cons, hmem, or_and_right, exists_or, exists_eq_left, hy, Except.ok.injEq]
    exact or_congr_left eq_comm

/-- What a traversal gives has a property somewhere exactly if what one
of the elements gives has it. -/
theorem exists_mem_iff_of_mapM_eq_ok {f : α → Except ε β} {l : List α} {ys : List β}
    (h : l.mapM f = .ok ys) (P : β → Prop) : (∃ y ∈ ys, P y) ↔ ∃ x ∈ l, ∃ y, f x = .ok y ∧ P y := by
  obtain ⟨-, hmem⟩ := of_mapM_eq_ok h
  simp only [hmem]
  constructor
  · rintro ⟨y, ⟨x, hx, hy⟩, hP⟩
    exact ⟨x, hx, y, hy, hP⟩
  · rintro ⟨x, hx, y, hy, hP⟩
    exact ⟨y, ⟨x, hx, hy⟩, hP⟩

/-- **A fold that succeeds keeps what its steps keep.** -/
theorem foldlM_induction {step : σ → α → Except ε σ} {motive : List α → σ → Prop}
    (hstep : ∀ {done a s s'}, motive done s → step s a = .ok s' → motive (done ++ [a]) s')
    {l : List α} {s s' : σ} (h : l.foldlM step s = .ok s')
    (h0 : motive [] s) : motive l s' := by
  suffices hall : ∀ (l done : List α) (s : σ), motive done s → l.foldlM step s = .ok s' →
      motive (done ++ l) s' by
    simpa using hall l [] s h0 h
  intro l
  induction l with
  | nil =>
    intro done s hs h
    rw [List.foldlM_nil] at h
    cases h
    simpa using hs
  | cons a rest ih =>
    intro done s hs h
    rw [List.foldlM_cons, bind_eq_ok] at h
    obtain ⟨t, ht, hrest⟩ := h
    have hdone := ih (done ++ [a]) t (hstep hs ht) hrest
    rwa [List.append_assoc, List.singleton_append] at hdone

/-- **A fold succeeds when every step does,** if what a step takes does not
depend on what was done before. -/
theorem exists_foldlM_eq_ok_iff {step : σ → α → Except ε σ} {Takes : α → Prop}
    (h : ∀ s a, (∃ s', step s a = .ok s') ↔ Takes a) {l : List α} {s : σ} :
    (∃ s', l.foldlM step s = .ok s') ↔ ∀ a ∈ l, Takes a := by
  induction l generalizing s with
  | nil => simp [pure, Except.pure]
  | cons a rest ih =>
    simp only [List.foldlM_cons, bind_eq_ok, List.forall_mem_cons]
    constructor
    · rintro ⟨s', t, hstep, hrest⟩
      exact ⟨(h s a).1 ⟨t, hstep⟩, ih.1 ⟨s', hrest⟩⟩
    · rintro ⟨ha, hrest⟩
      obtain ⟨t, hstep⟩ := (h s a).2 ha
      obtain ⟨s', hs'⟩ := ih.2 hrest
      exact ⟨s', t, hstep, hs'⟩

theorem exists_mapM_eq_ok_iff {f : α → Except ε β} {l : List α} :
    (∃ ys, l.mapM f = .ok ys) ↔ ∀ x ∈ l, ∃ y, f x = .ok y := by
  induction l with
  | nil => simp [pure, Except.pure]
  | cons x rest ih =>
    simp only [List.mapM_cons, bind_eq_ok, List.forall_mem_cons, ← ih]
    constructor
    · rintro ⟨_, y, hy, zs, hzs, -⟩
      exact ⟨⟨y, hy⟩, zs, hzs⟩
    · rintro ⟨⟨y, hy⟩, zs, hzs⟩
      exact ⟨y :: zs, y, hy, zs, hzs, rfl⟩

/-- **A traversal is refused for the first element that is refused.** -/
theorem mapM_eq_error_iff {f : α → Except ε β} {l : List α} {e : ε} : l.mapM f = .error e ↔
    ∃ before x after, l = before ++ x :: after ∧ (∀ y ∈ before, ∃ b, f y = .ok b) ∧
    f x = .error e := by
  induction l with
  | nil => simp [pure, Except.pure]
  | cons x rest ih =>
    rw [List.mapM_cons, bind_eq_error]
    simp only [bind_eq_error, pure, Except.pure, reduceCtorEq, and_false,
      exists_false, or_false, ih]
    constructor
    · rintro (hx | ⟨b, hb, before, y, after, rfl, hbefore, hy⟩)
      · exact ⟨[], x, rest, rfl, by simp, hx⟩
      · exact ⟨x :: before, y, after, rfl, List.forall_mem_cons.2 ⟨⟨b, hb⟩, hbefore⟩, hy⟩
    · rintro ⟨before, y, after, hsplit, hbefore, hy⟩
      cases before with
      | nil =>
        obtain ⟨rfl, rfl⟩ := List.cons.inj hsplit
        exact .inl hy
      | cons z before =>
        obtain ⟨rfl, rfl⟩ := List.cons.inj hsplit
        obtain ⟨⟨b, hb⟩, hbefore⟩ := List.forall_mem_cons.1 hbefore
        exact .inr ⟨b, hb, before, y, after, rfl, hbefore, hy⟩

theorem mapM_map_eq_pure {m : Type → Type} [Monad m] [LawfulMonad m] {f : α → β} {g : β → m α}
    {l : List α} (h : ∀ a ∈ l, g (f a) = pure a) : (l.map f).mapM g = pure l := by
  induction l with
  | nil => exact List.mapM_nil
  | cons a rest ih =>
    have hrest := ih fun b hb => h b (List.mem_cons_of_mem a hb)
    simp [List.mapM_cons, h a List.mem_cons_self, hrest]

theorem mapM_map_eq_some {f : α → β} {g : β → Option α} {l : List α}
    (h : ∀ a ∈ l, g (f a) = some a) :
    (l.map f).mapM g = some l := mapM_map_eq_pure h

end Firewall.Attempt
