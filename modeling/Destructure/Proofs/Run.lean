namespace Destructure.Run

variable {ε α β σ : Type}

theorem bind_eq_ok {x : Except ε α} {f : α → Except ε β} {b : β} :
    (x >>= f) = .ok b ↔ ∃ a, x = .ok a ∧ f a = .ok b := by
  cases x with
  | error e =>
    constructor
    · intro h
      cases h
    · rintro ⟨a, ha, -⟩
      cases ha
  | ok a =>
    constructor
    · exact fun h => ⟨a, rfl, h⟩
    · rintro ⟨a', ha, h⟩
      cases ha
      exact h

theorem bind_eq_error {x : Except ε α} {f : α → Except ε β} {e : ε} :
    (x >>= f) = .error e ↔ x = .error e ∨ ∃ a, x = .ok a ∧ f a = .error e := by
  cases x with
  | error e' =>
    constructor
    · intro h
      cases h
      exact Or.inl rfl
    · rintro (h | ⟨a, ha, -⟩)
      · cases h
        rfl
      · cases ha
  | ok a =>
    constructor
    · exact fun h => Or.inr ⟨a, rfl, h⟩
    · rintro (h | ⟨a', ha, h⟩)
      · cases h
      · cases ha
        exact h

theorem map_eq_ok {x : Except ε α} {f : α → β} {b : β} :
    x.map f = .ok b ↔ ∃ a, x = .ok a ∧ f a = b := by
  cases x with
  | error e =>
    constructor
    · intro h
      cases h
    · rintro ⟨a, ha, -⟩
      cases ha
  | ok a =>
    constructor
    · intro h
      exact ⟨a, rfl, Except.ok.inj h⟩
    · rintro ⟨a', ha, h⟩
      cases ha
      exact congrArg Except.ok h

theorem toOption_eq_some {x : Except ε α} {a : α} : x.toOption = some a ↔ x = .ok a := by
  cases x <;> simp [Except.toOption]

theorem foldlM_cons_eq_ok {step : σ → α → Except ε σ} {s t : σ} {a : α} {as : List α} :
    (a :: as).foldlM step s = .ok t ↔ ∃ u, step s a = .ok u ∧ as.foldlM step u = .ok t := by
  rw [List.foldlM_cons, bind_eq_ok]

theorem foldlM_append_eq_ok {step : σ → α → Except ε σ} {s t : σ} {as bs : List α} :
    (as ++ bs).foldlM step s = .ok t ↔
      ∃ u, as.foldlM step s = .ok u ∧ bs.foldlM step u = .ok t := by
  rw [List.foldlM_append, bind_eq_ok]

theorem foldlM_cons_of_ok {step : σ → α → Except ε σ} {s t : σ} {a : α} (h : step s a = .ok t)
    (as : List α) : (a :: as).foldlM step s = as.foldlM step t := by
  rw [List.foldlM_cons, h]
  rfl

theorem foldlM_append_of_ok {step : σ → α → Except ε σ} {s t : σ} {as : List α}
    (h : as.foldlM step s = .ok t) (bs : List α) :
    (as ++ bs).foldlM step s = bs.foldlM step t := by
  rw [List.foldlM_append, h]
  rfl

/-- What every step keeps, given that it takes an element of the list, the run keeps. -/
theorem invariant {step : σ → α → Except ε σ} {P : σ → Prop} {as : List α}
    (hstep : ∀ s t, ∀ a ∈ as, P s → step s a = .ok t → P t) {s t : σ} (hs : P s)
    (h : as.foldlM step s = .ok t) : P t := by
  induction as generalizing s with
  | nil =>
    cases h
    exact hs
  | cons a as ih =>
    obtain ⟨u, hu, hr⟩ := foldlM_cons_eq_ok.mp h
    refine ih (fun s t b hb => hstep s t b (List.mem_cons_of_mem _ hb)) ?_ hr
    exact hstep s u a (List.mem_cons_self ..) hs hu

structure FailsOnly (P : ε → Prop) (x : Except ε α) : Prop where
  of_error : ∀ e, x = .error e → P e

section FailsOnly

variable {P : ε → Prop}

theorem failsOnly_ok (a : α) : FailsOnly P (.ok a : Except ε α) :=
  ⟨fun _ h => nomatch h⟩

theorem failsOnly_error {e : ε} (h : P e) : FailsOnly P (.error e : Except ε α) := by
  constructor
  rintro e' ⟨⟩
  exact h

theorem FailsOnly.bind {x : Except ε α} {f : α → Except ε β} (hx : FailsOnly P x)
    (hf : ∀ a, FailsOnly P (f a)) : FailsOnly P (x >>= f) := by
  constructor
  intro e h
  rcases bind_eq_error.mp h with h | ⟨a, -, h⟩
  · exact hx.of_error e h
  · exact (hf a).of_error e h

theorem FailsOnly.map {x : Except ε α} (hx : FailsOnly P x) (f : α → β) :
    FailsOnly P (x.map f) := by
  cases x with
  | error e => exact failsOnly_error (hx.of_error e rfl)
  | ok a => exact failsOnly_ok (f a)

theorem failsOnly_foldlM {step : σ → α → Except ε σ} (hstep : ∀ s a, FailsOnly P (step s a))
    (as : List α) (s : σ) : FailsOnly P (as.foldlM step s) := by
  induction as generalizing s with
  | nil => exact failsOnly_ok s
  | cons a as ih =>
    rw [List.foldlM_cons]
    exact (hstep s a).bind ih

end FailsOnly

end Destructure.Run
