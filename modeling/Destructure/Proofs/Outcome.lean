import Destructure.Proofs.Run

namespace Destructure.Run

variable {ε α β σ : Type} {P : α → Prop} {Q : ε → Prop}

theorem map_eq_error {x : Except ε α} {f : α → β} {e : ε} : x.map f = .error e ↔ x = .error e := by
  cases x with
  | ok a => exact ⟨fun h => (nomatch h), fun h => (nomatch h)⟩
  | error e' =>
    constructor
    · intro h
      cases h
      rfl
    · intro h
      cases h
      rfl

structure Meets (P : α → Prop) (Q : ε → Prop) (x : Except ε α) : Prop where
  of_ok : ∀ a, x = .ok a → P a
  of_error : ∀ e, x = .error e → Q e

theorem meets_ok {a : α} (h : P a) : Meets P Q (.ok a : Except ε α) where
  of_ok _ ha := by
    cases ha
    exact h
  of_error _ he := nomatch he

theorem meets_error {e : ε} (h : Q e) : Meets P Q (.error e : Except ε α) where
  of_ok _ ha := nomatch ha
  of_error _ he := by
    cases he
    exact h

theorem Meets.imp {P' : α → Prop} {Q' : ε → Prop} {x : Except ε α} (h : Meets P Q x)
    (hP : ∀ a, P a → P' a) (hQ : ∀ e, Q e → Q' e) : Meets P' Q' x where
  of_ok a ha := hP a (h.of_ok a ha)
  of_error e he := hQ e (h.of_error e he)

/-- What comes next may rely on what is known of the result. -/
theorem Meets.bind {P' : β → Prop} {x : Except ε α} {f : α → Except ε β} (hx : Meets P Q x)
    (hf : ∀ a, P a → Meets P' Q (f a)) : Meets P' Q (x >>= f) := by
  constructor
  · intro b h
    obtain ⟨a, ha, hb⟩ := bind_eq_ok.mp h
    exact (hf a (hx.of_ok a ha)).of_ok b hb
  · intro e h
    rcases bind_eq_error.mp h with he | ⟨a, ha, he⟩
    · exact hx.of_error e he
    · exact (hf a (hx.of_ok a ha)).of_error e he

/-- A run keeps what each of its steps keeps, up to the first failure. -/
theorem meets_foldlM {P : σ → Prop} {R : α → Prop} {step : σ → α → Except ε σ} {as : List α}
    (hstep : ∀ s a, P s → R a → Meets P Q (step s a)) (has : ∀ a ∈ as, R a) {s : σ} (hs : P s) :
    Meets P Q (as.foldlM step s) := by
  induction as generalizing s with
  | nil => exact meets_ok hs
  | cons a as ih =>
    obtain ⟨ha, has⟩ := List.forall_mem_cons.mp has
    rw [List.foldlM_cons]
    exact (hstep s a hs ha).bind fun t ht => ih has ht

/-- A run fails at one of its elements, after the elements before it. -/
theorem exists_of_foldlM_eq_error {step : σ → α → Except ε σ} {as : List α} {s : σ} {e : ε}
    (h : as.foldlM step s = .error e) :
    ∃ before a after t, as = before ++ a :: after ∧ before.foldlM step s = .ok t ∧
      step t a = .error e := by
  induction as generalizing s with
  | nil => cases h
  | cons a as ih =>
    rw [List.foldlM_cons] at h
    rcases bind_eq_error.mp h with ha | ⟨u, hu, h⟩
    · exact ⟨[], a, as, s, rfl, rfl, ha⟩
    · obtain ⟨before, b, after, t, rfl, hbefore, hb⟩ := ih h
      exact ⟨a :: before, b, after, t, rfl, foldlM_cons_eq_ok.mpr ⟨u, hu, hbefore⟩, hb⟩

end Destructure.Run
