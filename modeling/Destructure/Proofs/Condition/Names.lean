import Destructure.Proofs.Condition.Step
import Destructure.Proofs.Scope

namespace Destructure

namespace Expression

/-- Two scopes that give the names of an expression the same values give it the same value, or the
same failure. -/
theorem evaluate_congr {s t : Scope} (e : Expression)
    (hn : ∀ name ∈ e.names, name ∈ s.names) (h : ∀ name ∈ e.names, s.get? name = t.get? name) :
    e.evaluate s = e.evaluate t := by
  induction e with
  | constant value => rfl
  | «variable» name =>
    have hm : s.get? name ≠ none := by
      intro hg
      exact (Scope.get?_eq_none_iff s name).mp hg (hn name (List.mem_singleton.mpr rfl))
    obtain ⟨value, hs⟩ := Option.ne_none_iff_exists'.mp hm
    have ht : t.get? name = some value := by
      rw [← h name (List.mem_singleton.mpr rfl), hs]
    rw [evaluate, evaluate, hs, ht]
  | negation operand ih => rw [evaluate, evaluate, ih hn h]
  | minus operand ih => rw [evaluate, evaluate, ih hn h]
  | binary operator left right ihl ihr =>
    have hl := ihl (fun name hm => hn name (List.mem_append_left _ hm))
      (fun name hm => h name (List.mem_append_left _ hm))
    have hr := ihr (fun name hm => hn name (List.mem_append_right _ hm))
      (fun name hm => h name (List.mem_append_right _ hm))
    cases operator <;> simp only [evaluate, hl, hr]

end Expression

namespace Condition

def Frame.names : Frame → List String
  | .binary _ left => left.names
  | _ => []

namespace Reading

def names (r : Reading) : List String :=
  r.frames.flatMap Frame.names ++ r.operand.elim [] Expression.names

theorem names_complete (frames : List Frame) (e : Expression) :
    (complete frames e).names = frames.flatMap Frame.names ++ e.names := by
  induction frames generalizing e with
  | nil => rfl
  | cons frame rest ih =>
    cases frame with
    | negation => exact ih (.negation e)
    | minus => exact ih (.minus e)
    | binary operator left => rfl
    | parenthesis position => rfl

theorem names_reduce (precedence : Nat) (frames : List Frame) (e : Expression) (name : String) :
    name ∈ (reduce precedence frames e).1.flatMap Frame.names ++
        (reduce precedence frames e).2.names ↔
      name ∈ frames.flatMap Frame.names ++ e.names := by
  induction frames generalizing e with
  | nil => rfl
  | cons frame rest ih =>
    cases frame with
    | binary operator left =>
      rw [reduce]
      split
      · rw [ih]
        simp only [Frame.names, Expression.names, List.flatMap_cons, List.mem_append, or_assoc,
          or_left_comm]
      · rfl
    | negation => rfl
    | minus => rfl
    | parenthesis position => rfl

variable {source : Source} {r next : Reading} {t : Token} {e : Expression} {name : String}

theorem Advances.mem_names (h : Advances source t r next) (hm : name ∈ next.names) :
    name ∈ r.names ∨ name ∈ source.names := by
  cases h with
  | openParen _ | negation _ | minus _ => exact Or.inl (by simpa [names, Frame.names] using hm)
  | constant _ =>
    rw [names_complete] at hm
    exact Or.inl hm
  | name _ hn =>
    rw [names_complete, List.mem_append] at hm
    rcases hm with hm | hm
    · exact Or.inl (List.mem_append_left _ hm)
    · rw [Expression.names, List.mem_singleton] at hm
      exact Or.inr (hm ▸ hn)
  | @operator frames outer e left op _ hr =>
    left
    have hreduced := names_reduce op.precedence frames e name
    rw [hr] at hreduced
    simp only [names, Frame.names, Option.elim_none, List.append_nil, List.flatMap_cons,
      List.mem_append] at hm
    exact hreduced.mp (List.mem_append.mpr hm.symm)
  | @closeParen frames outer e inner position _ hr =>
    have hreduced := names_reduce 0 frames e name
    rw [hr] at hreduced
    rw [names_complete] at hm
    exact Or.inl (hreduced.mp hm)

theorem Ends.mem_names (h : Ends r e) (hm : name ∈ e.names) : name ∈ r.names := by
  cases h with
  | @operand frames operand _ =>
    exact (names_reduce 0 frames operand name).mp (List.mem_append_right _ hm)

end Reading

/-- An expression mentions only names that it may mention. -/
theorem names_parse {source : Source} {tokens : List Token} {e : Expression}
    (h : parse source tokens = .ok e) {name : String} (hm : name ∈ e.names) :
    name ∈ source.names := by
  unfold parse at h
  split at h
  · cases h
  · obtain ⟨r, hr, hf⟩ := Run.bind_eq_ok.mp h
    have hw : ∀ name ∈ r.names, name ∈ source.names := by
      refine Run.invariant (P := fun r : Reading => ∀ name ∈ r.names, name ∈ source.names) ?_ ?_ hr
      · intro s t a _ hs ht name hn
        exact ((Reading.step_eq_ok.mp ht).mem_names hn).elim (hs name) id
      · intro name hn
        cases hn
    exact hw name ((Reading.meets_finish.of_ok e hf).mem_names hm)

end Condition

end Destructure
