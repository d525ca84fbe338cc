import Destructure.Value.Equality
import Mathlib.Data.List.Forall2

namespace Destructure

namespace Number

variable {a b : Number}

theorem compare?_swap (a b : Number) : b.compare? a = (a.compare? b).map Ordering.swap := by
  cases a with
  | integer m =>
    cases b with
    | integer n =>
      have hswap : compare n m = (compare m n).swap := Std.OrientedCmp.eq_swap
      exact congrArg some hswap
    | float y => rfl
  | float x =>
    cases b with
    | integer n =>
      have hswap (order : Option Ordering) : (order.map Ordering.swap).map Ordering.swap = order := by
        cases order with
        | none => rfl
        | some o => exact congrArg some Ordering.swap_swap
      exact (hswap (Binary64.compareInt? n x)).symm
    | float y =>
      have hswap : compare y.signedUnits x.signedUnits =
          (compare x.signedUnits y.signedUnits).swap := Std.OrientedCmp.eq_swap
      change y.compare? x = (x.compare? y).map Ordering.swap
      unfold Binary64.compare?
      rw [Bool.or_comm, hswap]
      split
      · rfl
      · rfl

theorem eq_symm (a b : Number) : a.eq b = b.eq a := by
  unfold eq
  rw [compare?_swap a b]
  cases a.compare? b with
  | none => rfl
  | some order => cases order <;> rfl

/-- A floating-point number equals itself, unless it is no number. -/
theorem eq_self {x : Binary64} (h : x.isNaN = false) : (Number.float x).eq (.float x) = true := by
  change (x.compare? x == some .eq) = true
  have hsame : compare x.signedUnits x.signedUnits = .eq := Std.ReflCmp.compare_self
  rw [Binary64.compare?, h, hsame]
  rfl

end Number

namespace Value

/-- Two comparisons, one after the other, find what they compare equal just if both do. -/
theorem guarded_eq_ok_true {ε : Type} {first second : Except ε Bool} :
    (do if ← first then second else return false) = .ok true ↔
      first = .ok true ∧ second = .ok true := by
  cases first with
  | error e => exact iff_of_false (fun h => nomatch h) fun h => nomatch h.1
  | ok answer =>
    cases answer with
    | true => exact ⟨fun h => ⟨rfl, h⟩, fun h => h.2⟩
    | false => exact iff_of_false (fun h => nomatch h) fun h => nomatch h.1

/-- What differs in one way is not compared in another. -/
theorem ite_eq_ok_true_iff {ε : Type} {p : Prop} [Decidable p] {rest : Except ε Bool} :
    (if p then rest else .ok false) = .ok true ↔ p ∧ rest = .ok true := by
  split
  · rename_i hp
    exact (and_iff_right hp).symm
  · rename_i hp
    exact iff_of_false (fun h => nomatch h) fun h => hp h.1

/-- A comparison of rows of the same length that goes element by element. -/
theorem length_eq_and_iff_forall₂ {α β : Type} {R : α → β → Prop} {P : List α → List β → Prop}
    (nil : P [] []) (cons : ∀ a b as bs, P (a :: as) (b :: bs) ↔ R a b ∧ P as bs) {as : List α}
    {bs : List β} : as.length = bs.length ∧ P as bs ↔ List.Forall₂ R as bs := by
  induction as generalizing bs with
  | nil =>
    cases bs with
    | nil => exact iff_of_true ⟨rfl, nil⟩ .nil
    | cons b bs => exact iff_of_false (fun h => nomatch h.1) fun h => nomatch h
  | cons a as ih =>
    cases bs with
    | nil => exact iff_of_false (fun h => nomatch h.1) fun h => nomatch h
    | cons b bs =>
      rw [List.forall₂_cons, ← ih, cons, List.length_cons, List.length_cons,
        Nat.add_right_cancel_iff]
      exact and_left_comm

/-- Scalars are compared alike in either order. -/
theorem scalarsEqual_symm (a b : Value) : scalarsEqual a b = scalarsEqual b a := by
  cases a with
  | null => cases b <;> rfl
  | boolean p =>
    cases b with
    | boolean q => exact BEq.comm
    | _ => rfl
  | number m =>
    cases b with
    | number n => exact Number.eq_symm m n
    | _ => rfl
  | text s =>
    cases b with
    | text t => exact BEq.comm
    | _ => rfl
  | _ => cases b <;> rfl

/-- Equality with a scalar is equality of scalars, unless the equality of an object takes the object
for the scalar. -/
theorem equal_of_isScalar (a : Value) {b : Value} (hb : b.isScalar = true) :
    equal a b = .ok (scalarsEqual b a || b.scalar?.any a.claims) := by
  rw [scalarsEqual_symm]
  cases b with
  | null | boolean _ | number _ | text _ =>
    cases a with
    | null | boolean _ | number _ | text _ => exact congrArg Except.ok (Bool.or_false _).symm
    | object type attributes inherited faults =>
      obtain ⟨name, writing, likeness⟩ := type
      cases likeness with
      | attributes => rfl
      | own identity equals => exact congrArg Except.ok (Bool.or_false _)
    | _ => rfl
  | _ => cases hb

end Value

end Destructure
