import Destructure.Proofs.Number.Exact
import Mathlib.Order.ConditionallyCompleteLattice.Basic
import Mathlib.Data.Int.ConditionallyCompleteOrder

namespace Destructure

namespace ExactValue

def place : ExactValue → WithBot (WithTop Int)
  | .finite units => ((units : WithTop Int) : WithBot (WithTop Int))
  | .infinite negative => if negative then ⊥ else ⊤

@[simp] theorem place_finite_lt_finite {m n : Int} : (finite m).place < (finite n).place ↔ m < n :=
  WithBot.coe_lt_coe.trans WithTop.coe_lt_coe

@[simp] theorem place_finite_lt_infinite {m : Int} {negative : Bool} :
    (finite m).place < (infinite negative).place ↔ negative = false := by
  cases negative with
  | true => exact iff_of_false not_lt_bot Bool.noConfusion
  | false => exact iff_of_true (WithBot.coe_lt_coe.mpr (WithTop.coe_lt_top m)) rfl

@[simp] theorem place_infinite_lt_finite {negative : Bool} {n : Int} :
    (infinite negative).place < (finite n).place ↔ negative = true := by
  cases negative with
  | true => exact iff_of_true (WithBot.bot_lt_coe _) rfl
  | false => exact iff_of_false not_top_lt Bool.noConfusion

@[simp] theorem place_infinite_lt_infinite {first second : Bool} :
    (infinite first).place < (infinite second).place ↔ first = true ∧ second = false := by
  cases first <;> cases second <;> simp [place, bot_lt_top]

end ExactValue

/-- Pairs that are ordered alike compare alike. -/
theorem compare_congr {α β : Type} [LinearOrder α] [LinearOrder β] {a b : α} {c d : β}
    (h : a < b ↔ c < d) (h' : b < a ↔ d < c) : compare a b = compare c d := by
  rcases lt_trichotomy c d with hlt | rfl | hgt
  · rw [compare_lt_iff_lt.mpr hlt, compare_lt_iff_lt.mpr (h.mpr hlt)]
  · have heq : a = b := le_antisymm (not_lt.mp fun hb => lt_irrefl c (h'.mp hb))
      (not_lt.mp fun ha => lt_irrefl c (h.mp ha))
    rw [compare_eq_iff_eq.mpr rfl, compare_eq_iff_eq.mpr heq]
  · rw [compare_gt_iff_gt.mpr hgt, compare_gt_iff_gt.mpr (h'.mpr hgt)]

namespace Binary64

variable {x y : Binary64} {v w : ExactValue}

/-- What has an exact value is a number. -/
theorem isNaN_of_exactValue? (h : x.exactValue? = some v) : x.isNaN = false := by
  rw [← Bool.not_eq_true]
  intro hn
  rw [exactValue?, if_pos hn] at h
  cases h

/-- The number of units by which a value is compared with others: an infinity has more than whatever
is finite. -/
theorem signedUnits_cases (h : x.exactValue? = some v) :
    (v = .finite x.signedUnits ∧ x.signedUnits.natAbs < unitsOf infinityMagnitude) ∨
      ∃ negative, v = .infinite negative ∧
        x.signedUnits = if negative then -(unitsOf infinityMagnitude : Int)
          else unitsOf infinityMagnitude := by
  have hn := isNaN_of_exactValue? h
  rw [exactValue?, hn, if_neg Bool.false_ne_true] at h
  cases hi : x.isInfinite with
  | true =>
    rw [hi, if_pos rfl] at h
    refine Or.inr ⟨x.negative, (Option.some.inj h).symm, ?_⟩
    rw [signedUnits, units_of_isInfinite hi]
  | false =>
    rw [hi, if_neg Bool.false_ne_true] at h
    refine Or.inl ⟨(Option.some.inj h).symm, ?_⟩
    rw [natAbs_signedUnits]
    exact unitsOf_lt_unitsOf (of_decide_eq_true (isFinite_iff.mpr ⟨hn, hi⟩))

theorem signedUnits_lt_iff (hx : x.exactValue? = some v) (hy : y.exactValue? = some w) :
    x.signedUnits < y.signedUnits ↔ v.place < w.place := by
  have hpos : 0 < unitsOf infinityMagnitude := by decide +kernel
  rcases signedUnits_cases hx with ⟨rfl, hm⟩ | ⟨first, rfl, hm⟩
  · rcases signedUnits_cases hy with ⟨rfl, hn⟩ | ⟨second, rfl, hn⟩
    · exact ExactValue.place_finite_lt_finite.symm
    · rw [ExactValue.place_finite_lt_infinite]
      generalize unitsOf infinityMagnitude = units at *
      cases second <;> simp at hn ⊢ <;> omega
  · rcases signedUnits_cases hy with ⟨rfl, hn⟩ | ⟨second, rfl, hn⟩
    · rw [ExactValue.place_infinite_lt_finite]
      generalize unitsOf infinityMagnitude = units at *
      cases first <;> simp at hm ⊢ <;> omega
    · rw [ExactValue.place_infinite_lt_infinite]
      generalize unitsOf infinityMagnitude = units at *
      cases first <;> cases second <;> simp at hm hn ⊢ <;> omega

theorem compare?_of_exactValue? (hx : x.exactValue? = some v) (hy : y.exactValue? = some w) :
    x.compare? y = some (compare v.place w.place) := by
  rw [compare?, isNaN_of_exactValue? hx, isNaN_of_exactValue? hy, Bool.or_self,
    if_neg Bool.false_ne_true,
    compare_congr (signedUnits_lt_iff hx hy) (signedUnits_lt_iff hy hx)]

/-- An integer is compared with a floating-point number without being rounded to one. -/
theorem compareInt?_of_exactValue? (n : Int) (hy : y.exactValue? = some w) :
    compareInt? n y = some (compare (ExactValue.finite (n * unitsInOne)).place w.place) := by
  have hn := isNaN_of_exactValue? hy
  rw [exactValue?, hn, if_neg Bool.false_ne_true] at hy
  unfold compareInt?
  rw [hn, if_neg Bool.false_ne_true]
  generalize n * (unitsInOne : Int) = units
  cases hi : y.isInfinite with
  | true =>
    rw [hi, if_pos rfl] at hy
    obtain rfl := Option.some.inj hy
    rw [if_pos rfl]
    cases hs : y.negative with
    | true =>
      rw [compare_gt_iff_gt.mpr (ExactValue.place_infinite_lt_finite.mpr rfl)]
      rfl
    | false =>
      rw [compare_lt_iff_lt.mpr (ExactValue.place_finite_lt_infinite.mpr rfl)]
      rfl
  | false =>
    rw [hi, if_neg Bool.false_ne_true] at hy
    obtain rfl := Option.some.inj hy
    rw [if_neg Bool.false_ne_true]
    exact congrArg some (compare_congr ExactValue.place_finite_lt_finite.symm
      ExactValue.place_finite_lt_finite.symm)

end Binary64

namespace Number

variable {a b : Number} {v w : ExactValue}

/-- Integers are ordered like the numbers of units that they have. -/
theorem compare_integer (m n : Int) :
    compare m n = compare (ExactValue.finite (m * Binary64.unitsInOne)).place
      (ExactValue.finite (n * Binary64.unitsInOne)).place := by
  have hpos : (0 : Int) < Binary64.unitsInOne := Int.natCast_pos.mpr (Binary64.twoTo_pos _)
  have hscale (m n : Int) :
      m < n ↔ (ExactValue.finite (m * Binary64.unitsInOne)).place <
        (ExactValue.finite (n * Binary64.unitsInOne)).place := by
    rw [ExactValue.place_finite_lt_finite]
    exact (Int.mul_lt_mul_right hpos).symm
  exact compare_congr (hscale m n) (hscale n m)

/-- Numbers are compared by their exact values. -/
theorem compare?_of_exactValue? (ha : a.exactValue? = some v) (hb : b.exactValue? = some w) :
    a.compare? b = some (compare v.place w.place) := by
  cases a with
  | integer m =>
    obtain rfl := Option.some.inj ha
    cases b with
    | integer n =>
      obtain rfl := Option.some.inj hb
      exact congrArg some (compare_integer m n)
    | float y => exact Binary64.compareInt?_of_exactValue? m hb
  | float x =>
    cases b with
    | integer n =>
      obtain rfl := Option.some.inj hb
      rw [compare?, Binary64.compareInt?_of_exactValue? n ha]
      exact congrArg some Std.OrientedCmp.eq_swap.symm
    | float y => exact Binary64.compare?_of_exactValue? ha hb

example :
    (Number.float (Binary64.ofDecimal false 9007199254740992 0)).compare?
      (.integer 9007199254740993) = some .lt ∧
    (Number.integer 9007199254740993).compare?
      (.float (Binary64.ofDecimal false 9007199254740994 0)) = some .lt := by
  decide +kernel

end Number

end Destructure
