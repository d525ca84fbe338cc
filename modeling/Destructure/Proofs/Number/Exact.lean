import Destructure.Number
import Destructure.Proofs.Number.Binary64

namespace Destructure

inductive ExactValue
  | finite (units : Int)
  | infinite (negative : Bool)

namespace Binary64

def exactValue? (x : Binary64) : Option ExactValue :=
  if x.isNaN then none
  else if x.isInfinite then some (.infinite x.negative)
  else some (.finite x.signedUnits)

theorem natAbs_signedUnits (x : Binary64) : x.signedUnits.natAbs = x.units := by
  unfold signedUnits
  split
  · rw [Int.natAbs_neg, Int.natAbs_natCast]
  · exact Int.natAbs_natCast x.units

theorem units_of_isInfinite {x : Binary64} (h : x.isInfinite = true) :
    x.units = unitsOf infinityMagnitude := by
  have hm : x.magnitude.val = infinityMagnitude := eq_of_beq h
  rw [units, hm]

/-- The units tell an infinity from a finite number. -/
theorem isInfinite_congr {x y : Binary64} (hx : x.isNaN = false) (hy : y.isNaN = false)
    (h : x.signedUnits = y.signedUnits) : x.isInfinite = y.isInfinite := by
  have hunits : x.units = y.units := by
    rw [← natAbs_signedUnits x, ← natAbs_signedUnits y, h]
  have hfinite {z w : Binary64} (hz : z.isNaN = false) (hzi : z.isInfinite = false)
      (hw : w.isInfinite = true) (hzw : z.units = w.units) : False := by
    have hlt : z.magnitude.val < infinityMagnitude := of_decide_eq_true (isFinite_iff.mpr ⟨hz, hzi⟩)
    exact (unitsOf_lt_unitsOf hlt).ne (hzw.trans (units_of_isInfinite hw))
  cases hxi : x.isInfinite with
  | true =>
    cases hyi : y.isInfinite with
    | true => rfl
    | false => exact (hfinite hy hyi hxi hunits.symm).elim
  | false =>
    cases hyi : y.isInfinite with
    | true => exact (hfinite hx hxi hyi hunits).elim
    | false => rfl

/-- Two infinities have the same sign just if they have the same units. -/
theorem signedUnits_eq_iff_of_isInfinite {x y : Binary64} (hx : x.isInfinite = true)
    (hy : y.isInfinite = true) : x.signedUnits = y.signedUnits ↔ x.negative = y.negative := by
  have hpos : 0 < unitsOf infinityMagnitude := by decide +kernel
  rw [signedUnits, signedUnits, units_of_isInfinite hx, units_of_isInfinite hy]
  generalize unitsOf infinityMagnitude = units at hpos ⊢
  cases x.negative <;> cases y.negative <;> simp <;> omega

theorem compare?_eq_iff {x y : Binary64} :
    x.compare? y = some .eq ↔ ∃ v, x.exactValue? = some v ∧ y.exactValue? = some v := by
  unfold compare? exactValue?
  cases hx : x.isNaN with
  | true => simp
  | false =>
    cases hy : y.isNaN with
    | true => simp
    | false =>
      have hcompare : compare x.signedUnits y.signedUnits = .eq ↔
          x.signedUnits = y.signedUnits := Std.LawfulEqCmp.compare_eq_iff_eq
      have hcongr := isInfinite_congr hx hy
      simp only [Bool.or_self, Bool.false_eq_true, if_false, Option.some.injEq, hcompare]
      cases hxi : x.isInfinite with
      | true =>
        cases hyi : y.isInfinite with
        | true => simp [signedUnits_eq_iff_of_isInfinite hxi hyi, eq_comm]
        | false =>
          rw [hxi, hyi] at hcongr
          simpa using hcongr
      | false =>
        cases hyi : y.isInfinite with
        | true =>
          rw [hxi, hyi] at hcongr
          simpa using hcongr
        | false => simp [eq_comm]

theorem compareInt?_eq_iff {n : Int} {y : Binary64} :
    compareInt? n y = some .eq ↔ y.exactValue? = some (.finite (n * unitsInOne)) := by
  unfold compareInt? exactValue?
  generalize n * (unitsInOne : Int) = units
  have hcompare : compare units y.signedUnits = .eq ↔ units = y.signedUnits :=
    Std.LawfulEqCmp.compare_eq_iff_eq
  cases y.isNaN with
  | true => simp
  | false =>
    cases y.isInfinite with
    | true => cases y.negative <;> simp
    | false =>
      simp only [Bool.false_eq_true, if_false, Option.some.injEq, hcompare, ExactValue.finite.injEq]
      exact eq_comm

end Binary64

namespace Number

def exactValue? : Number → Option ExactValue
  | .integer n => some (.finite (n * Binary64.unitsInOne))
  | .float x => x.exactValue?

/-- Numbers are equal just if they have the same exact value. -/
theorem eq_iff_exactValue? {a b : Number} :
    a.eq b = true ↔ ∃ v, a.exactValue? = some v ∧ b.exactValue? = some v := by
  have heq : a.eq b = true ↔ a.compare? b = some .eq := beq_iff_eq
  rw [heq]
  cases a with
  | integer m =>
    cases b with
    | integer n =>
      have hcompare : compare m n = .eq ↔ m = n := Std.LawfulEqCmp.compare_eq_iff_eq
      have hunit : (Binary64.unitsInOne : Int) ≠ 0 := by
        exact Int.natCast_ne_zero.mpr (Nat.ne_of_gt (Binary64.twoTo_pos _))
      have hcancel : n * (Binary64.unitsInOne : Int) = m * Binary64.unitsInOne ↔ n = m :=
        Int.mul_eq_mul_right_iff hunit
      rw [compare?, Option.some.injEq, hcompare]
      simp only [exactValue?, Option.some.injEq, exists_eq_left', ExactValue.finite.injEq, hcancel]
      exact eq_comm
    | float y =>
      rw [compare?, Binary64.compareInt?_eq_iff]
      simp only [exactValue?, Option.some.injEq, exists_eq_left']
  | float x =>
    cases b with
    | integer n =>
      have hswap : (Binary64.compareInt? n x).map Ordering.swap = some .eq ↔
          Binary64.compareInt? n x = some .eq := by
        cases Binary64.compareInt? n x with
        | none => simp
        | some order => cases order <;> simp
      rw [compare?, hswap, Binary64.compareInt?_eq_iff]
      simp only [exactValue?, Option.some.injEq, exists_eq_right']
    | float y => exact Binary64.compare?_eq_iff

theorem eq_trans {a b c : Number} (hab : a.eq b = true) (hbc : b.eq c = true) :
    a.eq c = true := by
  obtain ⟨v, ha, hb⟩ := eq_iff_exactValue?.mp hab
  obtain ⟨w, hb', hc⟩ := eq_iff_exactValue?.mp hbc
  obtain rfl : v = w := Option.some.inj (hb.symm.trans hb')
  exact eq_iff_exactValue?.mpr ⟨v, ha, hc⟩

example : (Number.integer (2 ^ 1024)).eq (.float (.infinity false)) = false := by decide +kernel

end Number

end Destructure
