import Destructure.Number.Shortest
import Mathlib.Tactic.Ring

namespace Destructure.Binary64

theorem twoTo_eq (n : Nat) : twoTo n = 2 ^ n := rfl

theorem tenTo_eq (n : Nat) : tenTo n = 10 ^ n := rfl

theorem twoTo_pos (n : Nat) : 0 < twoTo n := Nat.two_pow_pos n

theorem tenTo_pos (n : Nat) : 0 < tenTo n := Nat.pow_pos (by decide)

theorem tenTo_add (m n : Nat) : tenTo (m + n) = tenTo m * tenTo n := Nat.pow_add 10 m n

theorem tenTo_le_tenTo {m n : Nat} (h : m ≤ n) : tenTo m ≤ tenTo n :=
  Nat.pow_le_pow_right (by decide) h

theorem unitsInOne_eq : unitsInOne = 2 ^ unitShift := twoTo_eq unitShift

theorem isFinite_iff {x : Binary64} :
    x.isFinite = true ↔ x.isNaN = false ∧ x.isInfinite = false := by
  rw [isFinite, isNaN, isInfinite, decide_eq_true_eq, decide_eq_false_iff_not, beq_eq_false_iff_ne]
  generalize infinityMagnitude = m
  omega

/-- Magnitudes are ordered like the values that they stand for. -/
theorem unitsOf_lt_unitsOf {m n : Nat} (h : m < n) : unitsOf m < unitsOf n := by
  have hm : twoTo fractionBits * (m / twoTo fractionBits) + m % twoTo fractionBits = m :=
    Nat.div_add_mod m _
  have hn : twoTo fractionBits * (n / twoTo fractionBits) + n % twoTo fractionBits = n :=
    Nat.div_add_mod n _
  have hf : m % twoTo fractionBits < twoTo fractionBits := Nat.mod_lt m (twoTo_pos _)
  have hg : n % twoTo fractionBits < twoTo fractionBits := Nat.mod_lt n (twoTo_pos _)
  have hle : m / twoTo fractionBits ≤ n / twoTo fractionBits := Nat.div_le_div_right (Nat.le_of_lt h)
  unfold unitsOf
  dsimp only
  generalize twoTo fractionBits = unit at hm hn hf hg hle ⊢
  generalize m / unit = e at hm hle ⊢
  generalize n / unit = d at hn hle ⊢
  generalize m % unit = f at hm hf ⊢
  generalize n % unit = g at hn hg ⊢
  rcases Nat.lt_or_eq_of_le hle with hlt | rfl
  · rw [if_neg (Nat.ne_of_gt (Nat.zero_lt_of_lt hlt))]
    have hsmall : (if e = 0 then f else (unit + f) * twoTo (e - 1)) < unit * twoTo e := by
      by_cases he : e = 0
      · rw [if_pos he, he]
        exact Nat.lt_of_lt_of_eq hf (Nat.mul_one unit).symm
      · obtain ⟨k, rfl⟩ := Nat.exists_eq_succ_of_ne_zero he
        have hdouble : unit * twoTo (k + 1) = (unit + unit) * twoTo k := by
          rw [twoTo_eq, twoTo_eq, Nat.pow_succ]
          ring
        rw [if_neg he, hdouble]
        exact Nat.mul_lt_mul_of_pos_right (Nat.add_lt_add_left hf unit) (twoTo_pos k)
    have hlarge : unit * twoTo e ≤ (unit + g) * twoTo (d - 1) :=
      Nat.mul_le_mul (Nat.le_add_right unit g)
        (Nat.pow_le_pow_right (by decide) (Nat.le_sub_one_of_lt hlt))
    exact Nat.lt_of_lt_of_le hsmall hlarge
  · have hfg : f < g := by omega
    split
    · exact hfg
    · exact Nat.mul_lt_mul_of_pos_right (Nat.add_lt_add_left hfg unit) (twoTo_pos _)

/-- Rounding a quotient does not depend on how it is written. -/
theorem roundHalfEven_mul_right (num den : Nat) {c : Nat} (hc : 0 < c) :
    roundHalfEven (num * c) (den * c) = roundHalfEven num den := by
  unfold roundHalfEven
  have hg : 2 * (num % den * c) > den * c ↔ 2 * (num % den) > den := by
    rw [← Nat.mul_assoc]
    exact Nat.mul_lt_mul_right hc
  have he : 2 * (num % den * c) = den * c ↔ 2 * (num % den) = den := by
    rw [← Nat.mul_assoc]
    exact Nat.mul_left_inj (Nat.ne_of_gt hc)
  dsimp only
  rw [Nat.mul_div_mul_right num den hc, Nat.mul_mod_mul_right]
  simp only [hg, he]

theorem roundHalfEven_mul_self (n : Nat) {c : Nat} (hc : 0 < c) : roundHalfEven (n * c) c = n := by
  unfold roundHalfEven
  dsimp only
  rw [Nat.mul_div_cancel n hc, Nat.mul_mod_left, if_neg (by omega)]

/-- The nearest magnitude depends on the quotient only. -/
theorem nearestMagnitude_mul_right (num den : Nat) {c : Nat} (hc : 0 < c) :
    nearestMagnitude (num * c) (den * c) = nearestMagnitude num den := by
  unfold nearestMagnitude
  dsimp only
  rw [Nat.mul_div_mul_right num den hc, Nat.mul_right_comm den c, roundHalfEven_mul_right _ _ hc]

theorem nearestMagnitude_congr {a b c d : Nat} (hb : 0 < b) (hd : 0 < d) (h : a * d = c * b) :
    nearestMagnitude a b = nearestMagnitude c d := by
  rw [← nearestMagnitude_mul_right a b hd, ← nearestMagnitude_mul_right c d hb, h, Nat.mul_comm d b]

/-- A finite magnitude is the nearest to its own units. -/
theorem nearestMagnitude_unitsOf {m : Nat} (h : m < infinityMagnitude) :
    nearestMagnitude (unitsOf m) 1 = m := by
  have hsplit : m / twoTo fractionBits * twoTo fractionBits + m % twoTo fractionBits = m :=
    Nat.div_add_mod' m _
  have hf : m % twoTo fractionBits < twoTo fractionBits := Nat.mod_lt m (twoTo_pos _)
  unfold nearestMagnitude unitsOf
  dsimp only
  generalize m / twoTo fractionBits = e at hsplit ⊢
  generalize m % twoTo fractionBits = f at hsplit hf ⊢
  have hmin : min m infinityMagnitude = m := Nat.min_eq_left (Nat.le_of_lt h)
  rw [Nat.div_one, Nat.one_mul]
  by_cases he : e = 0
  · have hlog : f.log2 - fractionBits = 0 := by
      by_cases hz : f = 0
      · rw [hz]
        rfl
      · have hlt : f.log2 < fractionBits := (Nat.log2_lt hz).mpr hf
        omega
    have hm : f = m := by
      rw [he, Nat.zero_mul, Nat.zero_add] at hsplit
      exact hsplit
    have hround := roundHalfEven_mul_self f Nat.one_pos
    rw [Nat.mul_one] at hround
    rw [if_pos he, hlog, Nat.zero_mul, Nat.zero_add, show twoTo 0 = 1 from rfl, hround, hm, hmin]
  · rw [if_neg he]
    have hlog : ((twoTo fractionBits + f) * twoTo (e - 1)).log2 = fractionBits + (e - 1) := by
      have hne : (twoTo fractionBits + f) * twoTo (e - 1) ≠ 0 := by
        have h1 := twoTo_pos fractionBits
        have h2 := twoTo_pos (e - 1)
        exact Nat.mul_ne_zero (by omega) (by omega)
      rw [Nat.log2_eq_iff hne]
      constructor
      · rw [Nat.pow_add]
        exact Nat.mul_le_mul_right _ (Nat.le_add_right _ _)
      · rw [Nat.add_right_comm, Nat.pow_add]
        have hdouble : 2 ^ (fractionBits + 1) = twoTo fractionBits + twoTo fractionBits := by
          rw [Nat.pow_succ, Nat.mul_two, twoTo_eq]
        rw [hdouble]
        exact Nat.mul_lt_mul_of_pos_right (by omega) (twoTo_pos _)
    rw [hlog, Nat.add_sub_cancel_left, roundHalfEven_mul_self _ (twoTo_pos _)]
    have hm : (e - 1) * twoTo fractionBits + (twoTo fractionBits + f) = m := by
      obtain ⟨k, rfl⟩ : ∃ k, e = k + 1 := ⟨e - 1, by omega⟩
      rw [Nat.add_sub_cancel, ← hsplit]
      ring
    rw [hm, hmin]

def unitFraction (digits : Nat) (exponent : Int) : Nat × Nat :=
  if 0 ≤ exponent then (digits * tenTo exponent.toNat * unitsInOne, 1)
  else (digits * unitsInOne, tenTo (-exponent).toNat)

theorem infinityMagnitude_eq : infinityMagnitude = 2047 * twoTo fractionBits := rfl

/-- From half a step beyond the largest finite magnitude on, everything is infinite. -/
theorem nearestMagnitude_of_large {n k : Nat} (hk : 2100 ≤ k) (h : 2 ^ k ≤ n) :
    nearestMagnitude n 1 = infinityMagnitude := by
  have hn : n ≠ 0 := Nat.ne_of_gt (Nat.lt_of_lt_of_le (Nat.two_pow_pos k) h)
  have hlog : k ≤ n.log2 := (Nat.le_log2 hn).mpr h
  unfold nearestMagnitude
  dsimp only
  rw [Nat.div_one]
  apply Nat.min_eq_right
  have hshift : 2047 ≤ n.log2 - fractionBits := by
    unfold fractionBits
    omega
  rw [infinityMagnitude_eq]
  exact Nat.le_trans (Nat.mul_le_mul_right _ hshift) (Nat.le_add_right _ _)

/-- Below half a unit, everything is zero. -/
theorem nearestMagnitude_of_small {num den : Nat} (h : 2 * num < den) :
    nearestMagnitude num den = 0 := by
  have hq : num / den = 0 := Nat.div_eq_of_lt (by omega)
  have hr : num % den = num := Nat.mod_eq_of_lt (by omega)
  have hround : roundHalfEven num (den * twoTo 0) = 0 := by
    unfold roundHalfEven
    dsimp only
    rw [show twoTo 0 = 1 from rfl, Nat.mul_one, hq, hr, if_neg (by omega)]
  unfold nearestMagnitude
  dsimp only
  rw [hq, show Nat.log2 0 - fractionBits = 0 from rfl, hround]
  rfl

theorem eq_of_magnitude {x y : Binary64} (hs : x.negative = y.negative)
    (hm : x.magnitude.val = y.magnitude.val) : x = y := by
  obtain ⟨negative, magnitude⟩ := x
  obtain rfl : negative = _ := hs
  obtain rfl : magnitude = _ := Fin.ext hm
  rfl

theorem negative_ofUnits (negative : Bool) (num den : Nat) :
    (ofUnits negative num den).negative = negative :=
  rfl

theorem magnitude_ofUnits (negative : Bool) (num den : Nat) :
    (ofUnits negative num den).magnitude.val = nearestMagnitude num den :=
  rfl

theorem ofUnits_of_large (negative : Bool) {n k : Nat} (hk : 2100 ≤ k) (h : 2 ^ k ≤ n) :
    ofUnits negative n 1 = infinity negative :=
  eq_of_magnitude rfl (nearestMagnitude_of_large hk h)

theorem ofUnits_of_small (negative : Bool) {num den : Nat} (h : 2 * num < den) :
    ofUnits negative num den = zero negative :=
  eq_of_magnitude rfl (nearestMagnitude_of_small h)

theorem ofUnits_congr (negative : Bool) {a b c d : Nat}
    (h : nearestMagnitude a b = nearestMagnitude c d) :
    ofUnits negative a b = ofUnits negative c d := by
  apply eq_of_magnitude
  · rw [negative_ofUnits, negative_ofUnits]
  · rw [magnitude_ofUnits, magnitude_ofUnits, h]

/-- A finite number is nearest to its own value, as a fraction. -/
theorem ofUnits_units {x : Binary64} (hx : x.isFinite = true) {c : Nat} (hc : 0 < c) :
    ofUnits x.negative (x.units * c) c = x := by
  have hscale := nearestMagnitude_mul_right x.units 1 hc
  have hself := nearestMagnitude_unitsOf (of_decide_eq_true hx)
  rw [Nat.one_mul] at hscale
  apply eq_of_magnitude
  · rw [negative_ofUnits]
  · rw [magnitude_ofUnits, hscale, units, hself]

theorem two_pow_le_tenTo (n : Nat) : 2 ^ (3 * n) ≤ tenTo n := by
  rw [tenTo_eq, Nat.pow_mul]
  exact Nat.pow_le_pow_left (by decide) n

/-- What is far too large or far too small for a number is not rounded, but comes to the same. -/
theorem ofDecimal_eq_ofUnits (negative : Bool) {digits : Nat} (hd : digits ≠ 0) (exponent : Int) :
    ofDecimal negative digits exponent =
      ofUnits negative (unitFraction digits exponent).1 (unitFraction digits exponent).2 := by
  unfold ofDecimal unitFraction
  rw [if_neg hd]
  by_cases hlarge : 400 < exponent
  · obtain ⟨n, rfl⟩ : ∃ n : Nat, exponent = n := ⟨exponent.toNat, by omega⟩
    have hpow : 2 ^ (3 * n + unitShift) ≤ digits * tenTo n * unitsInOne := by
      rw [Nat.pow_add, unitsInOne_eq]
      refine Nat.mul_le_mul_right _ (Nat.le_trans (two_pow_le_tenTo n) ?_)
      exact Nat.le_mul_of_pos_left _ (Nat.pos_of_ne_zero hd)
    have hk : 2100 ≤ 3 * n + unitShift := by
      unfold unitShift
      omega
    rw [if_pos hlarge, if_pos (by omega), Int.toNat_natCast]
    exact (ofUnits_of_large negative hk hpow).symm
  · rw [if_neg hlarge]
    by_cases hsmall : (digits.log2 : Int) + 3 * exponent < -1300
    · obtain ⟨n, rfl⟩ : ∃ n : Nat, exponent = -n := ⟨(-exponent).toNat, by omega⟩
      have hneg : ¬ (0 : Int) ≤ -n := by omega
      have hlt : 2 * (digits * unitsInOne) < tenTo n := by
        have hdigits : digits < 2 ^ (digits.log2 + 1) := Nat.lt_log2_self
        have hle : digits.log2 + 1 + (unitShift + 1) ≤ 3 * n := by
          unfold unitShift
          omega
        calc
          2 * (digits * unitsInOne) = digits * 2 ^ (unitShift + 1) := by
            rw [unitsInOne_eq, Nat.pow_succ]
            ring
          _ < 2 ^ (digits.log2 + 1) * 2 ^ (unitShift + 1) :=
            Nat.mul_lt_mul_of_pos_right hdigits (Nat.two_pow_pos _)
          _ = 2 ^ (digits.log2 + 1 + (unitShift + 1)) := (Nat.pow_add ..).symm
          _ ≤ 2 ^ (3 * n) := Nat.pow_le_pow_right (by decide) hle
          _ ≤ tenTo n := two_pow_le_tenTo n
      rw [if_pos hsmall, if_neg hneg, Int.neg_neg, Int.toNat_natCast]
      exact (ofUnits_of_small negative hlt).symm
    · rw [if_neg hsmall]
      split <;> rfl

theorem unitFraction_pos (digits : Nat) (exponent : Int) : 0 < (unitFraction digits exponent).2 := by
  unfold unitFraction
  split
  · exact Nat.one_pos
  · exact tenTo_pos _

theorem unitFraction_natCast (digits n : Nat) :
    unitFraction digits n = (digits * tenTo n * unitsInOne, 1) := by
  unfold unitFraction
  rw [if_pos (by omega), Int.toNat_natCast]

theorem unitFraction_neg (digits : Nat) {n : Nat} (h : 0 < n) :
    unitFraction digits (-n) = (digits * unitsInOne, tenTo n) := by
  unfold unitFraction
  rw [if_neg (by omega), Int.neg_neg, Int.toNat_natCast]

section Scaling

variable (digits k n m : Nat)

theorem unitFraction_scale_natCast (hm : m = n + k) :
    (unitFraction (digits * tenTo k) n).1 * (unitFraction digits m).2 =
      (unitFraction digits m).1 * (unitFraction (digits * tenTo k) n).2 := by
  rw [unitFraction_natCast, unitFraction_natCast, hm, Nat.add_comm n k, tenTo_add]
  dsimp only
  generalize unitsInOne = u
  ring

theorem unitFraction_scale_cross (hn : 0 < n) (hk : k = n + m) :
    (unitFraction (digits * tenTo k) (-n)).1 * (unitFraction digits m).2 =
      (unitFraction digits m).1 * (unitFraction (digits * tenTo k) (-n)).2 := by
  rw [unitFraction_neg _ hn, unitFraction_natCast, hk, tenTo_add]
  dsimp only
  generalize unitsInOne = u
  ring

theorem unitFraction_scale_neg (hm : 0 < m) (hn : n = k + m) :
    (unitFraction (digits * tenTo k) (-n)).1 * (unitFraction digits (-m)).2 =
      (unitFraction digits (-m)).1 * (unitFraction (digits * tenTo k) (-n)).2 := by
  rw [unitFraction_neg _ (show 0 < n by omega), unitFraction_neg _ hm, hn, tenTo_add]
  dsimp only
  generalize unitsInOne = u
  ring

/-- A decimal in units has the value of the decimal, however that is scaled. -/
theorem unitFraction_mul_tenTo (exponent : Int) :
    (unitFraction (digits * tenTo k) exponent).1 * (unitFraction digits (exponent + k)).2 =
      (unitFraction digits (exponent + k)).1 * (unitFraction (digits * tenTo k) exponent).2 := by
  by_cases hp : 0 ≤ exponent
  · have hs : 0 ≤ exponent + k := by omega
    have h := unitFraction_scale_natCast digits k exponent.toNat (exponent + k).toNat (by omega)
    rwa [Int.toNat_of_nonneg hp, Int.toNat_of_nonneg hs] at h
  · have he : exponent = -((-exponent).toNat : Int) := by omega
    by_cases hs : 0 ≤ exponent + k
    · have h := unitFraction_scale_cross digits k (-exponent).toNat (exponent + k).toNat
        (by omega) (by omega)
      rwa [← he, Int.toNat_of_nonneg hs] at h
    · have hk : exponent + k = -((-(exponent + k)).toNat : Int) := by omega
      have h := unitFraction_scale_neg digits k (-exponent).toNat (-(exponent + k)).toNat
        (by omega) (by omega)
      rwa [← he, ← hk] at h

end Scaling

theorem ofDecimal_zero (negative : Bool) (exponent : Int) :
    ofDecimal negative 0 exponent = zero negative :=
  if_pos rfl

/-- What a decimal reads as depends on its value only. -/
theorem ofDecimal_mul_tenTo (negative : Bool) (digits k : Nat) (exponent : Int) :
    ofDecimal negative (digits * tenTo k) exponent = ofDecimal negative digits (exponent + k) := by
  by_cases hd : digits = 0
  · rw [hd, Nat.zero_mul, ofDecimal_zero, ofDecimal_zero]
  · have hk : digits * tenTo k ≠ 0 := Nat.mul_ne_zero hd (Nat.ne_of_gt (tenTo_pos k))
    rw [ofDecimal_eq_ofUnits negative hk, ofDecimal_eq_ofUnits negative hd]
    apply ofUnits_congr
    exact nearestMagnitude_congr (unitFraction_pos _ _) (unitFraction_pos _ _)
      (unitFraction_mul_tenTo digits k exponent)

theorem ofDecimal_negative (negative : Bool) (digits : Nat) (exponent : Int) :
    ofDecimal negative digits exponent = ⟨negative, (ofDecimal false digits exponent).magnitude⟩ := by
  unfold ofDecimal
  repeat' split
  all_goals rfl

theorem isNaN_ofDecimal (negative : Bool) (digits : Nat) (exponent : Int) :
    (ofDecimal negative digits exponent).isNaN = false := by
  have hunits (num den : Nat) : (ofUnits negative num den).isNaN = false :=
    decide_eq_false (Nat.not_lt_of_le (Nat.min_le_right ..))
  have hzero : (zero negative).isNaN = false := by
    cases negative <;> decide
  unfold ofDecimal
  repeat' split
  · exact hzero
  · cases negative <;> decide
  · exact hzero
  · exact hunits _ _
  · exact hunits _ _
theorem decimalAt?_eq_some {x : Binary64} {exponent : Int} {decimal : Nat × Int}
    (h : decimalAt? x exponent = some decimal) :
    ofDecimal false decimal.1 decimal.2 = ⟨false, x.magnitude⟩ := by
  have htry (nearest other : Nat)
      (h : (if ofDecimal false nearest exponent == ⟨false, x.magnitude⟩ then some (nearest, exponent)
        else if ofDecimal false other exponent == ⟨false, x.magnitude⟩ then some (other, exponent)
        else none) = some decimal) :
      ofDecimal false decimal.1 decimal.2 = ⟨false, x.magnitude⟩ := by
    split at h
    · rename_i hr
      cases h
      exact eq_of_beq hr
    · split at h
      · rename_i hr
        cases h
        exact eq_of_beq hr
      · cases h
  exact htry _ _ h

/-- The exact expansion of a number in decimal. -/
theorem ofDecimal_units {x : Binary64} (hx : x.isFinite = true) (hz : x.units ≠ 0) :
    ofDecimal x.negative (x.units * Nat.pow 5 unitShift) (-unitShift) = x := by
  have hfive : 0 < Nat.pow 5 unitShift := by
    generalize unitShift = u
    exact Nat.pow_pos (by decide)
  have hpow : x.units * Nat.pow 5 unitShift * unitsInOne = x.units * tenTo unitShift := by
    rw [unitsInOne_eq, tenTo_eq]
    generalize unitShift = u
    rw [Nat.mul_assoc, show (10 : Nat) = 5 * 2 from rfl, Nat.mul_pow]
    rfl
  have hunits := unitFraction_neg (x.units * Nat.pow 5 unitShift) (by decide : 0 < unitShift)
  rw [hpow] at hunits
  rw [ofDecimal_eq_ofUnits _ (Nat.mul_ne_zero hz (Nat.ne_of_gt hfive)), hunits]
  dsimp only
  rw [ofUnits_units hx (tenTo_pos unitShift)]

/-- The shortest decimal of a finite number other than zero reads back as the number. -/
theorem ofDecimal_shortest {x : Binary64} (hx : x.isFinite = true) (hz : x.units ≠ 0) :
    ofDecimal x.negative x.shortest.1 x.shortest.2 = x := by
  unfold shortest
  dsimp only
  split
  · rename_i decimal h
    obtain ⟨i, -, hi⟩ := List.exists_of_findSome?_eq_some h
    rw [ofDecimal_negative, decimalAt?_eq_some hi]
  · exact ofDecimal_units hx hz

end Destructure.Binary64
