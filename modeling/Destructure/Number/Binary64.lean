namespace Destructure

structure Binary64 where
  negative : Bool
  magnitude : Fin 9223372036854775808
  deriving DecidableEq

namespace Binary64

def twoTo (n : Nat) : Nat := Nat.pow 2 n

def tenTo (n : Nat) : Nat := Nat.pow 10 n

def fractionBits : Nat := 52

def unitShift : Nat := 1074

def unitsInOne : Nat := twoTo unitShift

def infinityMagnitude : Nat := 9218868437227405312

def isNaN (x : Binary64) : Bool :=
  infinityMagnitude < x.magnitude.val

def isInfinite (x : Binary64) : Bool :=
  x.magnitude.val == infinityMagnitude

def isFinite (x : Binary64) : Bool :=
  x.magnitude.val < infinityMagnitude

def unitsOf (magnitude : Nat) : Nat :=
  let exponent := magnitude / twoTo fractionBits
  let fraction := magnitude % twoTo fractionBits
  if exponent = 0 then fraction else (twoTo fractionBits + fraction) * twoTo (exponent - 1)

def units (x : Binary64) : Nat :=
  unitsOf x.magnitude.val

def signedUnits (x : Binary64) : Int :=
  if x.negative then -(x.units : Int) else x.units

def roundHalfEven (num den : Nat) : Nat :=
  let quotient := num / den
  let remainder := num % den
  if 2 * remainder > den ∨ (2 * remainder = den ∧ quotient % 2 = 1) then quotient + 1 else quotient

def nearestMagnitude (num den : Nat) : Nat :=
  let shift := (num / den).log2 - fractionBits
  min (shift * twoTo fractionBits + roundHalfEven num (den * twoTo shift)) infinityMagnitude

def ofUnits (negative : Bool) (num den : Nat) : Binary64 :=
  ⟨negative, ⟨nearestMagnitude num den,
    Nat.lt_of_le_of_lt (Nat.min_le_right _ _) (by decide)⟩⟩

def zero (negative : Bool) : Binary64 :=
  ⟨negative, 0⟩

def infinity (negative : Bool) : Binary64 :=
  ⟨negative, 9218868437227405312⟩

def nan (label : Nat) : Binary64 :=
  ⟨false, ⟨infinityMagnitude + 1 + label % 2251799813685248, by
    have h : label % 2251799813685248 < 2251799813685248 := Nat.mod_lt _ (by decide)
    unfold infinityMagnitude
    omega⟩⟩

def ofInt? (n : Int) : Option Binary64 :=
  let x := ofUnits (n < 0) (n.natAbs * unitsInOne) 1
  if x.isFinite then some x else none

def ofDecimal (negative : Bool) (digits : Nat) (exponent : Int) : Binary64 :=
  if digits = 0 then zero negative
  else if 400 < exponent then infinity negative
  else if (digits.log2 : Int) + 3 * exponent < -1300 then zero negative
  else if 0 ≤ exponent then ofUnits negative (digits * tenTo exponent.toNat * unitsInOne) 1
  else ofUnits negative (digits * unitsInOne) (tenTo (-exponent).toNat)

def neg (x : Binary64) : Binary64 :=
  ⟨!x.negative, x.magnitude⟩

def add (x y : Binary64) : Binary64 :=
  if x.isNaN then x
  else if y.isNaN then y
  else if x.isInfinite then
    if y.isInfinite && x.negative != y.negative then nan 0 else x
  else if y.isInfinite then y
  else
    let sum := x.signedUnits + y.signedUnits
    if sum = 0 then zero (x.negative && y.negative) else ofUnits (sum < 0) sum.natAbs 1

def sub (x y : Binary64) : Binary64 :=
  x.add y.neg

def mul (x y : Binary64) : Binary64 :=
  let negative := x.negative != y.negative
  if x.isNaN then x
  else if y.isNaN then y
  else if x.isInfinite || y.isInfinite then
    if x.units = 0 || y.units = 0 then nan 0 else infinity negative
  else ofUnits negative (x.units * y.units) unitsInOne

def div (x y : Binary64) : Binary64 :=
  let negative := x.negative != y.negative
  if x.isNaN then x
  else if y.isNaN then y
  else if x.isInfinite then
    if y.isInfinite then nan 0 else infinity negative
  else if y.isInfinite then zero negative
  else if y.units = 0 then
    if x.units = 0 then nan 0 else infinity negative
  else ofUnits negative (x.units * unitsInOne) y.units

def compare? (x y : Binary64) : Option Ordering :=
  if x.isNaN || y.isNaN then none else some (compare x.signedUnits y.signedUnits)

def compareInt? (n : Int) (y : Binary64) : Option Ordering :=
  if y.isNaN then none
  else if y.isInfinite then some (if y.negative then .gt else .lt)
  else some (compare (n * unitsInOne) y.signedUnits)

end Binary64

end Destructure
