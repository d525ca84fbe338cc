import Destructure.Number.Binary64

/-!
The written form of a floating-point number: the fewest decimal digits that read back as the same
number, and of those the nearest to it.

Values from `10 ^ -4` up to below `10 ^ 16` are written with a point and at least one digit on each
side of it, the others with one digit before the point and an exponent of at least two digits.
-/

namespace Destructure.Binary64

def digitsOf (n : Nat) : List Char :=
  Nat.toDigits 10 n

def decimalExponent (units : Nat) : Int :=
  let estimate : Int := (((units.log2 : Int) - unitShift) * 30103) / 100000
  let below (p : Int) : Bool :=
    if 0 ≤ p then units < tenTo p.toNat * unitsInOne
    else units * tenTo (-p).toNat < unitsInOne
  if below (estimate - 1) then estimate - 1
  else if below estimate then estimate
  else if below (estimate + 1) then estimate + 1
  else estimate + 2

def inPowersOfTen (units : Nat) (exponent : Int) : Nat × Nat :=
  if 0 ≤ exponent then (units, tenTo exponent.toNat * unitsInOne)
  else (units * tenTo (-exponent).toNat, unitsInOne)

def decimalAt? (x : Binary64) (exponent : Int) : Option (Nat × Int) :=
  let (num, den) := inPowersOfTen x.units exponent
  let lower := num / den
  let readsBack (digits : Nat) : Bool := ofDecimal false digits exponent == ⟨false, x.magnitude⟩
  -- near a power of two the interval of values that read back is lopsided, so the farther neighbour
  -- may read back where the nearer one does not
  let nearest := roundHalfEven num den
  let other := if nearest = lower then lower + 1 else lower
  if readsBack nearest then some (nearest, exponent)
  else if readsBack other then some (other, exponent)
  else none

def shortest (x : Binary64) : Nat × Int :=
  let top := decimalExponent x.units
  match (List.range 17).findSome? fun i => decimalAt? x (top - ((i + 1 : Nat) : Int)) with
  | some decimal => decimal
  | none => (x.units * Nat.pow 5 unitShift, -unitShift)

def dropTrailingZeros (digits : List Char) : List Char :=
  (digits.reverse.dropWhile (· == '0')).reverse

def renderExponent (exponent : Int) : List Char :=
  let digits := digitsOf exponent.natAbs
  (if exponent < 0 then '-' else '+') :: List.replicate (2 - digits.length) '0' ++ digits

def renderDecimal (digits : List Char) (point : Int) : List Char :=
  if -4 < point ∧ point ≤ 16 then
    if point ≤ 0 then '0' :: '.' :: List.replicate (-point).toNat '0' ++ digits
    else if (digits.length : Int) ≤ point then
      digits ++ List.replicate (point.toNat - digits.length) '0' ++ ['.', '0']
    else digits.take point.toNat ++ '.' :: digits.drop point.toNat
  else
    digits.take 1 ++ (if digits.length ≤ 1 then [] else '.' :: digits.drop 1) ++
      'e' :: renderExponent (point - 1)

def renderFinite (x : Binary64) : List Char :=
  if x.units = 0 then ['0', '.', '0']
  else
    let (digits, exponent) := x.shortest
    let text := digitsOf digits
    renderDecimal (dropTrailingZeros text) (text.length + exponent)

def render (x : Binary64) : List Char :=
  if x.isNaN then ['n', 'a', 'n']
  else
    let magnitude := if x.isInfinite then ['i', 'n', 'f'] else x.renderFinite
    if x.negative then '-' :: magnitude else magnitude

end Destructure.Binary64
