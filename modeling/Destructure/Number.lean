import Destructure.Number.Numeral
import Destructure.Number.Shortest

namespace Destructure

inductive Number
  | integer (n : Int)
  | float (x : Binary64)
  deriving DecidableEq

inductive ArithmeticError
  | integerTooLarge
  | quotientTooLarge
  deriving DecidableEq

def ArithmeticError.message : ArithmeticError → String
  | .integerTooLarge => "int too large to convert to float"
  | .quotientTooLarge => "integer division result too large for a float"

namespace Number

def maxDigits : Nat := 4300

def isWritable : Number → Bool
  | .integer n => n.natAbs < Binary64.tenTo maxDigits
  | .float _ => true

def renderInt (n : Int) : List Char :=
  if n < 0 then '-' :: Binary64.digitsOf n.natAbs else Binary64.digitsOf n.natAbs

def render : Number → List Char
  | .integer n => renderInt n
  | .float x => x.render

def compare? : Number → Number → Option Ordering
  | .integer m, .integer n => some (compare m n)
  | .integer m, .float y => Binary64.compareInt? m y
  | .float x, .integer n => (Binary64.compareInt? n x).map Ordering.swap
  | .float x, .float y => x.compare? y

def eq (a b : Number) : Bool :=
  compare? a b == some .eq

def isZero (a : Number) : Bool :=
  eq a (.integer 0)

def neg : Number → Number
  | .integer n => .integer (-n)
  | .float x => .float x.neg

def toFloat : Number → Except ArithmeticError Binary64
  | .integer n => match Binary64.ofInt? n with
    | some x => .ok x
    | none => .error .integerTooLarge
  | .float x => .ok x

def combine (onInts : Int → Int → Int) (onFloats : Binary64 → Binary64 → Binary64) :
    Number → Number → Except ArithmeticError Number
  | .integer m, .integer n => .ok (.integer (onInts m n))
  | a, b => do return .float (onFloats (← a.toFloat) (← b.toFloat))

def add : Number → Number → Except ArithmeticError Number :=
  combine (· + ·) Binary64.add

def sub : Number → Number → Except ArithmeticError Number :=
  combine (· - ·) Binary64.sub

def mul : Number → Number → Except ArithmeticError Number :=
  combine (· * ·) Binary64.mul

def div : Number → Number → Except ArithmeticError Number
  | .integer m, .integer n =>
    let negative := (m < 0) != (n < 0)
    let quotient := Binary64.ofUnits negative (m.natAbs * Binary64.unitsInOne) n.natAbs
    if quotient.isInfinite then .error .quotientTooLarge else .ok (.float quotient)
  | a, b => do return .float ((← a.toFloat).div (← b.toFloat))

end Number

end Destructure
