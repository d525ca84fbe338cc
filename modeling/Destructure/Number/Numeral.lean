import Destructure.Number.Binary64

namespace Destructure

structure Numeral where
  whole : List Char
  point : Bool
  fraction : List Char
  exponent : Option (Bool × List Char)

namespace Numeral

def valueOfDigits (digits : List Char) : Nat :=
  digits.foldl (fun n d => 10 * n + (d.toNat - 48)) 0

def splitSign : List Char → Bool × List Char
  | '-' :: rest => (true, rest)
  | '+' :: rest => (false, rest)
  | cs => (false, cs)

def splitExponent : List Char → Option (Bool × List Char) × List Char
  | [] => (none, [])
  | mark :: cs =>
    if mark = 'e' ∨ mark = 'E' then
      let (negative, rest) := splitSign cs
      let digits := rest.takeWhile Char.isDigit
      if digits = [] then (none, mark :: cs)
      else (some (negative, digits), rest.dropWhile Char.isDigit)
    else (none, mark :: cs)

def split? (cs : List Char) : Option (Numeral × List Char) :=
  let whole := cs.takeWhile Char.isDigit
  match cs.dropWhile Char.isDigit with
  | '.' :: rest =>
    let fraction := rest.takeWhile Char.isDigit
    if whole = [] ∧ fraction = [] then none
    else
      let (exponent, rest) := splitExponent (rest.dropWhile Char.isDigit)
      some (⟨whole, true, fraction, exponent⟩, rest)
  | rest =>
    if whole = [] then none
    else
      let (exponent, rest) := splitExponent rest
      some (⟨whole, false, [], exponent⟩, rest)

def isWhole (n : Numeral) : Bool :=
  !n.point && n.exponent.isNone

def toNat (n : Numeral) : Nat :=
  valueOfDigits n.whole

def scale (n : Numeral) : Int :=
  let written : Int := match n.exponent with
    | none => 0
    | some (negative, digits) => if negative then -(valueOfDigits digits) else valueOfDigits digits
  written - n.fraction.length

def toBinary64 (n : Numeral) (negative : Bool) : Binary64 :=
  Binary64.ofDecimal negative (valueOfDigits (n.whole ++ n.fraction)) n.scale

end Numeral

end Destructure
