import Destructure.Number.Numeral
import Destructure.Regex.Reader

namespace Destructure.Regex

open Reader

def repetitionBound : Nat := 4294967295

def repetitionCount (digits : List Char) : Reader Nat := do
  if 4300 < digits.length then throw (.numeralTooLong digits.length)
  let count := Numeral.valueOfDigits digits
  if repetitionBound ≤ count then throw .repetitionTooLarge
  return count

structure Repetition where
  least : Nat
  most : Option Nat

def readBraces : Reader (Option Repetition) := do
  let start ← position
  let before := (← get).rest
  if (← peek) == some (.plain '\x7d') then return none
  let low ← takeAll Char.isDigit
  let high ← if ← accept ',' then takeAll Char.isDigit else pure low
  if ← accept '\x7d' then
    let least ← if low = [] then pure 0 else repetitionCount low
    if high = [] then return some ⟨least, none⟩
    let most ← repetitionCount high
    if most < least then
      fail "min repeat greater than max repeat".toList ((← position) - start)
    return some ⟨least, some most⟩
  else
    goTo before
    return none

def readRepetition (mark : Char) : Reader (Option Repetition) := do
  if mark = '?' then return some ⟨0, some 1⟩
  else if mark = '*' then return some ⟨0, none⟩
  else if mark = '+' then return some ⟨1, none⟩
  else readBraces

def repeatedBody : Node → List Node
  | .scoped [] [] body => body
  | node => [node]

def readEagerness : Reader Eagerness := do
  if ← accept '?' then return .lazy
  else if ← accept '+' then return .possessive
  else return .greedy

def repeatLast (start : Nat) (times : Repetition) : List Node → Reader (List Node)
  | [] => do fail "nothing to repeat".toList ((← position) - start)
  | .anchor _ :: _ => do fail "nothing to repeat".toList ((← position) - start)
  | .loop _ _ _ _ :: _ => do fail "multiple repeat".toList ((← position) - start)
  | node :: done => do
    return .loop (← readEagerness) times.least times.most (repeatedBody node) :: done

end Destructure.Regex
