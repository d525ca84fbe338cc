import Destructure.Regex.Syntax

namespace Destructure.Regex

inductive Piece
  | plain (c : Char)
  | escaped (c : Char)
  | dangling
  deriving DecidableEq

namespace Piece

def text : Piece → List Char
  | .plain c => [c]
  | .escaped c => ['\\', c]
  | .dangling => ['\\']

def cut : Nat → List Char → List (Piece × Nat)
  | _, [] => []
  | at', ['\\'] => [(.dangling, at')]
  | at', '\\' :: c :: rest => (.escaped c, at') :: cut (at' + 2) rest
  | at', c :: rest => (.plain c, at') :: cut (at' + 1) rest

end Piece

structure Progress where
  rest : List (Piece × Nat)
  length : Nat
  flags : List Flag
  names : List (List Char × Nat)
  widths : List (Option Width)
  lookbehind : Option Nat
  conditions : List (Nat × Nat)

abbrev Reader := StateT Progress (Except Problem)

namespace Reader

def peek : Reader (Option Piece) := do
  return (← get).rest.head?.map (·.1)

def position : Reader Nat := do
  let progress ← get
  return match progress.rest with
    | [] => progress.length
    | (_, at') :: _ => at'

def fail {α : Type} (message : List Char) (back : Nat) : Reader α := do
  let at' ← position
  throw (.malformed (String.ofList message) (some (at' - back)))

def goTo (rest : List (Piece × Nat)) : Reader Unit := do
  match rest with
  | (.dangling, at') :: _ => throw (.malformed "bad escape (end of pattern)" (some at'))
  | _ => modify fun progress => { progress with rest := rest }

def take : Reader (Option Piece) := do
  match (← get).rest with
  | [] => return none
  | (piece, _) :: rest =>
    goTo rest
    return some piece

def accept (c : Char) : Reader Bool := do
  if (← peek) == some (.plain c) then
    let _ ← take
    return true
  else return false

def takeMany (class' : Char → Bool) : Nat → Reader (List Char)
  | 0 => return []
  | limit + 1 => do
    match ← peek with
    | some (.plain c) =>
      if class' c then
        let _ ← take
        return c :: (← takeMany class' limit)
      else return []
    | _ => return []

def takeAll (class' : Char → Bool) : Reader (List Char) := do
  takeMany class' (← get).rest.length

def takeUntil (closing : Char) (what : String) : Nat → List Char → Reader (List Char)
  | 0, taken => return taken
  | bound + 1, taken => do
    match ← take with
    | none =>
      if taken = [] then fail ("missing " ++ what).toList 0
      else fail ("missing " ++ toString closing ++ ", unterminated name").toList taken.length
    | some piece =>
      if piece = .plain closing then
        if taken = [] then fail ("missing " ++ what).toList 1 else return taken
      else takeUntil closing what bound (taken ++ piece.text)

def takeName (closing : Char) (what : String) : Reader (List Char) := do
  takeUntil closing what ((← get).rest.length + 1) []

def groupCount : Reader Nat := do
  return (← get).widths.length + 1

def isClosed (group : Nat) : Reader Bool := do
  return ((← get).widths[group - 1]?.join).isSome

def checkLookbehind (group : Nat) : Reader Unit := do
  match (← get).lookbehind with
  | none => return
  | some limit =>
    if !(← isClosed group) then fail "cannot refer to an open group".toList 0
    if limit ≤ group then
      fail "cannot refer to group defined in the same lookbehind subpattern".toList 0

end Reader

end Destructure.Regex
