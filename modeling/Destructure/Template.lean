import Destructure.Number

/-!
Templates: pattern texts from which the literals have been lifted out.

A template is a row of pieces, each of them a character of the pattern text or a whole literal. As a
text, a literal is shown by a marker: its kind and its number between two NUL characters. Every
character of that text belongs to a position of the pattern text, those of a marker to the position
of its literal.
-/

namespace Destructure

inductive Payload
  | text (value : List Char)
  | number (value : Number)
  | regex (source : List Char) (ignoreCase : Bool)
  deriving DecidableEq

structure Literal where
  payload : Payload
  raw : List Char
  position : Nat
  deriving DecidableEq

def Literal.letter (l : Literal) : Char :=
  match l.payload with
  | .text _ => 'S'
  | .number _ => 'N'
  | .regex _ _ => 'R'

inductive Piece
  | plain (c : Char) (position : Nat)
  | literal (l : Literal)
  deriving DecidableEq

def Piece.raw : Piece → List Char
  | .plain c _ => [c]
  | .literal l => l.raw

def literalsOf (pieces : List Piece) : List Literal :=
  pieces.filterMap fun
    | .plain _ _ => none
    | .literal l => some l

def markerChar : Char := '\x00'

def marker (number : Nat) (l : Literal) : List Char :=
  markerChar :: l.letter :: Nat.toDigits 10 number ++ [markerChar]

def cells (number : Nat) : List Piece → List (Char × Int)
  | [] => []
  | .plain c position :: rest => (c, position) :: cells number rest
  | .literal l :: rest =>
    (marker number l).map (fun c => (c, (l.position : Int))) ++ cells (number + 1) rest

structure Template where
  pieces : List Piece
  patternPieces : Option Nat

namespace Template

def literals (t : Template) : List Literal :=
  literalsOf t.pieces

def cells (t : Template) : List (Char × Int) :=
  Destructure.cells 1 t.pieces

def text (t : Template) : List Char :=
  t.cells.map (·.1)

def patternCells (t : Template) : List (Char × Int) :=
  match t.patternPieces with
  | none => t.cells
  | some count => Destructure.cells 1 (t.pieces.take count)

def conditionOffset (t : Template) : Option Nat :=
  t.patternPieces.map fun count => (Destructure.cells 1 (t.pieces.take count)).length

def conditionPosition (t : Template) : Option Nat :=
  t.patternPieces.map fun count => ((t.pieces.take count).flatMap Piece.raw).length

def literal? (t : Template) (number : Nat) : Option Literal :=
  if number = 0 then none else t.literals[number - 1]?

end Template

end Destructure
