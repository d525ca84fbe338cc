import Destructure.Failure
import Destructure.Template
import Destructure.Text.Blank

namespace Destructure

inductive Lexeme
  | openBracket
  | closeBracket
  | openBrace
  | closeBrace
  | comma
  | equals
  | pipe
  | name (text : String)
  | literal (number : Nat)
  deriving DecidableEq

structure Token where
  lexeme : Lexeme
  position : Int
  length : Nat
  deriving DecidableEq

namespace Lexeme

def kindName : Lexeme → String
  | .openBracket => "LBRACKET"
  | .closeBracket => "RBRACKET"
  | .openBrace => "LBRACE"
  | .closeBrace => "RBRACE"
  | .comma => "COMMA"
  | .equals => "EQUALS"
  | .pipe => "PIPE"
  | .name _ => "IDENTIFIER"
  | .literal _ => "LITERAL"

def punctuation? : Char → Option Lexeme
  | '[' => some .openBracket
  | ']' => some .closeBracket
  | '\x7b' => some .openBrace
  | '\x7d' => some .closeBrace
  | ',' => some .comma
  | '=' => some .equals
  | '|' => some .pipe
  | _ => none

def value : Lexeme → Value
  | .openBracket => .text "["
  | .closeBracket => .text "]"
  | .openBrace => .text "\x7b"
  | .closeBrace => .text "\x7d"
  | .comma => .text ","
  | .equals => .text "="
  | .pipe => .text "|"
  | .name text => .text text
  | .literal number => .int number

end Lexeme

namespace Token

def charsWhile (test : Char → Bool) (cells : List (Char × Int)) : List Char :=
  (cells.takeWhile fun cell => test cell.1).map (·.1)

def markerDigits? : List (Char × Int) → Option (List Char)
  | [] => none
  | (letter, _) :: rest =>
    let digits := charsWhile Char.isDigit rest
    let closing := (rest.drop digits.length).head?.map (·.1)
    if (letter = 'S' ∨ letter = 'N' ∨ letter = 'R') ∧ digits ≠ [] ∧
        closing = some markerChar then some digits
    else none

def lexemeAt (c : Char) (position : Int) (rest : List (Char × Int)) :
    Except Failure (Lexeme × Nat) :=
  if c = markerChar then
    match markerDigits? rest with
    | none => .error .malformedMarker
    | some digits =>
      if Number.maxDigits < digits.length then .error (.numeralTooLong digits.length)
      else .ok (.literal (Numeral.valueOfDigits digits), digits.length + 3)
  else
    match Lexeme.punctuation? c with
    | some lexeme => .ok (lexeme, 1)
    | none =>
      if Text.isNameStart c then
        let name := c :: charsWhile Text.isNameChar rest
        .ok (.name (String.ofList name), name.length)
      else .error (.ofError (.strayCharacter c position))

def scanFrom : (skip : Nat) → List (Char × Int) → Except Failure (List Token)
  | _, [] => .ok []
  | skip + 1, _ :: rest => scanFrom skip rest
  | 0, (c, position) :: rest =>
    if Text.isBlank c then scanFrom 0 rest
    else do
      let (lexeme, length) ← lexemeAt c position rest
      return ⟨lexeme, position, length⟩ :: (← scanFrom (length - 1) rest)

def scan (cells : List (Char × Int)) : Except Failure (List Token) :=
  scanFrom 0 cells

end Token

end Destructure
