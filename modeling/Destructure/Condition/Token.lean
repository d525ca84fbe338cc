import Destructure.Condition
import Destructure.Template.Lift

namespace Destructure.Condition

inductive Lexeme
  | openParen
  | closeParen
  | constant (value : Constant)
  | name (text : String)
  | negation
  | operator (op : Operator)
  deriving DecidableEq

structure Token where
  lexeme : Lexeme
  position : Int
  length : Nat
  deriving DecidableEq

namespace Lexeme

def kindName : Lexeme → String
  | .openParen => "LPAREN"
  | .closeParen => "RPAREN"
  | .constant (.number _) => "NUMBER"
  | .constant (.text _) => "STRING"
  | .constant (.boolean _) => "BOOLEAN"
  | .name _ => "IDENTIFIER"
  | .negation | .operator .and | .operator .or => "KEYWORD"
  | .operator _ => "OPERATOR"

def value : Lexeme → Value
  | .openParen => .text "("
  | .closeParen => .text ")"
  | .constant value => value.toValue
  | .name text => .text text
  | .negation => .text "not"
  | .operator op => .text op.text

def shown (l : Lexeme) : String :=
  match l.value with
  | .text s => s
  | other => String.ofList other.render

def ofWord (word : List Char) : Lexeme :=
  match word with
  | ['a', 'n', 'd'] => .operator .and
  | ['o', 'r'] => .operator .or
  | ['n', 'o', 't'] => .negation
  | ['t', 'r', 'u', 'e'] => .constant (.boolean true)
  | ['f', 'a', 'l', 's', 'e'] => .constant (.boolean false)
  | _ => .name (String.ofList word)

def operator? : List Char → Option Operator
  | '<' :: '=' :: _ => some .le
  | '>' :: '=' :: _ => some .ge
  | '=' :: '=' :: _ => some .eq
  | '!' :: '=' :: _ => some .ne
  | '<' :: _ => some .lt
  | '>' :: _ => some .gt
  | '+' :: _ => some .add
  | '-' :: _ => some .sub
  | '*' :: _ => some .mul
  | '/' :: _ => some .div
  | _ => none

end Lexeme

namespace Token

def quoted (quote : Char) : (position : Int) → List Char →
    Except (Option (Char × Int)) (List Char × Nat)
  | _, [] => .error none
  | _, [c] => if c = quote then .ok ([], 1) else .error none
  | position, c :: d :: rest =>
    if c = quote then .ok ([], 1)
    else if c = '\\' then
      match Lifting.unescape? d with
      | none => .error (some (d, position))
      | some e => (quoted quote (position + 2) rest).map fun (content, length) =>
          (e :: content, length + 2)
    else (quoted quote (position + 1) (d :: rest)).map fun (content, length) =>
        (c :: content, length + 1)

def ofNumeral (n : Numeral) : Except Failure Lexeme :=
  if n.isWhole then
    if Number.maxDigits < n.whole.length then .error (.numeralTooLong n.whole.length)
    else .ok (.constant (.number (.integer n.toNat)))
  else .ok (.constant (.number (.float (n.toBinary64 false))))

def lexemeAt (position : Int) (c : Char) (rest : List Char) : Except Failure (Lexeme × Nat) :=
  if c = '(' then .ok (.openParen, 1)
  else if c = ')' then .ok (.closeParen, 1)
  else if c = '"' ∨ c = '\'' then
    match quoted c (position + 1) rest with
    | .ok (content, length) => .ok (.constant (.text (String.ofList content)), length + 1)
    | .error (some (d, place)) => .error (.ofError (.unknownConditionEscape d place))
    | .error none =>
      .error (.ofError
        (.unterminatedConditionText (String.ofList ((c :: rest).take 10)) position))
  else
    match Numeral.split? (c :: rest) with
    | some (numeral, after) => do
      return (← ofNumeral numeral, rest.length + 1 - after.length)
    | none =>
      if Text.isNameStart c then
        let word := c :: rest.takeWhile Text.isNameChar
        .ok (Lexeme.ofWord word, word.length)
      else
        match Lexeme.operator? (c :: rest) with
        | some op => .ok (.operator op, op.text.length)
        | none => .error (.ofError (.strayConditionCharacter c position))

def scanFrom : (skip : Nat) → (position : Int) → List Char → Except Failure (List Token)
  | _, _, [] => .ok []
  | skip + 1, position, _ :: rest => scanFrom skip (position + 1) rest
  | 0, position, c :: rest =>
    if Text.isBlank c then scanFrom 0 (position + 1) rest
    else do
      let (lexeme, length) ← lexemeAt position c rest
      return ⟨lexeme, position, length⟩ :: (← scanFrom (length - 1) (position + 1) rest)

def scan (text : List Char) (position : Int) : Except Failure (List Token) :=
  scanFrom 0 position text

end Token

end Destructure.Condition
