import Destructure.Condition.Token
import Destructure.Text.Similar

/-!
Expressions from the tokens of a condition.

Operators of the same precedence are taken from the left. `not` and the minus sign bind more closely
than any operator between two operands. A name must be one that the pattern binds.

Reading goes token by token. An operator waits, with its left operand, for the operand on its right;
it is applied when an operator comes that does not bind more closely, or when the expression or the
parenthesis around it ends.
-/

namespace Destructure.Condition

inductive Frame
  | negation
  | minus
  | binary (operator : Operator) (left : Expression)
  | parenthesis (position : Int)
  deriving DecidableEq

structure Reading where
  frames : List Frame
  operand : Option Expression
  deriving DecidableEq

structure Source where
  names : List String
  text : String

namespace Reading

def start : Reading :=
  ⟨[], none⟩

def complete : List Frame → Expression → Reading
  | .negation :: frames, e => complete frames (.negation e)
  | .minus :: frames, e => complete frames (.minus e)
  | frames, e => ⟨frames, some e⟩

def reduce (precedence : Nat) : List Frame → Expression → List Frame × Expression
  | .binary operator left :: frames, e =>
    if precedence ≤ operator.precedence then reduce precedence frames (.binary operator left e)
    else (.binary operator left :: frames, e)
  | frames, e => (frames, e)

def openParenthesis? : List Frame → Option Int
  | [] => none
  | .parenthesis position :: _ => some position
  | _ :: frames => openParenthesis? frames

def resolve (source : Source) (name : String) (position : Int) : Except Failure Expression :=
  if source.names.contains name then .ok (.variable name)
  else
    let known := source.names.eraseDups
    .error (.ofError (.unknownVariable name position (Scope.sortNames known)
      (Text.similarNames name known)))

def beginOperand (source : Source) (frames : List Frame) (t : Token) : Except Failure Reading :=
  match t.lexeme with
  | .openParen => .ok ⟨.parenthesis t.position :: frames, none⟩
  | .negation => .ok ⟨.negation :: frames, none⟩
  | .operator .sub => .ok ⟨.minus :: frames, none⟩
  | .constant value => .ok (complete frames (.constant value))
  | .name name => return complete frames (← resolve source name t.position)
  | lexeme =>
    .error (.ofError
      (.unexpectedConditionToken lexeme.shown lexeme.kindName t.position source.text))

def refuse (source : Source) (frames : List Frame) (t : Token) : Failure :=
  match openParenthesis? frames with
  | some position => .ofError (.unterminatedParenthesis position source.text)
  | none => .ofError (.afterCondition t.lexeme.shown t.position source.text)

def afterOperand (source : Source) (frames : List Frame) (e : Expression) (t : Token) :
    Except Failure Reading :=
  match t.lexeme with
  | .operator op =>
    let (frames, left) := reduce op.precedence frames e
    .ok ⟨.binary op left :: frames, none⟩
  | .closeParen =>
    match reduce 0 frames e with
    | (.parenthesis _ :: outer, inner) => .ok (complete outer inner)
    | _ => .error (refuse source frames t)
  | _ => .error (refuse source frames t)

def step (source : Source) (r : Reading) (t : Token) : Except Failure Reading :=
  match r.operand with
  | none => beginOperand source r.frames t
  | some e => afterOperand source r.frames e t

def finish (source : Source) (r : Reading) : Except Failure Expression :=
  match r.operand with
  | none => .error (.ofError (.conditionBreaksOff source.text))
  | some e =>
    match openParenthesis? r.frames with
    | some position => .error (.ofError (.unterminatedParenthesis position source.text))
    | none => .ok (reduce 0 r.frames e).2

end Reading

def parse (source : Source) (tokens : List Token) : Except Failure Expression :=
  if tokens.isEmpty then .error (.ofError .emptyCondition)
  else do (← tokens.foldlM (Reading.step source) .start).finish source

end Destructure.Condition
