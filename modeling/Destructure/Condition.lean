import Destructure.Failure
import Destructure.Scope
import Destructure.Value.Equality

namespace Destructure

inductive Constant
  | number (value : Number)
  | text (value : String)
  | boolean (value : Bool)
  deriving DecidableEq

def Constant.toValue : Constant → Value
  | .number value => .number value
  | .text value => .text value
  | .boolean value => .boolean value

inductive Operator
  | or
  | and
  | lt
  | le
  | gt
  | ge
  | eq
  | ne
  | add
  | sub
  | mul
  | div
  deriving DecidableEq

namespace Operator

def text : Operator → String
  | .or => "or"
  | .and => "and"
  | .lt => "<"
  | .le => "<="
  | .gt => ">"
  | .ge => ">="
  | .eq => "=="
  | .ne => "!="
  | .add => "+"
  | .sub => "-"
  | .mul => "*"
  | .div => "/"

def precedence : Operator → Nat
  | .or => 1
  | .and => 2
  | .lt | .le | .gt | .ge | .eq | .ne => 3
  | .add | .sub => 4
  | .mul | .div => 5

def operandKinds : Operator → String
  | .add | .lt | .le | .gt | .ge => "two numbers or two strings"
  | _ => "two numbers"

def accepts : Operator → Ordering → Bool
  | .lt, order => order == .lt
  | .le, order => order != .gt
  | .gt, order => order == .gt
  | .ge, order => order != .lt
  | _, _ => false

def arithmetic? : Operator → Option (Number → Number → Except ArithmeticError Number)
  | .add => some Number.add
  | .sub => some Number.sub
  | .mul => some Number.mul
  | .div => some Number.div
  | _ => none

end Operator

inductive Expression
  | constant (value : Constant)
  | variable (name : String)
  | negation (operand : Expression)
  | minus (operand : Expression)
  | binary (operator : Operator) (left right : Expression)
  deriving DecidableEq

namespace Expression

def names : Expression → List String
  | .constant _ => []
  | .variable name => [name]
  | .negation operand | .minus operand => operand.names
  | .binary _ left right => left.names ++ right.names

def wrongOperands (operator : Operator) (left right : Value) : Failure :=
  .ofMismatch (.operands operator.text left right operator.operandKinds)

def compareTexts (a b : String) : Ordering :=
  if a = b then .eq else if a < b then .lt else .gt

def order (operator : Operator) : Value → Value → Except Failure Value
  | .number a, .number b => .ok (.boolean ((a.compare? b).any operator.accepts))
  | .text a, .text b => .ok (.boolean (operator.accepts (compareTexts a b)))
  | left, right => .error (wrongOperands operator left right)

def compute (operator : Operator) (operation : Number → Number → Except ArithmeticError Number) :
    Value → Value → Except Failure Value
  | .number a, .number b =>
    if operator = .div ∧ b.isZero then
      .error (.ofMismatch (.divisionByZero (.number a) (.number b)))
    else
      match operation a b with
      | .ok result => .ok (.number result)
      | .error reason =>
        .error (.ofMismatch (.arithmetic operator.text (.number a) (.number b) reason))
  | .text a, .text b =>
    if operator = .add then .ok (.text (a ++ b))
    else .error (wrongOperands operator (.text a) (.text b))
  | left, right => .error (wrongOperands operator left right)

def apply (operator : Operator) (left right : Value) : Except Failure Value :=
  match operator with
  | .eq => ((Value.equal left right).mapError Failure.raised).map .boolean
  | .ne => ((Value.equal left right).mapError Failure.raised).map fun b => .boolean !b
  | _ =>
    match operator.arithmetic? with
    | some operation => compute operator operation left right
    | none => order operator left right

def isTrue : Value → Bool
  | .boolean b => b
  | _ => false

def evaluate (scope : Scope) : Expression → Except Failure Value
  | .constant value => .ok value.toValue
  | .variable name =>
    match scope.get? name with
    | some value => .ok value
    | none => .error (.ofMismatch (.unboundVariable name (Scope.sortNames scope.names)))
  | .negation operand => do
    match ← operand.evaluate scope with
    | .boolean b => return .boolean !b
    | value => throw (.ofMismatch (.operand "not" value "boolean"))
  | .minus operand => do
    match ← operand.evaluate scope with
    | .number n => return .number n.neg
    | value => throw (.ofMismatch (.operand "-" value "number"))
  | .binary .and left right => do
    if isTrue (← left.evaluate scope) then return .boolean (isTrue (← right.evaluate scope))
    else return .boolean false
  | .binary .or left right => do
    if isTrue (← left.evaluate scope) then return .boolean true
    else return .boolean (isTrue (← right.evaluate scope))
  | .binary operator left right => do
    let leftValue ← left.evaluate scope
    apply operator leftValue (← right.evaluate scope)

end Expression

structure Condition where
  text : String
  expression : Expression

namespace Condition

def undecided (c : Condition) : Failure → Failure
  | .mismatch cause => .ofMismatch (.conditionUndecided c.text cause.report)
  | .raised ⟨.noMatch, message⟩ =>
    .ofMismatch (.conditionUndecided c.text { message := message })
  | failure => failure

def holds (c : Condition) (scope : Scope) : Except Failure Bool :=
  match c.expression.evaluate scope with
  | .ok value => .ok (Expression.isTrue value)
  | .error failure => .error (c.undecided failure)

end Condition

end Destructure
