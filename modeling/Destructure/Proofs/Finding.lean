import Destructure.Clauses
import Destructure.Proofs.Visit

namespace Destructure

namespace Finding

def isTold : Finding → Bool
  | .mismatch cause => cause.isWritable
  | .invalid _ => false
  | .raised fault => fault.kind == .noMatch

theorem isMismatch_failure (finding : Finding) :
    finding.failure.isMismatch = finding.isTold := by
  cases finding with
  | mismatch cause =>
    change (Failure.ofMismatch cause).isMismatch = cause.isWritable
    unfold Failure.ofMismatch
    cases cause.isWritable <;> rfl
  | invalid error =>
    change (Failure.ofError error).isMismatch = false
    unfold Failure.ofError
    split <;> rfl
  | raised fault => rfl

theorem failure_mismatch {cause : Mismatch} (h : cause.isWritable = false) :
    (Finding.mismatch cause).failure = .integerTooLong :=
  if_neg (Bool.eq_false_iff.mp h)

/-- What a finding leads to that is no fault of the pattern and is not told as a mismatch: a number
is too long to be written, or an error of its own is raised. -/
theorem failure_of_not_told {finding : Finding} (h : finding.isTold = false)
    (hv : ∀ error, finding ≠ .invalid error) :
    finding.failure = .integerTooLong ∨
      ∃ fault, finding.failure = .raised fault ∧ fault.kind ≠ .noMatch := by
  cases finding with
  | mismatch cause => exact Or.inl (failure_mismatch h)
  | invalid error => exact absurd rfl (hv error)
  | raised fault => exact Or.inr ⟨fault, rfl, ne_of_beq_false h⟩

end Finding

namespace Binding

def clashOther? (key : String) (existing value : Value) : Option Mismatch :=
  if existing.isScalar && value.isScalar then
    if Value.scalarsEqual existing value then none else some (.otherScalar key existing value)
  else if value.isSequence then some (.otherShape key existing value)
  else some (.neverEqual key existing value)

mutual

def clash? (key : String) : Value → Value → Option Mismatch
  | .list a, value =>
    match value.items? with
    | some b =>
      if a.length = b.length then clashItems? key 0 a b
      else some (.otherLength key (.list a) value a.length b.length)
    | none => some (.otherShape key (.list a) value)
  | .tuple a, value =>
    match value.items? with
    | some b =>
      if a.length = b.length then clashItems? key 0 a b
      else some (.otherLength key (.tuple a) value a.length b.length)
    | none => some (.otherShape key (.tuple a) value)
  | existing, value => clashOther? key existing value

def clashItems? (key : String) (index : Nat) : List Value → List Value → Option Mismatch
  | a :: as, b :: bs =>
    (clash? (elementKey key index) a b).or (clashItems? key (index + 1) as bs)
  | _, _ => none

end

def answer : Option Mismatch → Except Failure Unit
  | none => .ok ()
  | some cause => .error (.ofMismatch cause)

theorem checkOther_eq (key : String) (existing value : Value) :
    checkOther key existing value = answer (clashOther? key existing value) := by
  unfold checkOther clashOther?
  repeat' split
  all_goals rfl

mutual

theorem check_eq (key : String) (existing value : Value) :
    check key existing value = answer (clash? key existing value) := by
  match existing with
  | .list a =>
    rw [check, clash?]
    cases value.items? with
    | none => rfl
    | some b =>
      dsimp only
      split
      · exact checkItems_eq key 0 a b
      · rfl
  | .tuple a =>
    rw [check, clash?]
    cases value.items? with
    | none => rfl
    | some b =>
      dsimp only
      split
      · exact checkItems_eq key 0 a b
      · rfl
  | .null | .boolean _ | .number _ | .text _ | .mapping _ | .store _ _ _ _ | .bytes _ _
  | .object _ _ _ _ => exact checkOther_eq key _ value

theorem checkItems_eq (key : String) (index : Nat) (a b : List Value) :
    checkItems key index a b = answer (clashItems? key index a b) := by
  match a, b with
  | x :: as, y :: bs =>
    rw [checkItems, clashItems?, check_eq (elementKey key index) x y,
      checkItems_eq key (index + 1) as bs]
    cases clash? (elementKey key index) x y <;> rfl
  | [], _ => rfl
  | _ :: _, [] => rfl

end

def refusal? (policy : Policy) (scope : Scope) : List (String × Value) → Option Mismatch
  | [] => none
  | (name, value) :: rest =>
    match policy, scope.get? name with
    | .agree, some existing => (clash? name existing value).or (refusal? policy scope rest)
    | _, _ => refusal? policy (scope.set name value) rest

theorem failure_bindEach (policy : Policy) (scope : Scope) (bindings : List (String × Value)) :
    (bindEach policy scope bindings).failure =
      (refusal? policy scope bindings).map Failure.ofMismatch := by
  induction bindings generalizing scope with
  | nil => rfl
  | cons binding rest ih =>
    obtain ⟨name, value⟩ := binding
    unfold bindEach refusal? bind
    cases policy with
    | overwrite => exact ih _
    | agree =>
      cases scope.get? name with
      | none => exact ih _
      | some existing =>
        dsimp only
        rw [check_eq]
        cases clash? name existing value with
        | none => exact ih scope
        | some cause => rfl

end Binding

def Visit.misfit? (v : Visit) (policy : Policy) (scope : Scope) : Option Finding :=
  ((Binding.refusal? policy scope v.bindings).map Finding.mismatch).or v.finding

theorem Visit.failure_replay (v : Visit) (policy : Policy) (scope : Scope) :
    (v.replay policy scope).failure = (v.misfit? policy scope).map Finding.failure := by
  have h := Binding.failure_bindEach policy scope v.bindings
  unfold replay misfit?
  generalize Binding.bindEach policy scope v.bindings = o at h ⊢
  obtain ⟨bound, failure⟩ := o
  obtain rfl : failure = _ := h
  cases Binding.refusal? policy scope v.bindings <;> rfl

namespace Expression

def orderMisfit? (operator : Operator) : Value → Value → Option Finding
  | .number _, .number _ | .text _, .text _ => none
  | left, right => some (.mismatch (.operands operator.text left right operator.operandKinds))

def computeMisfit? (operator : Operator)
    (operation : Number → Number → Except ArithmeticError Number) : Value → Value → Option Finding
  | .number a, .number b =>
    if operator = .div ∧ b.isZero then some (.mismatch (.divisionByZero (.number a) (.number b)))
    else
      match operation a b with
      | .ok _ => none
      | .error reason =>
        some (.mismatch (.arithmetic operator.text (.number a) (.number b) reason))
  | .text a, .text b =>
    if operator = .add then none
    else some (.mismatch (.operands operator.text (.text a) (.text b) operator.operandKinds))
  | left, right => some (.mismatch (.operands operator.text left right operator.operandKinds))

def operandsMisfit? (operator : Operator) (left right : Value) : Option Finding :=
  match operator with
  | .eq | .ne =>
    match Value.equal left right with
    | .ok _ => none
    | .error fault => some (.raised fault)
  | _ =>
    match operator.arithmetic? with
    | some operation => computeMisfit? operator operation left right
    | none => orderMisfit? operator left right

def Agrees {α : Type} (finding : Option Finding) (result : Except Failure α) : Prop :=
  match finding with
  | none => ∃ value, result = .ok value
  | some found => result = .error found.failure

theorem agrees_order (operator : Operator) (left right : Value) :
    Agrees (orderMisfit? operator left right) (order operator left right) := by
  cases left <;> cases right
  case number.number => exact ⟨_, rfl⟩
  case text.text => exact ⟨_, rfl⟩
  all_goals rfl

theorem agrees_compute (operator : Operator)
    (operation : Number → Number → Except ArithmeticError Number) (left right : Value) :
    Agrees (computeMisfit? operator operation left right)
      (compute operator operation left right) := by
  cases left <;> cases right
  case number.number a b =>
    rw [computeMisfit?, compute]
    by_cases hz : operator = .div ∧ b.isZero = true
    · rw [if_pos hz, if_pos hz]
      rfl
    · rw [if_neg hz, if_neg hz]
      cases operation a b with
      | ok result => exact ⟨_, rfl⟩
      | error reason => rfl
  case text.text a b =>
    rw [computeMisfit?, compute]
    by_cases ha : operator = .add
    · rw [if_pos ha, if_pos ha]
      exact ⟨_, rfl⟩
    · rw [if_neg ha, if_neg ha]
      rfl
  all_goals rfl

theorem agrees_apply (operator : Operator) (left right : Value) :
    Agrees (operandsMisfit? operator left right) (apply operator left right) := by
  have hequal (f : Bool → Value) :
      Agrees (match Value.equal left right with
        | .ok _ => none
        | .error fault => some (.raised fault))
        (((Value.equal left right).mapError Failure.raised).map f) := by
    cases Value.equal left right with
    | ok same => exact ⟨f same, rfl⟩
    | error fault => rfl
  cases operator with
  | eq => exact hequal _
  | ne => exact hequal _
  | or => exact agrees_order .or left right
  | and => exact agrees_order .and left right
  | lt => exact agrees_order .lt left right
  | le => exact agrees_order .le left right
  | gt => exact agrees_order .gt left right
  | ge => exact agrees_order .ge left right
  | add => exact agrees_compute .add _ left right
  | sub => exact agrees_compute .sub _ left right
  | mul => exact agrees_compute .mul _ left right
  | div => exact agrees_compute .div _ left right

def misfit? (scope : Scope) : Expression → Option Finding
  | .constant _ => none
  | .variable name =>
    if (scope.get? name).isSome then none
    else some (.mismatch (.unboundVariable name (Scope.sortNames scope.names)))
  | .negation operand =>
    (operand.misfit? scope).or
      (match operand.evaluate scope with
      | .ok (.boolean _) | .error _ => none
      | .ok value => some (.mismatch (.operand "not" value "boolean")))
  | .minus operand =>
    (operand.misfit? scope).or
      (match operand.evaluate scope with
      | .ok (.number _) | .error _ => none
      | .ok value => some (.mismatch (.operand "-" value "number")))
  | .binary .and left right =>
    (left.misfit? scope).or
      (match left.evaluate scope with
      | .ok value => if isTrue value then right.misfit? scope else none
      | .error _ => none)
  | .binary .or left right =>
    (left.misfit? scope).or
      (match left.evaluate scope with
      | .ok value => if isTrue value then none else right.misfit? scope
      | .error _ => none)
  | .binary operator left right =>
    (left.misfit? scope).or <| (right.misfit? scope).or
      (match left.evaluate scope, right.evaluate scope with
      | .ok a, .ok b => operandsMisfit? operator a b
      | _, _ => none)

theorem agrees_bind {α β : Type} {first second : Option Finding} {x : Except Failure α}
    {f : α → Except Failure β} (hx : Agrees first x)
    (hf : ∀ value, x = .ok value → Agrees second (f value)) :
    Agrees (first.or second) (x >>= f) := by
  cases first with
  | none =>
    obtain ⟨value, rfl⟩ := hx
    exact hf value rfl
  | some found =>
    obtain rfl : x = _ := hx
    rfl

theorem agrees_map {α β : Type} {finding : Option Finding} {x : Except Failure α} (f : α → β)
    (hx : Agrees finding x) : Agrees finding (x >>= fun value => pure (f value)) := by
  rw [← Option.or_none (o := finding)]
  exact agrees_bind hx fun value _ => ⟨f value, rfl⟩

theorem agrees_evaluate (scope : Scope) (e : Expression) :
    Agrees (e.misfit? scope) (e.evaluate scope) := by
  induction e with
  | constant value => exact ⟨_, rfl⟩
  | «variable» name =>
    unfold misfit? evaluate
    cases scope.get? name with
    | some value => exact ⟨value, rfl⟩
    | none => rfl
  | negation operand ih =>
    rw [misfit?, evaluate]
    refine agrees_bind ih fun value hv => ?_
    rw [hv]
    cases value
    case boolean b => exact ⟨_, rfl⟩
    all_goals rfl
  | minus operand ih =>
    rw [misfit?, evaluate]
    refine agrees_bind ih fun value hv => ?_
    rw [hv]
    cases value
    case number n => exact ⟨_, rfl⟩
    all_goals rfl
  | binary operator left right ihl ihr =>
    cases operator
    case and =>
      rw [misfit?, evaluate]
      refine agrees_bind ihl fun value hv => ?_
      rw [hv]
      dsimp only
      split
      · exact agrees_map _ ihr
      · exact ⟨_, rfl⟩
    case or =>
      rw [misfit?, evaluate]
      refine agrees_bind ihl fun value hv => ?_
      rw [hv]
      dsimp only
      split
      · exact ⟨_, rfl⟩
      · exact agrees_map _ ihr
    all_goals
      rw [misfit?, evaluate]
      · refine agrees_bind ihl fun a ha => agrees_bind ihr fun b hb => ?_
        rw [ha, hb]
        exact agrees_apply _ a b
      all_goals
        rintro ⟨⟩

theorem operandsMisfit?_ne_invalid {operator : Operator} {left right : Value} {finding : Finding}
    (h : operandsMisfit? operator left right = some finding) (error : PatternError) :
    finding ≠ .invalid error := by
  rintro rfl
  have horder : orderMisfit? operator left right ≠ some (.invalid error) := by
    unfold orderMisfit?
    split <;> exact fun h => nomatch h
  have hcompute (operation) : computeMisfit? operator operation left right ≠ some (.invalid error) := by
    unfold computeMisfit?
    repeat' split
    all_goals exact fun h => nomatch h
  unfold operandsMisfit? at h
  repeat' split at h
  all_goals first
    | exact horder h
    | exact hcompute _ h
    | cases h

/-- Evaluating an expression finds no fault of a pattern. -/
theorem misfit?_ne_invalid {scope : Scope} {e : Expression} {finding : Finding}
    (h : e.misfit? scope = some finding) (error : PatternError) : finding ≠ .invalid error := by
  rintro rfl
  induction e with
  | constant value => cases h
  | «variable» name =>
    unfold misfit? at h
    split at h <;> cases h
  | negation operand ih | minus operand ih =>
    rw [misfit?, Option.or_eq_some_iff] at h
    rcases h with h | ⟨-, h⟩
    · exact ih h
    · split at h <;> cases h
  | binary operator left right ihl ihr =>
    cases operator
    case and | or =>
      rw [misfit?, Option.or_eq_some_iff] at h
      rcases h with h | ⟨-, h⟩
      · exact ihl h
      · repeat' split at h
        all_goals first
          | exact ihr h
          | cases h
    all_goals
      rw [misfit?, Option.or_eq_some_iff, Option.or_eq_some_iff] at h
      · rcases h with h | ⟨-, h | ⟨-, h⟩⟩
        · exact ihl h
        · exact ihr h
        · split at h
          · exact operandsMisfit?_ne_invalid h error rfl
          · cases h
      all_goals
        rintro ⟨⟩

end Expression

end Destructure
