import Destructure.Condition.Parse
import Destructure.Proofs.Outcome

namespace Destructure.Condition.Reading

open Run (Meets meets_ok meets_error)

inductive Advances (source : Source) (t : Token) : Reading → Reading → Prop
  | openParen {frames : List Frame} (ht : t.lexeme = .openParen) :
      Advances source t ⟨frames, none⟩ ⟨.parenthesis t.position :: frames, none⟩
  | negation {frames : List Frame} (ht : t.lexeme = .negation) :
      Advances source t ⟨frames, none⟩ ⟨.negation :: frames, none⟩
  | minus {frames : List Frame} (ht : t.lexeme = .operator .sub) :
      Advances source t ⟨frames, none⟩ ⟨.minus :: frames, none⟩
  | constant {frames : List Frame} {value : Constant} (ht : t.lexeme = .constant value) :
      Advances source t ⟨frames, none⟩ (complete frames (.constant value))
  | name {frames : List Frame} {name : String} (ht : t.lexeme = .name name)
      (hn : name ∈ source.names) :
      Advances source t ⟨frames, none⟩ (complete frames (.variable name))
  | operator {frames outer : List Frame} {e left : Expression} {op : Operator}
      (ht : t.lexeme = .operator op) (hr : reduce op.precedence frames e = (outer, left)) :
      Advances source t ⟨frames, some e⟩ ⟨.binary op left :: outer, none⟩
  | closeParen {frames outer : List Frame} {e inner : Expression} {position : Int}
      (ht : t.lexeme = .closeParen)
      (hr : reduce 0 frames e = (.parenthesis position :: outer, inner)) :
      Advances source t ⟨frames, some e⟩ (complete outer inner)

inductive Refuses (source : Source) (t : Token) : Reading → PatternError → Prop
  | unknownVariable {frames : List Frame} {name : String} {known : List String}
      {similar : List String} (ht : t.lexeme = .name name) :
      Refuses source t ⟨frames, none⟩ (.unknownVariable name t.position known similar)
  | unexpected {frames : List Frame} :
      Refuses source t ⟨frames, none⟩
        (.unexpectedConditionToken t.lexeme.shown t.lexeme.kindName t.position source.text)
  | unterminated {frames : List Frame} {e : Expression} {position : Int}
      (ho : openParenthesis? frames = some position) :
      Refuses source t ⟨frames, some e⟩ (.unterminatedParenthesis position source.text)
  | afterCondition {frames : List Frame} {e : Expression} (ho : openParenthesis? frames = none) :
      Refuses source t ⟨frames, some e⟩
        (.afterCondition t.lexeme.shown t.position source.text)

inductive BreaksOff (source : Source) : Reading → PatternError → Prop
  | operand {frames : List Frame} :
      BreaksOff source ⟨frames, none⟩ (.conditionBreaksOff source.text)
  | unterminated {frames : List Frame} {e : Expression} {position : Int}
      (ho : openParenthesis? frames = some position) :
      BreaksOff source ⟨frames, some e⟩ (.unterminatedParenthesis position source.text)

inductive Ends : Reading → Expression → Prop
  | operand {frames : List Frame} {e : Expression} (ho : openParenthesis? frames = none) :
      Ends ⟨frames, some e⟩ (reduce 0 frames e).2

variable {source : Source} {r next : Reading} {frames : List Frame} {e : Expression} {t : Token}

theorem resolve_of_mem {name : String} (hn : name ∈ source.names) (position : Int) :
    resolve source name position = .ok (.variable name) :=
  if_pos (List.contains_iff_mem.mpr hn)

theorem meets_beginOperand :
    Meets (Advances source t ⟨frames, none⟩)
      (fun failure => ∃ error, failure = .invalid error ∧ Refuses source t ⟨frames, none⟩ error)
      (beginOperand source frames t) := by
  unfold beginOperand
  split
  · exact meets_ok (.openParen ‹_›)
  · exact meets_ok (.negation ‹_›)
  · exact meets_ok (.minus ‹_›)
  · exact meets_ok (.constant ‹_›)
  · rename_i name ht
    by_cases hn : name ∈ source.names
    · rw [resolve_of_mem hn]
      exact meets_ok (.name ht hn)
    · have hunknown : ¬ source.names.contains name = true := fun h => hn (List.contains_iff_mem.mp h)
      unfold resolve
      rw [if_neg hunknown]
      exact meets_error ⟨_, rfl, .unknownVariable ht⟩
  · exact meets_error ⟨_, rfl, .unexpected⟩

theorem exists_refuses (source : Source) (frames : List Frame) (e : Expression) (t : Token) :
    ∃ error, refuse source frames t = .invalid error ∧ Refuses source t ⟨frames, some e⟩ error := by
  unfold refuse
  split
  · exact ⟨_, rfl, .unterminated ‹_›⟩
  · exact ⟨_, rfl, .afterCondition ‹_›⟩

theorem meets_afterOperand :
    Meets (Advances source t ⟨frames, some e⟩)
      (fun failure => ∃ error, failure = .invalid error ∧ Refuses source t ⟨frames, some e⟩ error)
      (afterOperand source frames e t) := by
  unfold afterOperand
  split
  · exact meets_ok (.operator ‹_› rfl)
  · split
    · exact meets_ok (.closeParen ‹_› ‹_›)
    · exact meets_error (exists_refuses source frames e t)
  · exact meets_error (exists_refuses source frames e t)

/-- A token is taken, or refused. -/
theorem meets_step :
    Meets (Advances source t r)
      (fun failure => ∃ error, failure = .invalid error ∧ Refuses source t r error)
      (step source r t) := by
  obtain ⟨frames, operand⟩ := r
  cases operand with
  | none => exact meets_beginOperand
  | some e => exact meets_afterOperand

/-- The end of the tokens is the end of an expression, or comes too early. -/
theorem meets_finish :
    Meets (Ends r) (fun failure => ∃ error, failure = .invalid error ∧ BreaksOff source r error)
      (r.finish source) := by
  obtain ⟨frames, operand⟩ := r
  unfold finish
  cases operand with
  | none => exact meets_error ⟨_, rfl, .operand⟩
  | some e =>
    dsimp only
    split
    · exact meets_error ⟨_, rfl, .unterminated ‹_›⟩
    · exact meets_ok (.operand ‹_›)

/-- Every token is taken of which something can be made. -/
theorem step_of_advances (h : Advances source t r next) : step source r t = .ok next := by
  unfold step
  cases h with
  | openParen ht | negation ht | minus ht | constant ht =>
    dsimp only
    unfold beginOperand
    rw [ht]
  | name ht hn =>
    dsimp only
    unfold beginOperand
    rw [ht]
    exact Run.bind_eq_ok.mpr ⟨_, resolve_of_mem hn t.position, rfl⟩
  | operator ht hr | closeParen ht hr =>
    dsimp only
    unfold afterOperand
    rw [ht]
    dsimp only
    rw [hr]

theorem step_eq_ok : step source r t = .ok next ↔ Advances source t r next :=
  ⟨meets_step.of_ok next, step_of_advances⟩

theorem finish_of_ends (h : Ends r e) : r.finish source = .ok e := by
  cases h with
  | operand ho =>
    unfold finish
    dsimp only
    rw [ho]

end Destructure.Condition.Reading
