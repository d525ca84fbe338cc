import Destructure.Proofs.Conditional
import Destructure.Proofs.Pattern.WellFormed

/-!
When a value that does not match is reported as a mismatch. A match in an engine comes upon a first
misfit, or upon none. Main statement: without a misfit it succeeds; a misfit that can be told is
reported as a mismatch, and a dispatch goes on to its next clause; any other misfit ends in the
failure to write a number or in an error that a comparison raises, and ends a dispatch.
-/

namespace Destructure

namespace Pattern

/-- A pattern that has been read is never found faulty in a match. -/
theorem finding_visit_ne_invalid {P : Payload → Prop} {p : Pattern} (hp : p.IsRead P)
    (value : Value) (error : PatternError) : (p.visit value).finding ≠ some (.invalid error) := by
  intro h
  obtain ⟨cause, hc⟩ :=
    (breaks_iff.mpr ⟨h, rfl⟩).exists_mismatch fun _ => wellFormed_of_isRead hp
  cases hc

end Pattern

namespace Compiled

def misfit? (compiled : Compiled) (policy : Policy) (source : Value) (scope : Scope) :
    Option Finding :=
  ((compiled.tree.visit source).misfit? policy scope).or
    (match compiled.condition with
    | none => none
    | some condition =>
      let bound := (compiled.tree.bindAll policy source scope).scope
      (condition.expression.misfit? bound).or
        (match condition.expression.evaluate bound with
        | .ok value =>
          if Expression.isTrue value then none
          else some (.mismatch (.conditionNotMet condition.text compiled.text
            (compiled.matchedBindings bound)))
        | .error _ => none))

def Reports (misfit : Option Finding) (outcome : Outcome) : Prop :=
  match misfit with
  | none => ∃ result, outcome = .matched result
  | some finding => ∃ failure, outcome.failure = some failure ∧
      (if finding.isTold then failure.isMismatch = true
      else failure = finding.failure ∧
        (failure = .integerTooLong ∨ ∃ fault, failure = .raised fault ∧ fault.kind ≠ .noMatch))

theorem reports_of_failure {misfit : Option Finding} {outcome : Outcome}
    (h : outcome.failure = misfit.map Finding.failure)
    (hv : ∀ error, misfit ≠ some (.invalid error)) : Reports misfit outcome := by
  cases misfit with
  | none => exact ⟨_, Outcome.eq_matched h⟩
  | some finding =>
    refine ⟨finding.failure, h, ?_⟩
    split
    · rename_i ht
      rw [Finding.isMismatch_failure, ht]
    · rename_i ht
      exact ⟨rfl, Finding.failure_of_not_told (Bool.eq_false_iff.mpr ht)
        fun error he => hv error (congrArg some he)⟩

/-- A mismatch in a condition is told as one of the condition. -/
theorem undecided_eq (condition : Condition) (finding : Finding) :
    if finding.isTold then (condition.undecided finding.failure).isMismatch = true
    else condition.undecided finding.failure = finding.failure := by
  cases finding with
  | mismatch cause =>
    change if cause.isWritable = true then
      (condition.undecided (.ofMismatch cause)).isMismatch = true
      else condition.undecided (.ofMismatch cause) = .ofMismatch cause
    unfold Failure.ofMismatch
    by_cases hw : cause.isWritable = true
    · rw [if_pos hw, if_pos hw]
      rfl
    · rw [if_neg hw, if_neg hw]
      rfl
  | invalid error =>
    change condition.undecided (Failure.ofError error) = Failure.ofError error
    unfold Failure.ofError
    split <;> rfl
  | raised fault =>
    obtain ⟨kind, message⟩ := fault
    cases kind <;> rfl

/-- A condition that comes upon a misfit reports it. -/
theorem reports_undecided (condition : Condition) {finding : Finding}
    (hv : ∀ error, finding ≠ .invalid error) (scope : Scope) :
    Reports (some finding) (.failed scope (condition.undecided finding.failure)) := by
  refine ⟨condition.undecided finding.failure, rfl, ?_⟩
  have hu := undecided_eq condition finding
  split
  · rename_i ht
    rwa [if_pos ht] at hu
  · rename_i ht
    rw [if_neg ht] at hu
    rw [hu]
    exact ⟨rfl, Finding.failure_of_not_told (Bool.eq_false_iff.mpr ht) hv⟩

theorem reports_bindIn {P : Payload → Prop} {compiled : Compiled} (hp : compiled.tree.IsRead P)
    (hn : ∀ condition, compiled.condition = some condition →
      ∀ name ∈ condition.expression.names, name ∈ compiled.tree.variableNames)
    (policy : Policy) (source : Value) (scope : Scope) :
    Reports (compiled.misfit? policy source scope) (compiled.bindIn policy source scope) := by
  have hdirect : (compiled.tree.bindAll policy source scope).failure =
      ((compiled.tree.visit source).misfit? policy scope).map Finding.failure := by
    rw [Pattern.bindAll_eq_replay, Visit.failure_replay]
  have hvalid (error : PatternError) :
      (compiled.tree.visit source).misfit? policy scope ≠ some (.invalid error) := by
    unfold Visit.misfit?
    cases Binding.refusal? policy scope (compiled.tree.visit source).bindings with
    | none => exact Pattern.finding_visit_ne_invalid hp source error
    | some cause => exact fun h => nomatch h
  unfold misfit?
  generalize (compiled.tree.visit source).misfit? policy scope = misfit at hdirect hvalid ⊢
  cases hc : compiled.condition with
  | none =>
    rw [Option.or_none]
    refine reports_of_failure ?_ hvalid
    rw [bindIn_of_none policy source scope hc]
    exact hdirect
  | some condition =>
    rw [bindIn_of_condition policy source scope hc (hn condition hc)]
    dsimp only
    cases misfit with
    | some finding =>
      rw [hdirect]
      exact reports_of_failure rfl hvalid
    | none =>
      rw [hdirect]
      have he := condition.expression.agrees_evaluate (compiled.tree.bindAll policy source scope).scope
      unfold Condition.holds
      generalize (compiled.tree.bindAll policy source scope).scope = bound at he ⊢
      cases hm : condition.expression.misfit? bound with
      | some finding =>
        rw [hm] at he
        obtain he : condition.expression.evaluate bound = .error finding.failure := he
        rw [he]
        exact reports_undecided condition (Expression.misfit?_ne_invalid hm) scope
      | none =>
        rw [hm] at he
        obtain ⟨value, hv⟩ := he
        rw [hv]
        dsimp only [Option.none_or]
        cases Expression.isTrue value with
        | true => exact ⟨_, rfl⟩
        | false => exact reports_of_failure rfl fun error h => nomatch h

end Compiled

theorem Value.isWritable_int (n : Int) :
    (Value.int n).isWritable = decide (n.natAbs < Binary64.tenTo Number.maxDigits) :=
  rfl

namespace Engine

variable {e : Engine} {text : WideText} {compiled : Compiled}

/-- A match in an engine reports its misfit. -/
theorem reports_destructure (he : e.Reached) (hrequest : (e.request text).1 = .ok compiled)
    (source : Value) (scope : Scope) :
    Compiled.Reports (compiled.misfit? e.policy source scope)
      (e.destructure text source scope).1 := by
  have hcompile := he.compile_of_request hrequest
  have hread : compiled.tree.IsRead fun _ => True :=
    isRead_readPattern (compile_eq_ok_iff.mp hcompile).1 fun _ _ _ _ => trivial
  rw [destructure_of_request hrequest]
  exact Compiled.reports_bindIn hread (fun c hc name hm => names_of_compile hcompile hc hm) ..

theorem snd_destructure (source : Value) (scope : Scope) :
    (e.destructure text source scope).2 = (e.request text).2 := by
  unfold destructure
  generalize e.request text = answer
  obtain ⟨result, next⟩ := answer
  cases result <;> rfl

theorem dispatchTo_cons {α : Type} (invoke : α → Scope → Except Failure Value) (source : Value)
    (action : α) (rest : List (WideText × α)) :
    e.dispatchTo invoke source ((text, action) :: rest) =
      let outcome := (e.destructure text source .empty).1
      match outcome.failure with
      | none => ⟨invoke action outcome.scope, some outcome.scope, (e.request text).2⟩
      | some failure =>
        if failure.isMismatch then (e.request text).2.dispatchTo invoke source rest
        else ⟨.error failure, none, (e.request text).2⟩ := by
  rw [← snd_destructure source .empty]
  unfold dispatchTo
  rw [enactTo]
  dsimp only
  cases (e.destructure text source .empty).1.failure with
  | none => rfl
  | some failure =>
    dsimp only
    cases failure.isMismatch <;> rfl

/-- What a match reports, and what a dispatch makes of its first clause. The scope or a mismatch is
all that comes of a match, and a dispatch goes on after a mismatch, exactly as long as no misfit
comes up that cannot be told: one that shows a number too long to be written, or an error of its own
that a comparison in the condition raises. -/
theorem destructure_told (he : e.Reached) (hrequest : (e.request text).1 = .ok compiled)
    (source : Value) (scope : Scope) :
    let outcome := (e.destructure text source scope).1
    let next := (e.request text).2
    (compiled.misfit? e.policy source scope = none → ∃ result, outcome = .matched result) ∧
    (∀ finding, compiled.misfit? e.policy source scope = some finding →
      ∃ failure, outcome.failure = some failure ∧
        (failure.isMismatch = true ↔ finding.isTold = true) ∧
        (finding.isTold = false → failure = finding.failure ∧
          (failure = .integerTooLong ∨
            ∃ fault, failure = .raised fault ∧ fault.kind ≠ .noMatch))) ∧
    ∀ {α : Type} (invoke : α → Scope → Except Failure Value) (action : α)
      (rest : List (WideText × α)),
      e.dispatchTo invoke source ((text, action) :: rest) =
        match compiled.misfit? e.policy source .empty with
        | none =>
          let bound := (e.destructure text source .empty).1.scope
          ⟨invoke action bound, some bound, next⟩
        | some finding =>
          if finding.isTold then next.dispatchTo invoke source rest
          else ⟨.error finding.failure, none, next⟩ := by
  intro outcome next
  have hreports := reports_destructure he hrequest source
  refine ⟨fun hm => ?_, fun finding hm => ?_, fun invoke action rest => ?_⟩
  · have h := hreports scope
    rw [hm] at h
    exact h
  · have h := hreports scope
    rw [hm] at h
    obtain ⟨failure, hf, h⟩ := h
    refine ⟨failure, hf, ?_⟩
    cases ht : finding.isTold with
    | true =>
      rw [ht, if_pos rfl] at h
      exact ⟨iff_of_true h rfl, fun hn => nomatch hn⟩
    | false =>
      rw [ht, if_neg Bool.false_ne_true] at h
      rw [h.1, Finding.isMismatch_failure, ht]
      exact ⟨Iff.rfl, fun _ => ⟨rfl, h.1 ▸ h.2⟩⟩
  · have h := hreports .empty
    rw [dispatchTo_cons]
    cases hm : compiled.misfit? e.policy source .empty with
    | none =>
      rw [hm] at h
      obtain ⟨result, h⟩ := h
      rw [h]
      rfl
    | some finding =>
      rw [hm] at h
      obtain ⟨failure, hf, h⟩ := h
      dsimp only
      rw [hf]
      cases ht : finding.isTold with
      | true =>
        rw [ht, if_pos rfl] at h
        simp only [h, if_true]
        rfl
      | false =>
        rw [ht, if_neg Bool.false_ne_true] at h
        simp only [h.1, Finding.isMismatch_failure, ht]
        rfl

/-- A number that is not below one is a mismatch. A list is none if it holds a number of 4301 digits,
since that cannot be shown. -/
theorem destructure_told_belowOne :
    let outcome := fun source =>
      ((Engine.new .overwrite).destructure belowOne.text source .empty).1
    (∃ failure, (outcome (.int 5)).failure = some failure ∧ failure.isMismatch = true) ∧
      (outcome (.list [.int (Binary64.tenTo Number.maxDigits)])).failure =
        some .integerTooLong := by
  intro outcome
  have hr : ((Engine.new .overwrite).request belowOne.text).1 = .ok belowOne := by
    rw [request_new, compile_belowOne]
  have h (source : Value) := (destructure_told (.new .overwrite) hr source .empty).2.1
  constructor
  · obtain ⟨failure, hf, ht, -⟩ := h (.int 5)
      (.mismatch (.conditionNotMet "n < 1" belowOne.text [(.text "n", .int 5)])) rfl
    exact ⟨failure, hf, ht.mpr (by decide +kernel)⟩
  · have hfails (n : Int) (hw : (Value.int n).isWritable = false) :
        (outcome (.list [.int n])).failure = some .integerTooLong := by
      have hm : belowOne.misfit? .overwrite (.list [.int n]) .empty =
          some (.mismatch (.operands "<" (.list [.int n]) (.int 1)
            "two numbers or two strings")) := rfl
      have hu : (Mismatch.operands "<" (.list [.int n]) (.int 1)
          "two numbers or two strings").isWritable = false := by
        rw [Mismatch.isWritable, Value.isWritable, Value.itemsWritable, hw]
        rfl
      obtain ⟨failure, hf, -, hn⟩ := h _ _ hm
      rw [hf, (hn hu).1, Finding.failure_mismatch hu]
    have hlong : (Value.int (Binary64.tenTo Number.maxDigits)).isWritable = false := by
      rw [Value.isWritable_int, Int.natAbs_natCast]
      simp only [Nat.lt_irrefl, decide_false]
    exact hfails _ hlong

end Engine

end Destructure
