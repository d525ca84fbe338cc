import Destructure.Proofs.Compile.Refusal
import Destructure.Proofs.Dispatch
import Destructure.Proofs.Binding

/-!
Which names have a value after a match. A match that succeeds gives values to the variables of its
pattern and to no other name, and the discard never has one from a match. A condition mentions only
variables of its pattern, and is asked only after the pattern has matched. Main statement: so no
match ever fails because a variable of a condition has no value.
-/

namespace Destructure

open Run (FailsOnly failsOnly_ok failsOnly_error)

namespace Binding

theorem get?_bind_of_ne (policy : Policy) (scope : Scope) {name key : String} (h : name ≠ key)
    (value : Value) :
    (bind policy scope key value).scope.get? name = scope.get? name := by
  have hset : (scope.set key value).get? name = scope.get? name := by
    rw [Scope.get?_set, if_neg h]
  unfold bind
  split
  · split
    · rfl
    · rfl
  · exact hset

/-- Names that are not bound keep the values that they have, however the bindings end. -/
theorem get?_bindEach_of_notMem {policy : Policy} {scope : Scope} {name : String}
    {bindings : List (String × Value)} (h : name ∉ bindings.map Prod.fst) :
    (bindEach policy scope bindings).scope.get? name = scope.get? name := by
  induction bindings generalizing scope with
  | nil => rfl
  | cons binding rest ih =>
    obtain ⟨key, value⟩ := binding
    rw [List.map_cons, List.mem_cons, not_or] at h
    obtain ⟨hkey, hrest⟩ := h
    have hfirst := get?_bind_of_ne policy scope hkey value
    rw [bindEach]
    generalize bind policy scope key value = outcome at hfirst ⊢
    obtain ⟨next, _ | failure⟩ := outcome
    · exact (ih hrest).trans hfirst
    · exact hfirst

end Binding

namespace Pattern

theorem scope_bindAll (policy : Policy) (p : Pattern) (value : Value) (scope : Scope) :
    (p.bindAll policy value scope).scope =
      (Binding.bindEach policy scope (p.visit value).bindings).scope := by
  rw [bindAll_eq_replay, Visit.replay]
  generalize Binding.bindEach policy scope (p.visit value).bindings = outcome
  obtain ⟨next, _ | failure⟩ := outcome
  · rfl
  · rfl

/-- A name that is no variable of the pattern is left as it is, even by a match that fails. -/
theorem get?_bindAll_of_notMem {p : Pattern} {name : String} (h : name ∉ p.variableNames)
    (policy : Policy) (value : Value) (scope : Scope) :
    (p.bindAll policy value scope).scope.get? name = scope.get? name := by
  rw [scope_bindAll]
  apply Binding.get?_bindEach_of_notMem
  intro hm
  obtain ⟨binding, hb, rfl⟩ := List.mem_map.mp hm
  exact h (mem_variableNames_of_visit hb)

/-- The discard is no variable of a pattern. -/
theorem discardName_notMem_variableNames (p : Pattern) : discardName ∉ p.variableNames := by
  induction p using induction_members with
  | whole p ih =>
    have parts {members : List Pattern} (h : members = p.members) :
        discardName ∉ members.flatMap variableNames := by
      intro hm
      obtain ⟨q, hq, hd⟩ := List.mem_flatMap.mp hm
      exact ih q (h ▸ hq) hd
    cases p with
    | «variable» name isTail =>
      rw [variableNames]
      split
      · exact List.not_mem_nil
      · intro hm
        have hname : discardName = name := List.mem_singleton.mp hm
        exact absurd hname.symm ‹_›
    | sequence elements | groups expression elements =>
      rw [variableNames, namesOfElements_eq]
      exact parts rfl
    | mapping entries =>
      rw [variableNames, namesOfEntries_eq]
      exact parts rfl
    | text _ | number _ | regex _ | foreign _ => exact List.not_mem_nil

end Pattern

def Report.TellsUnbound (report : Report) : Prop :=
  ∃ name bound, report = (Mismatch.unboundVariable name bound).report

namespace Failure

def TellsUnbound : Failure → Prop
  | .mismatch (.unboundVariable _ _) => True
  | .mismatch (.conditionUndecided _ reason) => reason.TellsUnbound
  | _ => False

abbrev KnowsValues (failure : Failure) : Prop :=
  ¬ failure.TellsUnbound

theorem tellsUnbound_of_ofMismatch {cause : Mismatch} (h : (ofMismatch cause).TellsUnbound) :
    (mismatch cause).TellsUnbound := by
  unfold ofMismatch at h
  split at h
  · exact h
  · cases h

theorem knowsValues_ofError (error : PatternError) : (ofError error).KnowsValues := by
  unfold ofError
  split
  · exact id
  · exact id

theorem isMismatch_of_tellsUnbound {failure : Failure} (h : failure.TellsUnbound) :
    failure.isMismatch = true := by
  cases failure with
  | mismatch cause => rfl
  | _ => cases h

/-- No other mismatch is reported like a variable without a value. -/
theorem tellsUnbound_of_report {cause : Mismatch} (h : cause.report.TellsUnbound) :
    (mismatch cause).TellsUnbound := by
  obtain ⟨name, bound, h⟩ := h
  have hexpected : cause.report.expected = none := congrArg Report.expected h
  have hcontext : cause.report.context = none := congrArg Report.context h
  have hopening : cause.report.message.toList.head? = some 'C' := by
    rw [congrArg Report.message h]
    change ("Condition variable is not bound: " ++ name).toList.head? = some 'C'
    rw [String.toList_append, List.head?_append]
    rfl
  cases cause with
  | unboundVariable name bound => trivial
  | divisionByZero left right =>
    change "Division by zero in condition".toList.head? = some 'C' at hopening
    exact absurd hopening (by decide)
  | arithmetic operator left right reason =>
    change ("Arithmetic error in condition: " ++ reason.message).toList.head? = some 'C' at hopening
    rw [String.toList_append, List.head?_append] at hopening
    cases hopening
  | conditionUndecided condition reason => cases hcontext
  | conditionNotMet condition pattern bindings => cases hcontext
  | _ => cases hexpected

end Failure

open Failure (TellsUnbound tellsUnbound_of_ofMismatch)

namespace Binding

theorem failsOnly_checkOther (key : String) (existing value : Value) :
    FailsOnly Failure.KnowsValues (checkOther key existing value) := by
  unfold checkOther
  split
  · split
    · exact failsOnly_ok _
    · exact failsOnly_error tellsUnbound_of_ofMismatch
  · split
    · exact failsOnly_error tellsUnbound_of_ofMismatch
    · exact failsOnly_error tellsUnbound_of_ofMismatch

mutual

theorem failsOnly_check (key : String) (existing value : Value) :
    FailsOnly Failure.KnowsValues (check key existing value) := by
  match existing with
  | .list a | .tuple a =>
    rw [check]
    cases value.items? with
    | none => exact failsOnly_error tellsUnbound_of_ofMismatch
    | some b =>
      dsimp only
      split
      · exact failsOnly_checkItems key 0 a b
      · exact failsOnly_error tellsUnbound_of_ofMismatch
  | .null | .boolean _ | .number _ | .text _ | .mapping _ | .store _ _ _ _ | .bytes _ _
  | .object _ _ _ _ => exact failsOnly_checkOther key _ value

theorem failsOnly_checkItems (key : String) (index : Nat) (a b : List Value) :
    FailsOnly Failure.KnowsValues (checkItems key index a b) := by
  match a, b with
  | x :: as, y :: bs =>
    rw [checkItems]
    have hrest := failsOnly_checkItems key (index + 1) as bs
    exact (failsOnly_check (elementKey key index) x y).bind fun _ => hrest
  | [], _ => exact failsOnly_ok _
  | _ :: _, [] => exact failsOnly_ok _

end

/-- A binding that is refused is refused for a disagreement of values. -/
theorem knowsValues_bindEach {policy : Policy} {scope : Scope}
    {bindings : List (String × Value)} {failure : Failure}
    (h : (bindEach policy scope bindings).failure = some failure) : failure.KnowsValues := by
  induction bindings generalizing scope with
  | nil => cases h
  | cons binding rest ih =>
    obtain ⟨key, value⟩ := binding
    have hfirst : (bind policy scope key value).failure = some failure → failure.KnowsValues := by
      intro hf
      unfold bind at hf
      split at hf
      · split at hf
        · cases hf
        · rename_i existing _ _ other hcheck
          cases hf
          exact (failsOnly_check key existing value).of_error _ hcheck
      · cases hf
    rw [bindEach] at h
    generalize bind policy scope key value = outcome at h hfirst
    obtain ⟨next, _ | other⟩ := outcome
    · exact ih h
    · exact hfirst h

end Binding

abbrev Finding.KnowsValues (finding : Finding) : Prop :=
  finding.failure.KnowsValues

theorem Value.failsOnly_lookup (source : Value) (key : String) (pattern : Pattern) :
    FailsOnly (fun cause => (Finding.mismatch cause).KnowsValues)
      (source.lookup key pattern) := by
  unfold lookup
  split
  · cases source.item (.text key) with
    | ok found => exact failsOnly_ok found
    | error fault =>
      rw [Except.mapError]
      split <;> exact failsOnly_error tellsUnbound_of_ofMismatch
  · cases source.member key with
    | ok found => exact failsOnly_ok found
    | error fault =>
      rw [Except.mapError]
      split <;> exact failsOnly_error tellsUnbound_of_ofMismatch

namespace Pattern

theorem failsOnly_slot (whole : Pattern) (items : List Value) (value : Value) (count index : Nat)
    (element : Pattern) :
    FailsOnly Finding.KnowsValues (slot whole items value count index element) := by
  unfold slot
  split
  · split
    · exact failsOnly_ok _
    · exact failsOnly_error (Failure.knowsValues_ofError _)
  · split
    · exact failsOnly_ok _
    · exact failsOnly_error tellsUnbound_of_ofMismatch

theorem failsOnly_elementTasks {elements : List Pattern} {items : List Value} {value : Value}
    {task : Task} (h : task ∈ elementTasks elements items value) :
    FailsOnly Finding.KnowsValues task.2 := by
  obtain ⟨⟨element, index⟩, -, rfl⟩ := List.mem_map.mp (List.mem_reverse.mp h)
  exact failsOnly_slot ..

theorem failsOnly_entryTasks {entries : List (String × Pattern)} {value : Value} {task : Task}
    (h : task ∈ entryTasks entries value) : FailsOnly Finding.KnowsValues task.2 := by
  obtain ⟨⟨key, pattern⟩, -, rfl⟩ := List.mem_map.mp h
  have hlookup := value.failsOnly_lookup key (.mapping entries)
  change FailsOnly _ ((value.lookup key (.mapping entries)).mapError Finding.mismatch)
  generalize value.lookup key (.mapping entries) = found at hlookup ⊢
  cases found with
  | ok item => exact failsOnly_ok item
  | error cause => exact failsOnly_error (hlookup.of_error cause rfl)

mutual

/-- What a pattern finds in a value is no matter of conditions. -/
theorem Breaks.knowsValues {p : Pattern} {value : Value} {bindings : List (String × Value)}
    {finding : Finding} (h : p.Breaks value bindings finding) : finding.KnowsValues := by
  match h with
  | .text _ | .number _ | .regexDiffers _ | .regexOnOther _ | .notSequence _ | .notMapping _
  | .groupsDiffer _ | .groupsOnOther _ => exact tellsUnbound_of_ofMismatch
  | .foreign => exact Failure.knowsValues_ofError _
  | .sequence _ hsome | .groups _ hsome => exact hsome.knowsValues fun _ => failsOnly_elementTasks
  | .mapping _ hsome => exact hsome.knowsValues fun _ => failsOnly_entryTasks

theorem BreaksAmong.knowsValues {tasks : List Task} {bindings : List (String × Value)}
    {finding : Finding} (h : BreaksAmong tasks bindings finding)
    (he : ∀ task ∈ tasks, FailsOnly Finding.KnowsValues task.2) : finding.KnowsValues := by
  match h with
  | .missing => exact (he _ (List.mem_cons_self ..)).of_error finding rfl
  | .here h => exact h.knowsValues
  | .later _ hsome => exact hsome.knowsValues fun task hm => he task (List.mem_cons_of_mem _ hm)

end

theorem knowsValues_bindAll {policy : Policy} {p : Pattern} {value : Value} {scope : Scope}
    {failure : Failure} (h : (p.bindAll policy value scope).failure = some failure) :
    failure.KnowsValues := by
  rw [bindAll_eq_replay, Visit.replay] at h
  have hbind (other : Failure) :
      (Binding.bindEach policy scope (p.visit value).bindings).failure = some other →
        other.KnowsValues := Binding.knowsValues_bindEach
  generalize Binding.bindEach policy scope (p.visit value).bindings = outcome at h hbind
  obtain ⟨next, _ | other⟩ := outcome
  · obtain ⟨finding, hf, rfl⟩ := Option.map_eq_some_iff.mp h
    exact (breaks_iff.mpr ⟨hf, rfl⟩).knowsValues
  · exact hbind failure h

end Pattern

namespace Expression

theorem failsOnly_order (operator : Operator) (left right : Value) :
    FailsOnly Failure.KnowsValues (order operator left right) := by
  unfold order
  split
  · exact failsOnly_ok _
  · exact failsOnly_ok _
  · exact failsOnly_error tellsUnbound_of_ofMismatch

theorem failsOnly_compute (operator : Operator)
    (operation : Number → Number → Except ArithmeticError Number) (left right : Value) :
    FailsOnly Failure.KnowsValues (compute operator operation left right) := by
  unfold compute
  repeat' split
  all_goals first
    | exact failsOnly_ok _
    | exact failsOnly_error tellsUnbound_of_ofMismatch

theorem failsOnly_apply (operator : Operator) (left right : Value) :
    FailsOnly Failure.KnowsValues (apply operator left right) := by
  have hequal : FailsOnly Failure.KnowsValues
      ((Value.equal left right).mapError Failure.raised) := by
    cases Value.equal left right with
    | ok answer => exact failsOnly_ok answer
    | error fault => exact failsOnly_error id
  unfold apply
  split
  · exact hequal.map _
  · exact hequal.map _
  · split
    · exact failsOnly_compute ..
    · exact failsOnly_order ..

/-- With a value for each of its variables, an expression does not fail for want of one. -/
theorem failsOnly_evaluate {scope : Scope} {e : Expression}
    (h : ∀ name ∈ e.names, name ∈ scope.names) :
    FailsOnly Failure.KnowsValues (e.evaluate scope) := by
  induction e with
  | constant value => exact failsOnly_ok _
  | «variable» name =>
    rw [evaluate]
    have hname : name ∈ scope.names := h name (List.mem_singleton.mpr rfl)
    split
    · exact failsOnly_ok _
    · rename_i hnone
      exact absurd hname ((Scope.get?_eq_none_iff scope name).mp hnone)
  | negation operand ih | minus operand ih =>
    rw [evaluate]
    refine (ih h).bind fun value => ?_
    split
    · exact failsOnly_ok _
    · exact failsOnly_error tellsUnbound_of_ofMismatch
  | binary operator left right ihl ihr =>
    have hleft := ihl fun name hm => h name (List.mem_append_left _ hm)
    have hright := ihr fun name hm => h name (List.mem_append_right _ hm)
    cases operator
    case and | or =>
      rw [evaluate]
      refine hleft.bind fun value => ?_
      split
      all_goals first
        | exact failsOnly_ok _
        | exact hright.bind fun value => failsOnly_ok _
    all_goals
      rw [evaluate]
      · exact hleft.bind fun a => hright.bind fun b => failsOnly_apply ..
      all_goals
        rintro ⟨⟩

end Expression

/-- To be undecided is told as what kept the condition from being decided. -/
theorem Condition.knowsValues_undecided (c : Condition) {failure : Failure}
    (h : failure.KnowsValues) : (c.undecided failure).KnowsValues := by
  intro htells
  unfold undecided at htells
  split at htells
  · exact h (Failure.tellsUnbound_of_report (tellsUnbound_of_ofMismatch htells))
  · obtain ⟨name, bound, hreport⟩ := tellsUnbound_of_ofMismatch htells
    cases congrArg Report.received hreport
  · exact h htells

/-- A condition that has values for its variables is not undecided for want of one. -/
theorem Condition.failsOnly_holds (c : Condition) {scope : Scope}
    (h : ∀ name ∈ c.expression.names, name ∈ scope.names) :
    FailsOnly Failure.KnowsValues (c.holds scope) := by
  have hevaluate := Expression.failsOnly_evaluate h
  unfold holds
  generalize c.expression.evaluate scope = result at hevaluate
  cases result with
  | ok value => exact failsOnly_ok _
  | error failure =>
    have hknown : failure.KnowsValues := hevaluate.of_error failure rfl
    exact failsOnly_error (c.knowsValues_undecided hknown)

namespace Compiled

theorem knowsValues_bindIn {compiled : Compiled}
    (hn : ∀ condition, compiled.condition = some condition →
      ∀ name ∈ condition.expression.names, name ∈ compiled.tree.variableNames)
    {policy : Policy} {source : Value} {scope : Scope} {failure : Failure}
    (h : (compiled.bindIn policy source scope).failure = some failure) :
    failure.KnowsValues := by
  cases hc : compiled.condition with
  | none =>
    rw [bindIn_of_none policy source scope hc] at h
    exact Pattern.knowsValues_bindAll h
  | some condition =>
    rw [bindIn_eq_ownScope policy source scope hc] at h
    dsimp only at h
    cases hf : (compiled.tree.bindAll policy source (ownScope policy scope)).failure with
    | some other =>
      rw [hf] at h
      cases h
      exact Pattern.knowsValues_bindAll hf
    | none =>
      -- the pattern has matched, so that all names of the condition have values where it is asked
      rw [hf] at h
      have hmatched := Outcome.eq_matched hf
      generalize (compiled.tree.bindAll policy source (ownScope policy scope)).scope = bound
        at h hmatched
      have hbound (name : String) (hm : name ∈ condition.expression.names) : name ∈ bound.names :=
        (Pattern.mem_names_of_bindAll hmatched name).mpr (Or.inl (hn condition hc name hm))
      have hholds := condition.failsOnly_holds hbound
      dsimp only at h
      split at h
      · cases h
        exact hholds.of_error failure ‹_›
      · cases h
      · cases h
        exact tellsUnbound_of_ofMismatch

example : ∃ failure, ({ belowOne with tree := .variable "_" false }.bindIn .overwrite (.int 0)
    .empty).failure = some failure ∧ failure.TellsUnbound :=
  ⟨_, rfl, "n", _, rfl⟩

end Compiled

namespace Engine

/-- A match that succeeds gives values to the variables of its pattern and to no other name, and
however a match ends, the discard is left as it is. A condition mentions only variables of its
pattern. So whatever an engine has been used for, and whatever text, value and scope a match is
given, the match never fails because a variable of a condition has no value. -/
theorem never_unbound :
    (∀ (p : Pattern) (policy : Policy) (value : Value) (scope : Scope),
      (∀ next, p.bindAll policy value scope = .matched next →
        ∀ name, name ∈ next.names ↔ name ∈ scope.names ∨ name ∈ p.variableNames) ∧
      (p.bindAll policy value scope).scope.get? Pattern.discardName =
        scope.get? Pattern.discardName) ∧
    (∀ text compiled condition, compile text = .ok compiled →
      compiled.condition = some condition →
      ∀ name ∈ condition.expression.names, name ∈ compiled.tree.variableNames) ∧
    ∀ e : Engine, e.Reached → ∀ text source scope failure,
      (e.destructure text source scope).1.failure = some failure → ¬ failure.TellsUnbound := by
  refine ⟨fun p policy value scope => ⟨?_, ?_⟩, ?_, ?_⟩
  · intro next h name
    exact (Pattern.mem_names_of_bindAll h name).trans Or.comm
  · exact Pattern.get?_bindAll_of_notMem p.discardName_notMem_variableNames policy value scope
  · intro text compiled condition hcompile hc name hm
    exact names_of_compile hcompile hc hm
  · intro e he text source scope failure h
    rw [fst_destructure] at h
    cases hr : (e.request text).1 with
    | ok compiled =>
      rw [hr] at h
      have hcompile := he.compile_of_request hr
      exact Compiled.knowsValues_bindIn
        (fun condition hc name hm => names_of_compile hcompile hc hm) h
    | error other =>
      rw [hr] at h
      cases h
      have hcompile : compile text = .error failure := by
        rw [request_eq] at hr
        exact compile_of_requestText hr
      intro htells
      have hoftext := (ofText_compile text).of_error failure hcompile
      have hnot := Failure.isMismatch_of_isOfText hoftext
      rw [Failure.isMismatch_of_tellsUnbound htells] at hnot
      cases hnot

/-- A text is not to be compared with a number. The match fails for that, and not for want of a
value for the variable. -/
theorem never_unbound_belowOne :
    ∃ failure, ((Engine.new .overwrite).destructure belowOne.text (.text "a") .empty).1.failure =
      some failure ∧ ¬ failure.TellsUnbound := by
  have hbind : ((Engine.new .overwrite).destructure belowOne.text (.text "a") .empty).1 =
      belowOne.bindIn .overwrite (.text "a") .empty := by
    rw [fst_destructure, request_new, compile_belowOne]
    rfl
  have hfails : (belowOne.bindIn .overwrite (.text "a") .empty).failure.isSome = true := by
    decide +kernel
  obtain ⟨failure, hf⟩ := Option.isSome_iff_exists.mp hfails
  rw [← hbind] at hf
  exact ⟨failure, hf, never_unbound.2.2 _ (.new .overwrite) _ _ _ failure hf⟩

end Engine

end Destructure
