import Mathlib.Data.List.Perm.Basic
import Destructure.Proofs.Binding
import Destructure.Proofs.Compile

namespace Destructure

namespace Condition

theorem holds_eq_true_iff (c : Condition) (scope : Scope) :
    c.holds scope = .ok true ↔ c.expression.evaluate scope = .ok (.boolean true) := by
  unfold holds
  cases he : c.expression.evaluate scope with
  | error failure => simp
  | ok value =>
    cases value <;> simp [Expression.isTrue]

theorem holds_congr {s t : Scope} (c : Condition) (hn : ∀ name ∈ c.expression.names, name ∈ s.names)
    (h : ∀ name ∈ c.expression.names, s.get? name = t.get? name) : c.holds s = c.holds t := by
  unfold holds
  rw [Expression.evaluate_congr c.expression hn h]

end Condition

namespace Compiled

def ownScope (policy : Policy) (scope : Scope) : Scope :=
  match policy with
  | .overwrite => .empty
  | .agree => scope

variable (policy : Policy) (tree : Pattern) (source : Value) (scope : Scope)

/-- Binding into the scope of its own ends as binding into the caller's scope would. -/
theorem failure_ownScope :
    (tree.bindAll policy source (ownScope policy scope)).failure =
      (tree.bindAll policy source scope).failure := by
  cases policy with
  | overwrite => rw [Pattern.bindAll_overwrite, Pattern.bindAll_overwrite]
  | agree => rfl

/-- The caller's scope, updated by what was bound, is what binding in place would have made of it. -/
theorem update_ownScope :
    scope.update (tree.bindAll policy source (ownScope policy scope)).scope =
      (tree.bindAll policy source scope).scope := by
  cases policy with
  | overwrite =>
    rw [Pattern.bindAll_overwrite, Pattern.bindAll_overwrite]
    exact Scope.update_setAll_empty scope _
  | agree => exact Scope.update_eq_of_isPrefix (Pattern.isPrefix_bindAll_agree tree source scope)

/-- Names that the pattern binds have the same value in either scope. -/
theorem get?_ownScope (h : (tree.bindAll policy source scope).failure = none) {name : String}
    (hm : name ∈ tree.variableNames) :
    (tree.bindAll policy source (ownScope policy scope)).scope.get? name =
      (tree.bindAll policy source scope).scope.get? name := by
  cases policy with
  | agree => rfl
  | overwrite =>
    rw [Pattern.bindAll_overwrite] at h ⊢
    rw [Pattern.bindAll_overwrite]
    have hf : (tree.visit source).finding = none := Option.map_eq_none_iff.mp h
    apply Scope.get?_setAll_congr
    exact (Pattern.perm_variableNames_visit tree source hf).mem_iff.mpr hm

theorem matchedBindings_congr (compiled : Compiled) {s t : Scope}
    (h : ∀ name ∈ compiled.tree.variableNames, s.get? name = t.get? name) :
    compiled.matchedBindings s = compiled.matchedBindings t := by
  unfold matchedBindings
  apply List.filterMap_congr
  intro name hm
  rw [h name (List.mem_eraseDups.mp hm)]

theorem bindIn_of_none {compiled : Compiled} (hc : compiled.condition = none) :
    compiled.bindIn policy source scope = compiled.tree.bindAll policy source scope := by
  unfold bindIn
  rw [hc]

/-- What becomes of a match in a scope of its own, given the condition. -/
theorem bindIn_eq_ownScope {compiled : Compiled} {condition : Condition}
    (hc : compiled.condition = some condition) :
    compiled.bindIn policy source scope =
      let own := compiled.tree.bindAll policy source (ownScope policy scope)
      match own.failure with
      | some failure => .failed scope failure
      | none =>
        match condition.holds own.scope with
        | .error failure => .failed scope failure
        | .ok true => .matched (scope.update own.scope)
        | .ok false =>
          .failed scope (.ofMismatch (.conditionNotMet condition.text compiled.text
            (compiled.matchedBindings own.scope))) := by
  unfold bindIn
  rw [hc]
  rfl

/-- A match with a condition is the match without it, in the caller's scope, followed by the
condition. The caller's scope changes only if both succeed. -/
theorem bindIn_of_condition {compiled : Compiled} {condition : Condition}
    (hc : compiled.condition = some condition)
    (hn : ∀ name ∈ condition.expression.names, name ∈ compiled.tree.variableNames) :
    compiled.bindIn policy source scope =
      let direct := compiled.tree.bindAll policy source scope
      match direct.failure with
      | some failure => .failed scope failure
      | none =>
        match condition.holds direct.scope with
        | .error failure => .failed scope failure
        | .ok true => .matched direct.scope
        | .ok false =>
          .failed scope (.ofMismatch (.conditionNotMet condition.text compiled.text
            (compiled.matchedBindings direct.scope))) := by
  rw [bindIn_eq_ownScope policy source scope hc]
  dsimp only
  rw [failure_ownScope, update_ownScope]
  cases hf : (compiled.tree.bindAll policy source scope).failure with
  | some failure => rfl
  | none =>
    have hsame (name : String) (hm : name ∈ compiled.tree.variableNames) :=
      get?_ownScope policy compiled.tree source scope hf hm
    have hbound (name : String) (hm : name ∈ compiled.tree.variableNames) :
        name ∈ (compiled.tree.bindAll policy source (ownScope policy scope)).scope.names := by
      have ho := Outcome.eq_matched ((failure_ownScope policy compiled.tree source scope).trans hf)
      exact (Pattern.mem_names_of_bindAll ho name).mpr (Or.inl hm)
    rw [condition.holds_congr (fun name hm => hbound name (hn name hm))
      (fun name hm => hsame name (hn name hm)), matchedBindings_congr compiled hsame]

end Compiled

def belowOne : Compiled where
  text := "n when n < 1"
  fingerprint := Text.Digest.ofString "n when n < 1"
  tree := .variable "n" false
  condition := some ⟨"n < 1", .binary .lt (.variable "n") (.constant (.number (.integer 1)))⟩

namespace Engine

theorem destructure_of_request {e : Engine} {text : WideText} {compiled : Compiled}
    (h : (e.request text).1 = .ok compiled) (source : Value) (scope : Scope) :
    (e.destructure text source scope).1 = compiled.bindIn e.policy source scope := by
  unfold destructure
  have hp : (e.request text).2.policy = e.policy := rfl
  generalize e.request text = answer at h hp
  obtain ⟨result, next⟩ := answer
  cases h
  rw [← hp]

/-- Matching with a condition is atomic. It yields a scope exactly if matching in the caller's scope
yields that scope and the condition is true there. Otherwise it fails and leaves the caller's scope
as it was, with the failure of the match if it is the match that fails. -/
theorem destructure_conditional {e : Engine} (he : e.Reached) {text : WideText}
    {compiled : Compiled} {condition : Condition} (hrequest : (e.request text).1 = .ok compiled)
    (hc : compiled.condition = some condition)
    (source : Value) (scope : Scope) :
    let direct := compiled.tree.bindAll e.policy source scope
    let outcome := (e.destructure text source scope).1
    (∀ result, outcome = .matched result ↔
      direct = .matched result ∧
        condition.expression.evaluate result = .ok (.boolean true)) ∧
    ((∀ result, outcome ≠ .matched result) → ∃ failure, outcome = .failed scope failure) ∧
    (∀ failure, direct.failure = some failure → outcome = .failed scope failure) := by
  intro direct outcome
  have hn (name : String) (hm : name ∈ condition.expression.names) :=
    names_of_compile (he.compile_of_request hrequest) hc hm
  have ho : outcome = _ := (destructure_of_request hrequest source scope).trans
    (Compiled.bindIn_of_condition e.policy source scope hc hn)
  change outcome = (match direct.failure with
    | some failure => _
    | none => _) at ho
  cases hf : direct.failure with
  | some failure =>
    rw [hf] at ho
    refine ⟨fun result => ⟨fun h => ?_, fun h => ?_⟩, fun _ => ⟨failure, ho⟩, ?_⟩
    · cases congrArg Outcome.failure (ho.symm.trans h)
    · rw [h.1] at hf
      cases hf
    · intro other he
      cases he
      exact ho
  | none =>
    have hd : direct = .matched direct.scope := Outcome.eq_matched hf
    rw [hf] at ho
    dsimp only at ho
    refine ⟨fun result => ?_, ?_, fun failure h => nomatch h⟩
    · rw [← Condition.holds_eq_true_iff]
      constructor
      · intro h
        split at ho
        · cases congrArg Outcome.failure (ho.symm.trans h)
        · rename_i ht
          obtain rfl : direct.scope = result := congrArg Outcome.scope (ho.symm.trans h)
          exact ⟨hd, ht⟩
        · cases congrArg Outcome.failure (ho.symm.trans h)
      · rintro ⟨hr, ht⟩
        obtain rfl : direct.scope = result := congrArg Outcome.scope hr
        change outcome = (match condition.holds direct.scope with
          | .error failure => _
          | .ok true => _
          | .ok false => _) at ho
        rw [ho, ht]
    · intro hno
      split at ho
      · exact ⟨_, ho⟩
      · exact absurd ho (hno _)
      · exact ⟨_, ho⟩

theorem compile_belowOne : compile belowOne.text = .ok belowOne := by
  have h : readPattern "n when n < 1" = .ok (.variable "n" false,
      some ⟨"n < 1", .binary .lt (.variable "n") (.constant (.number (.integer 1)))⟩) :=
    readPattern_of_stages rfl rfl rfl rfl
  exact compile_eq_ok_iff.mpr ⟨h, by rw [belowOne], by rw [belowOne]⟩

/-- Of two numbers the one below one is matched, and the other leaves the old value of the name. -/
theorem destructure_belowOne :
    let scope := Scope.ofList [("n", .int 7)]
    let outcome := fun n => ((Engine.new .overwrite).destructure belowOne.text (.int n) scope).1
    outcome 0 = .matched (Scope.ofList [("n", .int 0)]) ∧
      ∃ failure, outcome 5 = .failed scope failure := by
  intro scope outcome
  have hr : ((Engine.new .overwrite).request belowOne.text).1 = .ok belowOne := by
    rw [request_new, compile_belowOne]
  have h (n : Int) := destructure_conditional (.new .overwrite) hr rfl (.int n) scope
  constructor
  · exact ((h 0).1 _).mpr ⟨rfl, rfl⟩
  · refine (h 5).2.1 fun result hm => ?_
    obtain ⟨hd, he⟩ := ((h 5).1 result).mp hm
    obtain rfl : Scope.ofList [("n", .int 5)] = result := congrArg Outcome.scope hd
    cases he

end Engine

end Destructure
