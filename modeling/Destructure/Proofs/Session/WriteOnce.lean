import Destructure.Proofs.Match.Bound
import Destructure.Proofs.Session

namespace Destructure

namespace Compiled

variable (compiled : Compiled) (policy : Policy) (source : Value) (scope : Scope)

/-- A match leaves behind what its pattern binds, except that with a condition a match that fails
leaves nothing. -/
theorem scope_bindIn :
    (compiled.bindIn policy source scope).scope =
      if compiled.condition.isSome && (compiled.bindIn policy source scope).failure.isSome then
        scope
      else (compiled.tree.bindAll policy source scope).scope := by
  cases hc : compiled.condition with
  | none =>
    rw [bindIn_of_none policy source scope hc]
    rfl
  | some condition =>
    obtain ⟨failure, h⟩ | ⟨next, h, hdirect⟩ := bindIn_cases hc policy source scope
    · rw [h]
      rfl
    · rw [h, hdirect]
      rfl

/-- A policy that compares keeps what a scope holds, in its order, with a condition or without. -/
theorem isPrefix_bindIn_agree :
    scope.entries <+: (compiled.bindIn .agree source scope).scope.entries := by
  rw [scope_bindIn]
  split
  · exact List.prefix_refl _
  · exact Pattern.isPrefix_bindAll_agree compiled.tree source scope

variable {compiled policy source scope}

/-- Names are added for variables of the pattern only, whether the match succeeds or not. -/
theorem mem_names_of_bindIn {key : String}
    (h : key ∈ (compiled.bindIn policy source scope).scope.names) :
    key ∈ compiled.tree.variableNames ∨ key ∈ scope.names := by
  rw [scope_bindIn] at h
  split at h
  · exact Or.inr h
  · by_cases hvariable : key ∈ compiled.tree.variableNames
    · exact Or.inl hvariable
    · have hsame := Pattern.get?_bindAll_of_notMem hvariable policy source scope
      apply Or.inr
      apply Decidable.byContradiction
      intro hnot
      rw [(Scope.get?_eq_none_iff scope key).mpr hnot, Scope.get?_eq_none_iff] at hsame
      exact hsame h

end Compiled

namespace Engine

theorem Reached.requestAll {e : Engine} (h : e.Reached) (texts : List WideText) :
    (e.requestAll texts).Reached := by
  induction texts generalizing e with
  | nil => exact h
  | cons text rest ih => exact ih (h.request text)

end Engine

variable {α : Type}

def Command.Keeps (name : String) : Command α → Prop
  | .compile _ | .destructure _ _ _ | .dispatch _ _ => True
  | .setPolicy policy => policy = .agree
  | .setScope other _ => other ≠ name

namespace Session

variable (invoke : α → Scope → Except Failure Value) {s : Session} {name : String}

theorem after_append (s : Session) (first second : List (Command α)) :
    s.after invoke (first ++ second) = (s.after invoke first).after invoke second :=
  List.foldl_append

theorem fst_perform_destructure (s : Session) (pattern : Argument) (source : Value)
    (name : String) :
    (s.perform invoke (.destructure pattern source (some name))).1 =
      .destructured (s.engine.destructureArgument pattern source (s.scopes name)).1 :=
  rfl

theorem scopes_perform_destructure (s : Session) (pattern : Argument) (source : Value)
    (name : String) :
    (s.perform invoke (.destructure pattern source (some name))).2.scopes name =
      (s.engine.destructureArgument pattern source (s.scopes name)).1.scope :=
  if_pos rfl

section Perform

variable {command : Command α}

theorem policy_perform (hpolicy : s.engine.policy = .agree) (hkeeps : command.Keeps name) :
    (s.perform invoke command).2.engine.policy = .agree := by
  rw [engine_perform]
  cases command with
  | setPolicy policy => exact hkeeps
  | _ => exact hpolicy

theorem reached_perform (h : s.engine.Reached) (command : Command α) :
    (s.perform invoke command).2.engine.Reached := by
  have hrequests := h.requestAll (s.requests command)
  rw [Engine.requestAll_eq] at hrequests
  rw [engine_perform]
  exact hrequests.setPolicy (command.newPolicy s.engine.policy)

/-- What becomes of a scope: nothing, or what a match in it leaves behind. -/
theorem scopes_perform_cases (hkeeps : command.Keeps name) :
    (s.perform invoke command).2.scopes name = s.scopes name ∨
      ∃ text source compiled, command = .destructure (.text text) source (some name) ∧
        (s.engine.request text).1 = .ok compiled ∧
        (s.perform invoke command).1 =
          .destructured (compiled.bindIn s.engine.policy source (s.scopes name)) ∧
        (s.perform invoke command).2.scopes name =
          (compiled.bindIn s.engine.policy source (s.scopes name)).scope := by
  cases command with
  | destructure pattern source scope =>
    cases scope with
    | none => exact Or.inl rfl
    | some other =>
      by_cases hother : name = other
      · subst hother
        have hreply := s.fst_perform_destructure invoke pattern source name
        have hscope := s.scopes_perform_destructure invoke pattern source name
        cases pattern with
        | text text =>
          rw [Engine.destructureArgument, Engine.fst_destructure] at hscope hreply
          cases hr : (s.engine.request text).1 with
          | ok compiled =>
            rw [hr] at hscope hreply
            exact Or.inr ⟨text, source, compiled, rfl, hr, hreply, hscope⟩
          | error failure =>
            rw [hr] at hscope
            exact Or.inl hscope
        | other v _ => exact Or.inl hscope
      · exact Or.inl (if_neg hother)
  | setScope other scope => exact Or.inl (if_neg fun h => hkeeps h.symm)
  | _ => exact Or.inl rfl

/-- One step: what a scope holds is kept, in its order. -/
theorem isPrefix_scopes_perform (hpolicy : s.engine.policy = .agree)
    (hkeeps : command.Keeps name) :
    (s.scopes name).entries <+: ((s.perform invoke command).2.scopes name).entries := by
  obtain h | ⟨text, source, compiled, -, -, -, h⟩ := scopes_perform_cases invoke hkeeps
  · exact h.symm ▸ List.prefix_refl _
  · rw [h, hpolicy]
    exact compiled.isPrefix_bindIn_agree source (s.scopes name)

end Perform

variable {commands : List (Command α)}

/-- Along a row of commands, the policy goes on to compare and the scope goes on to hold what it
held. -/
theorem isPrefix_scopes_after (hpolicy : s.engine.policy = .agree)
    (hkeeps : ∀ command ∈ commands, command.Keeps name) :
    (s.after invoke commands).engine.policy = .agree ∧
      (s.scopes name).entries <+: ((s.after invoke commands).scopes name).entries := by
  apply invariant_after invoke
    (P := fun t => t.engine.policy = .agree ∧ (s.scopes name).entries <+: (t.scopes name).entries)
  · rintro t command hm ⟨htpolicy, hprefix⟩
    have hcommand := hkeeps command hm
    have hstep := isPrefix_scopes_perform invoke htpolicy hcommand
    exact ⟨policy_perform invoke htpolicy hcommand, hprefix.trans hstep⟩
  · exact ⟨hpolicy, List.prefix_refl _⟩

theorem reached_after (h : s.engine.Reached) (commands : List (Command α)) :
    (s.after invoke commands).engine.Reached := by
  apply invariant_after invoke (P := fun t => t.engine.Reached)
  · intro t command _ ht
    exact reached_perform invoke ht command
  · exact h

/-- A name that has been added was a variable of a pattern that was matched on the scope. -/
theorem exists_of_added (hkeeps : ∀ command ∈ commands, command.Keeps name) {key : String}
    (hafter : key ∈ ((s.after invoke commands).scopes name).names)
    (hbefore : key ∉ (s.scopes name).names) :
    ∃ before text source after compiled,
      commands = before ++ .destructure (.text text) source (some name) :: after ∧
      ((s.after invoke before).engine.request text).1 = .ok compiled ∧
      key ∈ compiled.tree.variableNames := by
  induction commands generalizing s with
  | nil => exact absurd hafter hbefore
  | cons command rest ih =>
    obtain ⟨hcommand, hrest⟩ := List.forall_mem_cons.mp hkeeps
    rw [after_cons] at hafter
    by_cases hstep : key ∈ ((s.perform invoke command).2.scopes name).names
    · obtain h | ⟨text, source, compiled, hmatch, hr, -, h⟩ := scopes_perform_cases invoke hcommand
      · rw [h] at hstep
        exact absurd hstep hbefore
      · rw [h] at hstep
        have hvariable := (Compiled.mem_names_of_bindIn hstep).resolve_right hbefore
        exact ⟨[], text, source, rest, compiled, congrArg (· :: rest) hmatch, hr, hvariable⟩
    · obtain ⟨before, text, source, after, compiled, hsplit, h⟩ := ih hrest hafter hstep
      exact ⟨command :: before, text, source, after, compiled, congrArg (command :: ·) hsplit, h⟩

/-- As long as the policy compares, a scope is written once. Whatever an engine is used for, and
however its matches end, the scope holds at any time what it held at any earlier time, in the same
order and with new names behind it. A name is added only by a match in the scope, of a pattern that
has the name for a variable. No other command changes the scope, and neither does a match that
fails if its pattern has a condition. -/
theorem scopes_writeOnce (hreached : s.engine.Reached) (hpolicy : s.engine.policy = .agree)
    (hkeeps : ∀ command ∈ commands, command.Keeps name) :
    (∀ first second third, commands = first ++ second ++ third →
      ((s.after invoke first).scopes name).entries <+:
        ((s.after invoke (first ++ second)).scopes name).entries) ∧
    (∀ key ∈ ((s.after invoke commands).scopes name).names, key ∉ (s.scopes name).names →
      ∃ before text source after compiled,
        commands = before ++ .destructure (.text text) source (some name) :: after ∧
        ((s.after invoke before).engine.request text).1 = .ok compiled ∧
        compile compiled.text = .ok compiled ∧ key ∈ compiled.tree.variableNames) ∧
    ∀ before command after, commands = before ++ command :: after →
      let earlier := s.after invoke before
      let answer := earlier.perform invoke command
      ((∀ pattern source, command ≠ .destructure pattern source (some name)) →
        answer.2.scopes name = earlier.scopes name) ∧
      ∀ text source compiled condition outcome failure,
        command = .destructure (.text text) source (some name) →
        (earlier.engine.request text).1 = .ok compiled → compiled.condition = some condition →
        answer.1 = .destructured outcome → outcome.failure = some failure →
        answer.2.scopes name = earlier.scopes name := by
  refine ⟨?_, ?_, ?_⟩
  · intro first second third hsplit
    rw [hsplit, List.append_assoc, List.forall_mem_append, List.forall_mem_append] at hkeeps
    obtain ⟨hfirst, hsecond, -⟩ := hkeeps
    obtain ⟨hearlier, -⟩ := isPrefix_scopes_after invoke hpolicy hfirst
    rw [after_append]
    exact (isPrefix_scopes_after invoke hearlier hsecond).2
  · intro key hafter hbefore
    obtain ⟨before, text, source, after, compiled, hsplit, hr, hvariable⟩ :=
      exists_of_added invoke hkeeps hafter hbefore
    have hcompile := (reached_after invoke hreached before).compile_of_request hr
    exact ⟨before, text, source, after, compiled, hsplit, hr, hcompile, hvariable⟩
  · intro before command after hsplit earlier answer
    have hcommand : command.Keeps name := by
      apply hkeeps
      rw [hsplit]
      exact List.mem_append_right _ (List.mem_cons_self ..)
    obtain h | ⟨text, source, compiled, rfl, hr, hreply, h⟩ :=
      scopes_perform_cases (s := earlier) invoke hcommand
    · exact ⟨fun _ => h, fun _ _ _ _ _ _ _ _ _ _ _ => h⟩
    · constructor
      · intro hother
        exact absurd rfl (hother (.text text) source)
      · intro text' source' compiled' condition outcome failure hsame hr' hc hanswer hfailure
        cases hsame
        obtain rfl : compiled = compiled' := Except.ok.inj (hr.symm.trans hr')
        obtain rfl := Reply.destructured.inj (hreply.symm.trans hanswer)
        rw [h, Compiled.scope_bindIn, if_pos]
        rw [hc, hfailure]
        rfl

/-- A number has been matched, and a second match fails: the scope keeps the first number. -/
theorem scopes_writeOnce_belowOne :
    let invoke : Value → Scope → Except Failure Value := fun action _ => .ok action
    let number : Int → Command Value := fun n =>
      .destructure (.text belowOne.text) (.int n) (some "kept")
    [("n", .int 0)] <+:
      (((start .agree).after invoke [number 0, number 5]).scopes "kept").entries := by
  intro invoke number
  have hkeeps : ∀ command ∈ [number 0, number 5], command.Keeps "kept" := by
    intro command hm
    obtain rfl | rfl := List.mem_pair.mp hm
    · exact True.intro
    · exact True.intro
  -- the session is a variable here, lest the pattern text be read over and over
  have hkept (s : Session) (hreached : s.engine.Reached) (hpolicy : s.engine.policy = .agree)
      (hrequest : (s.engine.request belowOne.text).1 = .ok belowOne)
      (hempty : s.scopes "kept" = .empty) :
      [("n", .int 0)] <+: ((s.after invoke [number 0, number 5]).scopes "kept").entries := by
    have hfirst : (s.after invoke [number 0]).scopes "kept" =
        (belowOne.bindIn .agree (.int 0) .empty).scope := by
      have hscope := s.scopes_perform_destructure invoke (.text belowOne.text) (.int 0) "kept"
      rw [Engine.destructureArgument, Engine.destructure_of_request hrequest, hempty, hpolicy]
        at hscope
      exact hscope
    obtain ⟨rest, hrest⟩ := (scopes_writeOnce invoke hreached hpolicy hkeeps).1
      [number 0] [number 5] [] rfl
    rw [hfirst] at hrest
    exact ⟨rest, hrest⟩
  apply hkept
  · exact .new .agree
  · rfl
  · rw [start, Engine.request_new, Engine.compile_belowOne]
  · rfl

end Session

end Destructure
