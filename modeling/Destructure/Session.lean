import Destructure.Clauses

/-!
Sessions: one engine that is used step after step.

The caller keeps scopes under names and binds into them, match after match. Between the matches the
policy may change, and so may the caller's scopes. An action that uses the engine itself does so at
the end of its dispatch: what it asks for are commands of their own, which come next.
-/

namespace Destructure

inductive Command (α : Type)
  | compile (pattern : Argument)
  | destructure (pattern : Argument) (source : Value) (scope : Option String)
  | dispatch (source : Value) (clauses : Clauses α)
  | setPolicy (policy : Policy)
  | setScope (name : String) (scope : Scope)

inductive Reply
  | compiled (result : Except Failure Compiled)
  | destructured (outcome : Outcome)
  | dispatched (result : Except Failure Value) (invoked : Option Scope)
  | noted

structure Session where
  engine : Engine
  scopes : String → Scope

namespace Session

variable {α : Type}

def start (policy : Policy) : Session :=
  ⟨.new policy, fun _ => .empty⟩

def setScope (s : Session) (name : String) (scope : Scope) : Session :=
  { s with scopes := fun other => if other = name then scope else s.scopes other }

def renewed (s : Session) : Session :=
  { s with engine := .new s.engine.policy }

def perform (invoke : α → Scope → Except Failure Value) (s : Session) :
    Command α → Reply × Session
  | .compile pattern =>
    let (result, e) := s.engine.requestArgument pattern
    (.compiled result, { s with engine := e })
  | .destructure pattern source none =>
    let (outcome, e) := s.engine.destructureArgument pattern source .empty
    (.destructured outcome, { s with engine := e })
  | .destructure pattern source (some name) =>
    let (outcome, e) := s.engine.destructureArgument pattern source (s.scopes name)
    (.destructured outcome, { s with engine := e }.setScope name outcome.scope)
  | .dispatch source clauses =>
    let dispatch := s.engine.dispatch invoke source clauses
    (.dispatched dispatch.result dispatch.invoked, { s with engine := dispatch.engine })
  | .setPolicy policy => (.noted, { s with engine := s.engine.setPolicy policy })
  | .setScope name scope => (.noted, s.setScope name scope)

def after (invoke : α → Scope → Except Failure Value) (s : Session)
    (commands : List (Command α)) : Session :=
  commands.foldl (fun s command => (s.perform invoke command).2) s

end Session

end Destructure
