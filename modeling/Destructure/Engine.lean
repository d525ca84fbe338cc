import Destructure.Argument
import Destructure.Cache
import Destructure.Compile
import Destructure.Match

/-!
The engine: a policy for scopes and a cache of compiled patterns.

Matching a pattern with a condition first binds into a scope of its own, so that the caller's scope
stays as it is unless the condition holds.
-/

namespace Destructure

namespace Compiled

def matchedBindings (compiled : Compiled) (scope : Scope) : List (Value × Value) :=
  compiled.tree.variableNames.eraseDups.filterMap fun name =>
    (scope.get? name).map fun value => (.text name, value)

def bindIn (compiled : Compiled) (policy : Policy) (source : Value) (scope : Scope) : Outcome :=
  match compiled.condition with
  | none => compiled.tree.bindAll policy source scope
  | some condition =>
    let own := match policy with
      | .overwrite => Scope.empty
      | .agree => scope
    let outcome := compiled.tree.bindAll policy source own
    match outcome.failure with
    | some failure => .failed scope failure
    | none =>
      match condition.holds outcome.scope with
      | .error failure => .failed scope failure
      | .ok true => .matched (scope.update outcome.scope)
      | .ok false =>
        .failed scope (.ofMismatch (.conditionNotMet condition.text compiled.text
          (compiled.matchedBindings outcome.scope)))

end Compiled

structure Engine where
  policy : Policy
  cache : Cache Compiled

namespace Engine

def new (policy : Policy) : Engine :=
  ⟨policy, .empty⟩

def request (e : Engine) (pattern : WideText) : Except Failure Compiled × Engine :=
  let (result, cache) := e.cache.requestText compile pattern
  (result, { e with cache := cache })

def requestArgument (e : Engine) : Argument → Except Failure Compiled × Engine
  | .text t => e.request t
  | .other v _ => (.error (.ofError (.patternNotText v)), e)

def destructure (e : Engine) (pattern : WideText) (source : Value) (scope : Scope) :
    Outcome × Engine :=
  let (result, e) := e.request pattern
  match result with
  | .ok compiled => (compiled.bindIn e.policy source scope, e)
  | .error failure => (.failed scope failure, e)

def destructureArgument (e : Engine) (pattern : Argument) (source : Value) (scope : Scope) :
    Outcome × Engine :=
  match pattern with
  | .text t => e.destructure t source scope
  | .other v _ => (.failed scope (.ofError (.patternNotText v)), e)

def setPolicy (e : Engine) (policy : Policy) : Engine :=
  { e with policy := policy }

end Engine

end Destructure
