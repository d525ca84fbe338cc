import Destructure.Session

/-!
Fleets: any number of engines that share one cache.

Each engine has a policy of its own. The cache can also be asked for what it holds, which neither
compiles nor counts anything. A compiler without an engine is one whose policy plays no part.
-/

namespace Destructure

namespace Cache

variable {α : Type}

def get? (c : Cache α) (text : WideText) : Except Failure (Option α) :=
  (fingerprint text).map c.find?

def contains (c : Cache α) : Argument → Except Failure Bool
  | .text t => (c.get? t).map Option.isSome
  | .other _ _ => .ok false

end Cache

structure Fleet (ι : Type) where
  cache : Cache Compiled
  policy : ι → Policy
  scopes : String → Scope

namespace Fleet

variable {ι α : Type}

inductive Demand (ι α : Type)
  | perform (engine : ι) (command : Command α)
  | get (text : WideText)
  | contains (pattern : Argument)

inductive Answer
  | reply (reply : Reply)
  | found (entry : Except Failure (Option Compiled))
  | contained (answer : Except Failure Bool)

def start (policy : ι → Policy) : Fleet ι :=
  ⟨.empty, policy, fun _ => .empty⟩

def session (f : Fleet ι) (engine : ι) : Session :=
  ⟨⟨f.policy engine, f.cache⟩, f.scopes⟩

variable [DecidableEq ι]

def resume (f : Fleet ι) (engine : ι) (s : Session) : Fleet ι :=
  ⟨s.engine.cache, fun other => if other = engine then s.engine.policy else f.policy other,
    s.scopes⟩

def serve (invoke : α → Scope → Except Failure Value) (f : Fleet ι) :
    Demand ι α → Answer × Fleet ι
  | .perform engine command =>
    let (reply, s) := (f.session engine).perform invoke command
    (.reply reply, f.resume engine s)
  | .get text => (.found (f.cache.get? text), f)
  | .contains pattern => (.contained (f.cache.contains pattern), f)

def after (invoke : α → Scope → Except Failure Value) (f : Fleet ι)
    (demands : List (Demand ι α)) : Fleet ι :=
  demands.foldl (fun f demand => (f.serve invoke demand).2) f

end Fleet

end Destructure
