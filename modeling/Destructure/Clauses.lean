import Destructure.Engine
import Destructure.Entries

namespace Destructure

inductive Item (α : Type)
  | text (t : WideText)
  | value (v : Value) (other : v.text? = none ∧ v.items? = none)
  | action (a : α)
  | tuple (items : List (Item α))
  | list (items : List (Item α))

namespace Item

variable {α : Type}

mutual

def ofValue : Value → Item α
  | .text s => .text s
  | .list items => .list (ofValues items)
  | .tuple items => .tuple (ofValues items)
  | .null => .value .null ⟨rfl, rfl⟩
  | .boolean b => .value (.boolean b) ⟨rfl, rfl⟩
  | .number n => .value (.number n) ⟨rfl, rfl⟩
  | .mapping entries => .value (.mapping entries) ⟨rfl, rfl⟩
  | .store type entries faults fallback => .value (.store type entries faults fallback) ⟨rfl, rfl⟩
  | .bytes content inherited => .value (.bytes content inherited) ⟨rfl, rfl⟩
  | .object type attributes inherited faults =>
    .value (.object type attributes inherited faults) ⟨rfl, rfl⟩

def ofValues : List Value → List (Item α)
  | [] => []
  | v :: rest => ofValue v :: ofValues rest

end

def parts? : Item α → Option (List (Item α))
  | .tuple items | .list items => some items
  | _ => none

def text? : Item α → Option WideText
  | .text t => some t
  | _ => none

def action? : Item α → Option α
  | .action a => some a
  | _ => none

mutual

def render : Item α → List Char
  | .text t => t.render
  | .value v _ => v.render
  | .action _ => "<action>".toList
  | .tuple [item] => '(' :: item.render ++ [',', ')']
  | .tuple items => '(' :: Value.commaSeparated (renderAll items) ++ [')']
  | .list items => '[' :: Value.commaSeparated (renderAll items) ++ [']']

def renderAll : List (Item α) → List (List Char)
  | [] => []
  | item :: rest => item.render :: renderAll rest

end

mutual

def isWritable : Item α → Bool
  | .text _ | .action _ => true
  | .value v _ => v.isWritable
  | .tuple items | .list items => allWritable items

def allWritable : List (Item α) → Bool
  | [] => true
  | item :: rest => item.isWritable && allWritable rest

end

def shown (item : Item α) : String :=
  String.ofList (Value.shorten 60 item.render)

mutual

def sameKey : Item α → Item α → Bool
  | .text s, .text t => s == t
  | .value v _, .value w _ => v.sameKey w
  | .tuple items, .tuple others => allSame items others
  | _, _ => false

def allSame : List (Item α) → List (Item α) → Bool
  | [], [] => true
  | item :: rest, other :: others => item.sameKey other && allSame rest others
  | _, _ => false

end

end Item

inductive Clauses (α : Type)
  | items (list : List (Item α))
  | mapping (entries : List (Item α × Item α))

namespace Clauses

variable {α : Type}

def refuse (item : Item α) (error : PatternError) : Failure :=
  if item.isWritable then .ofError error else .integerTooLong

def ofEntries (entries : List (Item α × Item α)) : Clauses α :=
  .mapping (entries.foldl (fun done entry => setEntry entry.1.sameKey entry.1 entry.2 done) [])

def alternate : List (Item α) → List (Item α × Item α)
  | pattern :: action :: rest => (pattern, action) :: alternate rest
  | _ => []

def asPairs (number : Nat) : List (Item α) → Except Failure (List (Item α × Item α))
  | [] => .ok []
  | item :: rest =>
    match item.parts? with
    | some [pattern, action] => do return (pattern, action) :: (← asPairs (number + 1) rest)
    | _ => .error (refuse item (.clauseNotPair number item.shown))

def pairs : Clauses α → Except Failure (List (Item α × Item α))
  | .mapping entries => .ok entries
  | .items list =>
    if list.head?.any (fun item => item.text?.isSome) then
      if list.length % 2 = 0 then .ok (alternate list)
      else .error (.ofError (.oddClauseList list.length))
    else asPairs 1 list

def validate (number : Nat) :
    List (Item α × Item α) → Except Failure (List (WideText × α))
  | [] => .ok []
  | (pattern, action) :: rest =>
    match pattern.text? with
    | none => .error (refuse pattern (.clausePatternNotText number pattern.shown))
    | some text =>
      match action.action? with
      | none => .error (refuse action (.clauseActionNotCallable number text action.shown))
      | some a => do return (text, a) :: (← validate (number + 1) rest)

def resolve (clauses : Clauses α) : Except Failure (List (WideText × α)) := do
  validate 1 (← clauses.pairs)

end Clauses

def Failure.isMismatch : Failure → Bool
  | .mismatch _ => true
  | .raised fault => fault.kind == .noMatch
  | _ => false

structure Dispatch where
  result : Except Failure Value
  invoked : Option Scope
  engine : Engine

namespace Engine

variable {α : Type} {m : Type → Type} [Monad m]

def enactTo (act : α → Scope → Engine → m (Except Failure Value × Engine)) (source : Value)
    (e : Engine) : List (WideText × α) → m (Except Failure Value × Engine)
  | [] => pure (.ok .null, e)
  | (pattern, action) :: rest =>
    let (outcome, e) := e.destructure pattern source .empty
    match outcome.failure with
    | none => act action outcome.scope e
    | some failure =>
      if failure.isMismatch then enactTo act source e rest else pure (.error failure, e)

def enact (act : α → Scope → Engine → m (Except Failure Value × Engine)) (e : Engine)
    (source : Value) (clauses : Clauses α) : m (Except Failure Value × Engine) :=
  match clauses.resolve with
  | .error failure => pure (.error failure, e)
  | .ok resolved => e.enactTo act source resolved

def recording (invoke : α → Scope → Except Failure Value) (action : α) (bindings : Scope)
    (e : Engine) : StateM (Option Scope) (Except Failure Value × Engine) := do
  set (some bindings)
  return (invoke action bindings, e)

def dispatchTo (invoke : α → Scope → Except Failure Value) (source : Value) (e : Engine)
    (clauses : List (WideText × α)) : Dispatch :=
  let ((result, engine), invoked) := (e.enactTo (recording invoke) source clauses).run none
  ⟨result, invoked, engine⟩

def dispatch (invoke : α → Scope → Except Failure Value) (e : Engine) (source : Value)
    (clauses : Clauses α) : Dispatch :=
  let ((result, engine), invoked) := (e.enact (recording invoke) source clauses).run none
  ⟨result, invoked, engine⟩

end Engine

end Destructure
