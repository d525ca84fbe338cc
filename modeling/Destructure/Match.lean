import Destructure.Failure
import Destructure.Scope
import Destructure.Value.Equality

/-!
Matching a value against a pattern, which binds variables in a scope.

A policy says what becomes of a name that is bound already: it is given the new value, or the new
value must agree with the old one. A sequence is matched from its last element to its first, the
entries of a mapping in the order of the pattern. The first mismatch ends the match; what has been
bound by then stays bound.
-/

namespace Destructure

inductive Policy
  | overwrite
  | agree
  deriving DecidableEq

structure Outcome where
  scope : Scope
  failure : Option Failure

namespace Outcome

def matched (scope : Scope) : Outcome :=
  ⟨scope, none⟩

def failed (scope : Scope) (failure : Failure) : Outcome :=
  ⟨scope, some failure⟩

def andThen (o : Outcome) (next : Scope → Outcome) : Outcome :=
  match o.failure with
  | none => next o.scope
  | some _ => o

def result (o : Outcome) : Except Failure Unit :=
  match o.failure with
  | none => .ok ()
  | some failure => .error failure

end Outcome

namespace Binding

def elementKey (key : String) (index : Nat) : String :=
  key ++ "[" ++ toString index ++ "]"

def checkOther (key : String) (existing value : Value) : Except Failure Unit :=
  if existing.isScalar && value.isScalar then
    if Value.scalarsEqual existing value then .ok ()
    else .error (.ofMismatch (.otherScalar key existing value))
  else if value.isSequence then .error (.ofMismatch (.otherShape key existing value))
  else .error (.ofMismatch (.neverEqual key existing value))

mutual

def check (key : String) : Value → Value → Except Failure Unit
  | .list a, value =>
    match value.items? with
    | some b =>
      if a.length = b.length then checkItems key 0 a b
      else .error (.ofMismatch (.otherLength key (.list a) value a.length b.length))
    | none => .error (.ofMismatch (.otherShape key (.list a) value))
  | .tuple a, value =>
    match value.items? with
    | some b =>
      if a.length = b.length then checkItems key 0 a b
      else .error (.ofMismatch (.otherLength key (.tuple a) value a.length b.length))
    | none => .error (.ofMismatch (.otherShape key (.tuple a) value))
  | existing, value => checkOther key existing value

def checkItems (key : String) (index : Nat) : List Value → List Value → Except Failure Unit
  | a :: as, b :: bs => do
    check (elementKey key index) a b
    checkItems key (index + 1) as bs
  | _, _ => .ok ()

end

def bind (policy : Policy) (scope : Scope) (key : String) (value : Value) : Outcome :=
  match policy, scope.get? key with
  | .agree, some existing =>
    match check key existing value with
    | .ok () => .matched scope
    | .error failure => .failed scope failure
  | _, _ => .matched (scope.set key value)

def bindVariable (policy : Policy) (scope : Scope) (name : String) (value : Value) : Outcome :=
  if name = Pattern.discardName then .matched scope else bind policy scope name value

end Binding

namespace Value

def heldAt {β : Type} (rows : List (Value × β)) (key : Value) : Option β :=
  (rows.find? fun row => key.sameKey row.1).map (·.2)

def item : Value → Value → Except Fault Value
  | .mapping entries, key =>
    match heldAt entries key with
    | some value => .ok value
    | none => .error ⟨.missingKey, ""⟩
  | .store type entries faults fallback, key =>
    match heldAt faults key, (heldAt entries key).or fallback with
    | some fault, _ => .error fault
    | none, some value => .ok value
    | none, none => .error type.absence
  | _, _ => .error ⟨.missingKey, ""⟩

def keys : Value → List Value
  | .mapping entries => entries.map (·.1)
  | .store _ entries faults _ => entries.map (·.1) ++ faults.map (·.1)
  | _ => []

def member : Value → String → Except Fault Value
  | .bytes _ inherited, name =>
    match inherited.lookup name with
    | some value => .ok value
    | none => .error ⟨.missingAttribute, name⟩
  | .object _ attributes inherited faults, name =>
    match faults.lookup name, (attributes.lookup name).or (inherited.lookup name) with
    | some fault, _ => .error fault
    | none, some value => .ok value
    | none, none => .error ⟨.missingAttribute, name⟩
  | _, name => .error ⟨.missingAttribute, name⟩

def lookup (source : Value) (key : String) (pattern : Pattern) : Except Mismatch Value :=
  if source.isMapping then
    (source.item (.text key)).mapError fun fault =>
      if fault.kind = .missingKey then .missingKey key source.keys pattern
      else .failedKey key fault source pattern
  else
    (source.member key).mapError fun fault =>
      if fault.kind = .missingAttribute then .missingAttribute key source pattern
      else .failedAttribute key fault source pattern

end Value

namespace Pattern

def captures (expression : Regex) : Value → Except Mismatch (List String)
  | .text s =>
    match expression.fullMatch? s with
    | some parts => .ok parts
    | none => .error (.regexDiffers expression s)
  | value => .error (.regexOnOther expression value)

mutual

def bindAll (policy : Policy) : Pattern → Value → Scope → Outcome
  | .variable name _, value, scope => Binding.bindVariable policy scope name value
  | .sequence elements, value, scope =>
    match value.items? with
    | some items => bindElements policy (.sequence elements) items value 0 elements scope
    | none => .failed scope (.ofMismatch (.notSequence (.sequence elements) value))
  | .mapping entries, value, scope =>
    if value.isScalar || value.isSequence then
      .failed scope (.ofMismatch (.notMapping (.mapping entries) value))
    else bindEntries policy (.mapping entries) value entries scope
  | .text expected, value, scope =>
    if Value.scalarsEqual (.text expected) value then .matched scope
    else .failed scope (.ofMismatch (.literal (.text expected) value))
  | .number expected, value, scope =>
    if Value.scalarsEqual (.number expected) value then .matched scope
    else .failed scope (.ofMismatch (.literal (.number expected) value))
  | .groups expression elements, value, scope =>
    match captures expression value with
    | .ok parts =>
      let items := parts.map Value.text
      bindElements policy (.sequence elements) items (.list items) 0 elements scope
    | .error cause => .failed scope (.ofMismatch cause)
  | .regex expression, value, scope =>
    match captures expression value with
    | .ok _ => .matched scope
    | .error cause => .failed scope (.ofMismatch cause)
  | .foreign node, _, scope => .failed scope (.ofError (.unsupportedNode node))

def bindElements (policy : Policy) (whole : Pattern) (items : List Value) (value : Value)
    (index : Nat) : List Pattern → Scope → Outcome
  | [], scope => .matched scope
  | element :: rest, scope =>
    (bindElements policy whole items value (index + 1) rest scope).andThen fun scope =>
      match element with
      | .variable name true =>
        if rest.isEmpty then
          Binding.bindVariable policy scope name (.list (items.drop index))
        else .failed scope (.ofError (.misplacedTail name whole))
      | _ =>
        match items[index]? with
        | some item => bindAll policy element item scope
        | none =>
          .failed scope (.ofMismatch (.sequenceTooShort whole value items.length index))

def bindEntries (policy : Policy) (whole : Pattern) (value : Value) :
    List (String × Pattern) → Scope → Outcome
  | [], scope => .matched scope
  | (key, pattern) :: rest, scope =>
    match value.lookup key whole with
    | .error cause => .failed scope (.ofMismatch cause)
    | .ok item =>
      (bindAll policy pattern item scope).andThen (bindEntries policy whole value rest)

end

end Pattern

end Destructure
