import Destructure.Match
import Destructure.Proofs.Scope

namespace Destructure

inductive Finding
  | mismatch (cause : Mismatch)
  | invalid (error : PatternError)
  | raised (fault : Fault)

def Finding.failure : Finding → Failure
  | .mismatch cause => .ofMismatch cause
  | .invalid error => .ofError error
  | .raised fault => .raised fault

structure Visit where
  bindings : List (String × Value)
  finding : Option Finding

namespace Visit

def nothing : Visit := ⟨[], none⟩

def stop (finding : Finding) : Visit := ⟨[], some finding⟩

def ofVariable (name : String) (value : Value) : Visit :=
  if name = Pattern.discardName then nothing else ⟨[(name, value)], none⟩

def andThen (first second : Visit) : Visit :=
  match first.finding with
  | none => ⟨first.bindings ++ second.bindings, second.finding⟩
  | some _ => first

theorem andThen_finding_eq_none {first second : Visit}
    (h : (first.andThen second).finding = none) :
    first.finding = none ∧ second.finding = none ∧
      (first.andThen second).bindings = first.bindings ++ second.bindings := by
  obtain ⟨bindings, finding⟩ := first
  cases finding with
  | none => exact ⟨rfl, h, rfl⟩
  | some found => cases h

end Visit

namespace Pattern

mutual

def visit : Pattern → Value → Visit
  | .variable name _, value => .ofVariable name value
  | .sequence elements, value =>
    match value.items? with
    | some items => visitElements (.sequence elements) items value 0 elements
    | none => .stop (.mismatch (.notSequence (.sequence elements) value))
  | .mapping entries, value =>
    if value.isScalar || value.isSequence then
      .stop (.mismatch (.notMapping (.mapping entries) value))
    else visitEntries (.mapping entries) value entries
  | .text expected, value =>
    if Value.scalarsEqual (.text expected) value then .nothing
    else .stop (.mismatch (.literal (.text expected) value))
  | .number expected, value =>
    if Value.scalarsEqual (.number expected) value then .nothing
    else .stop (.mismatch (.literal (.number expected) value))
  | .groups expression elements, value =>
    match captures expression value with
    | .ok parts =>
      let items := parts.map Value.text
      visitElements (.sequence elements) items (.list items) 0 elements
    | .error cause => .stop (.mismatch cause)
  | .regex expression, value =>
    match captures expression value with
    | .ok _ => .nothing
    | .error cause => .stop (.mismatch cause)
  | .foreign node, _ => .stop (.invalid (.unsupportedNode node))

def visitElements (whole : Pattern) (items : List Value) (value : Value) (index : Nat) :
    List Pattern → Visit
  | [] => .nothing
  | element :: rest =>
    (visitElements whole items value (index + 1) rest).andThen
      (match element with
      | .variable name true =>
        if rest.isEmpty then .ofVariable name (.list (items.drop index))
        else .stop (.invalid (.misplacedTail name whole))
      | _ =>
        match items[index]? with
        | some item => visit element item
        | none => .stop (.mismatch (.sequenceTooShort whole value items.length index)))

def visitEntries (whole : Pattern) (value : Value) : List (String × Pattern) → Visit
  | [] => .nothing
  | (key, pattern) :: rest =>
    match value.lookup key whole with
    | .error cause => .stop (.mismatch cause)
    | .ok item => (visit pattern item).andThen (visitEntries whole value rest)

end

end Pattern

def Binding.bindEach (policy : Policy) (scope : Scope) : List (String × Value) → Outcome
  | [] => .matched scope
  | (name, value) :: rest =>
    (bind policy scope name value).andThen fun scope => bindEach policy scope rest

namespace Outcome

@[simp] theorem matched_andThen (scope : Scope) (next : Scope → Outcome) :
    (matched scope).andThen next = next scope := rfl

@[simp] theorem failed_andThen (scope : Scope) (failure : Failure) (next : Scope → Outcome) :
    (failed scope failure).andThen next = failed scope failure := rfl

@[simp] theorem andThen_matched (o : Outcome) : o.andThen matched = o := by
  rcases o with ⟨scope, _ | failure⟩ <;> rfl

theorem eq_matched {o : Outcome} (h : o.failure = none) : o = matched o.scope := by
  obtain ⟨scope, failure⟩ := o
  cases h
  rfl

theorem andThen_eq_matched {o : Outcome} {next : Scope → Outcome} {result : Scope}
    (h : o.andThen next = matched result) :
    ∃ between, o = matched between ∧ next between = matched result := by
  rcases o with ⟨scope, _ | failure⟩
  · exact ⟨scope, rfl, h⟩
  · cases congrArg Outcome.failure h

theorem andThen_assoc (o : Outcome) (f g : Scope → Outcome) :
    (o.andThen f).andThen g = o.andThen fun scope => (f scope).andThen g := by
  rcases o with ⟨scope, _ | failure⟩ <;> rfl

end Outcome

theorem Binding.bindEach_append (policy : Policy) (scope : Scope)
    (first second : List (String × Value)) :
    bindEach policy scope (first ++ second) =
      (bindEach policy scope first).andThen fun scope => bindEach policy scope second := by
  induction first generalizing scope with
  | nil => rfl
  | cons binding rest ih =>
    obtain ⟨name, value⟩ := binding
    rw [List.cons_append, bindEach, bindEach, Outcome.andThen_assoc]
    congr 1
    funext scope
    exact ih scope

namespace Visit

def replay (v : Visit) (policy : Policy) (scope : Scope) : Outcome :=
  (Binding.bindEach policy scope v.bindings).andThen fun scope =>
    ⟨scope, v.finding.map Finding.failure⟩

variable (policy : Policy) (scope : Scope)

theorem replay_ofVariable (name : String) (value : Value) :
    (ofVariable name value).replay policy scope =
      Binding.bindVariable policy scope name value := by
  unfold ofVariable Binding.bindVariable
  split
  · rfl
  · change ((Binding.bind policy scope name value).andThen Outcome.matched).andThen
      Outcome.matched = _
    rw [Outcome.andThen_matched, Outcome.andThen_matched]

theorem replay_andThen (first second : Visit) :
    (first.andThen second).replay policy scope =
      (first.replay policy scope).andThen (second.replay policy) := by
  obtain ⟨bindings, finding⟩ := first
  cases finding with
  | none =>
    change (Binding.bindEach policy scope (bindings ++ second.bindings)).andThen _ =
      ((Binding.bindEach policy scope bindings).andThen Outcome.matched).andThen _
    rw [Binding.bindEach_append, Outcome.andThen_assoc, Outcome.andThen_matched]
    rfl
  | some found =>
    change _ = ((Binding.bindEach policy scope bindings).andThen _).andThen _
    rw [Outcome.andThen_assoc]
    rfl

end Visit

namespace Pattern

theorem eq_variable_of_isTailVariable {p : Pattern} (h : p.isTailVariable = true) :
    ∃ name, p = .variable name true := by
  match p with
  | .variable name true => exact ⟨name, rfl⟩

section Elements

variable (policy : Policy) (whole : Pattern) (items : List Value) (value : Value) (index : Nat)
  (rest : List Pattern)

theorem visitElements_tail (name : String) :
    visitElements whole items value index (.variable name true :: rest) =
      (visitElements whole items value (index + 1) rest).andThen
        (if rest.isEmpty then .ofVariable name (.list (items.drop index))
        else .stop (.invalid (.misplacedTail name whole))) := by
  rw [visitElements]

theorem visitElements_cons {element : Pattern} (h : element.isTailVariable = false) :
    visitElements whole items value index (element :: rest) =
      (visitElements whole items value (index + 1) rest).andThen
        (match items[index]? with
        | some item => visit element item
        | none => .stop (.mismatch (.sequenceTooShort whole value items.length index))) := by
  rw [visitElements]
  rintro name rfl
  cases h

theorem bindElements_tail (name : String) (scope : Scope) :
    bindElements policy whole items value index (.variable name true :: rest) scope =
      (bindElements policy whole items value (index + 1) rest scope).andThen fun scope =>
        if rest.isEmpty then Binding.bindVariable policy scope name (.list (items.drop index))
        else .failed scope (.ofError (.misplacedTail name whole)) := by
  rw [bindElements]

theorem bindElements_cons {element : Pattern} (h : element.isTailVariable = false)
    (scope : Scope) :
    bindElements policy whole items value index (element :: rest) scope =
      (bindElements policy whole items value (index + 1) rest scope).andThen fun scope =>
        match items[index]? with
        | some item => bindAll policy element item scope
        | none =>
          .failed scope (.ofMismatch (.sequenceTooShort whole value items.length index)) := by
  rw [bindElements]
  congr 1
  funext scope
  split
  · cases h
  · rfl

end Elements

open Visit

mutual

/-- Matching replays the visit, under either policy. -/
theorem bindAll_eq_replay (policy : Policy) (p : Pattern) (value : Value) (scope : Scope) :
    p.bindAll policy value scope = (p.visit value).replay policy scope := by
  match p with
  | .variable name isTail =>
    rw [bindAll, visit, replay_ofVariable]
  | .sequence elements =>
    rw [bindAll, visit]
    cases value.items? with
    | some items => exact bindElements_eq_replay policy _ items value 0 elements scope
    | none => rfl
  | .mapping entries =>
    rw [bindAll, visit]
    split
    · rfl
    · exact bindEntries_eq_replay policy _ value entries scope
  | .text expected =>
    rw [bindAll, visit]
    split <;> rfl
  | .number expected =>
    rw [bindAll, visit]
    split <;> rfl
  | .groups expression elements =>
    rw [bindAll, visit]
    cases captures expression value with
    | ok parts => exact bindElements_eq_replay policy _ _ _ 0 elements scope
    | error cause => rfl
  | .regex expression =>
    rw [bindAll, visit]
    cases captures expression value <;> rfl
  | .foreign node => rfl

theorem bindElements_eq_replay (policy : Policy) (whole : Pattern) (items : List Value)
    (value : Value) (index : Nat) (elements : List Pattern) (scope : Scope) :
    bindElements policy whole items value index elements scope =
      (visitElements whole items value index elements).replay policy scope := by
  match elements with
  | [] => rfl
  | element :: rest =>
    have hrest := bindElements_eq_replay policy whole items value (index + 1) rest scope
    cases ht : element.isTailVariable with
    | true =>
      obtain ⟨name, rfl⟩ := eq_variable_of_isTailVariable ht
      rw [bindElements_tail, visitElements_tail, replay_andThen, hrest]
      congr 1
      funext scope
      split
      · rw [replay_ofVariable]
      · rfl
    | false =>
      rw [bindElements_cons _ _ _ _ _ _ ht, visitElements_cons _ _ _ _ _ ht, replay_andThen, hrest]
      congr 1
      funext scope
      cases items[index]? with
      | some item => exact bindAll_eq_replay policy element item scope
      | none => rfl

theorem bindEntries_eq_replay (policy : Policy) (whole : Pattern) (value : Value)
    (entries : List (String × Pattern)) (scope : Scope) :
    bindEntries policy whole value entries scope =
      (visitEntries whole value entries).replay policy scope := by
  match entries with
  | [] => rfl
  | (key, pattern) :: rest =>
    rw [bindEntries, visitEntries]
    cases value.lookup key whole with
    | error cause => rfl
    | ok item =>
      change (bindAll policy pattern item scope).andThen _ = _
      rw [bindAll_eq_replay policy pattern item scope, replay_andThen]
      congr 1
      funext scope
      exact bindEntries_eq_replay policy whole value rest scope

end

end Pattern

end Destructure
