import Destructure.Proofs.Binding

namespace Destructure

/-- A visit that is stopped behind its end is replayed with the bindings that it has made. -/
theorem Visit.replay_andThen_stop (v : Visit) (finding : Finding) (policy : Policy)
    (scope : Scope) :
    (v.andThen (stop finding)).replay policy scope =
      (Binding.bindEach policy scope v.bindings).andThen fun scope =>
        .failed scope (v.finding.getD finding).failure := by
  obtain ⟨bindings, _ | found⟩ := v
  · change (Binding.bindEach policy scope (bindings ++ [])).andThen _ = _
    rw [List.append_nil]
    rfl
  · rfl

namespace Pattern

/-- The tasks of the elements behind a place come before the task of the element at that place. -/
theorem exists_elementTasks_eq {elements before after : List Pattern} {element : Pattern}
    (hsplit : elements = before ++ element :: after) (items : List Value) (value : Value) :
    ∃ front, elementTasks elements items value =
      (elementTasks elements items value).take after.length ++
        (element, slot (.sequence elements) items value elements.length before.length element) ::
          front := by
  let task : Pattern × Nat → Task := fun place =>
    (place.1, slot (.sequence elements) items value elements.length place.2 place.1)
  have htasks : elementTasks elements items value =
      ((after.zipIdx (before.length + 1)).map task).reverse ++
        task (element, before.length) :: (before.zipIdx.map task).reverse := by
    have hplaces : elements.zipIdx =
        before.zipIdx ++ (element, before.length) :: after.zipIdx (before.length + 1) := by
      rw [hsplit, List.zipIdx_append, Nat.zero_add, List.zipIdx_cons]
    change (elements.zipIdx.map task).reverse = _
    rw [hplaces, List.map_append, List.map_cons, List.reverse_append, List.reverse_cons,
      List.append_assoc]
    rfl
  have hlength : after.length = ((after.zipIdx (before.length + 1)).map task).reverse.length := by
    simp
  have htake : (elementTasks elements items value).take after.length =
      ((after.zipIdx (before.length + 1)).map task).reverse := by
    rw [htasks, hlength, List.take_left]
  exact ⟨_, htake.symm ▸ htasks⟩

/-- A tail that other elements stand behind has no value to take. -/
theorem slot_misplacedTail {elements before after : List Pattern} {name : String}
    (hsplit : elements = before ++ .variable name true :: after) (hafter : after ≠ [])
    (items : List Value) (value : Value) :
    slot (.sequence elements) items value elements.length before.length (.variable name true) =
      .error (.invalid (.misplacedTail name (.sequence elements))) := by
  have hbehind : 0 < after.length := List.length_pos_iff.mpr hafter
  have hlength : elements.length = before.length + (after.length + 1) := by
    rw [hsplit, List.length_append, List.length_cons]
  have hnotlast : ¬ before.length + 1 = elements.length := by omega
  rw [slot, if_neg hnotlast]

/-- A sequence with a misplaced tail never matches, but it is not for the tail alone that it fails.
The elements behind the tail are matched first. If they all match, their bindings are made, and only
then the tail is reported; if one of them breaks off, the bindings until then are made, and that is
what is reported. Either way the bindings stay, and a binding that is refused ends the match
before. -/
theorem bindAll_misplacedTail {elements before after : List Pattern} {name : String}
    (hsplit : elements = before ++ .variable name true :: after) (hafter : after ≠ [])
    {value : Value} {items : List Value} (hitems : value.items? = some items) :
    let behind := (elementTasks elements items value).take after.length
    let outcome := (sequence elements).bindAll
    ((∃ found, YieldsAll behind found ∧ ∀ policy scope, outcome policy value scope =
        (Binding.bindEach policy scope found).andThen fun scope =>
          .failed scope (.ofError (.misplacedTail name (.sequence elements)))) ∨
      ∃ found finding, BreaksAmong behind found finding ∧ ∀ policy scope,
        outcome policy value scope =
          (Binding.bindEach policy scope found).andThen fun scope =>
            .failed scope finding.failure) ∧
    ∀ policy scope next, outcome policy value scope ≠ .matched next := by
  intro behind outcome
  let misplaced : Finding := .invalid (.misplacedTail name (.sequence elements))
  obtain ⟨front, hfront⟩ := exists_elementTasks_eq hsplit items value
  rw [slot_misplacedTail hsplit hafter] at hfront
  have hvisit : (sequence elements).visit value = (visitAll behind).andThen (.stop misplaced) := by
    rw [visit_sequence hitems, hfront, visitAll_append]
    rfl
  have hends (policy : Policy) (scope : Scope) : outcome policy value scope =
      (Binding.bindEach policy scope (visitAll behind).bindings).andThen fun scope =>
        .failed scope ((visitAll behind).finding.getD misplaced).failure := by
    change (sequence elements).bindAll policy value scope = _
    rw [bindAll_eq_replay, hvisit, Visit.replay_andThen_stop]
  constructor
  · have htells : ExplainsAll behind (visitAll behind) :=
      explainsAll_visitAll fun task _ => explains_visit task.1
    generalize visitAll behind = v at htells hends
    obtain ⟨found, _ | finding⟩ := v
    · exact Or.inl ⟨found, htells, hends⟩
    · exact Or.inr ⟨found, finding, htells, hends⟩
  · intro policy scope next h
    rw [hends] at h
    obtain ⟨between, -, hfailed⟩ := Outcome.andThen_eq_matched h
    cases congrArg Outcome.failure hfailed

/-- With a value for the element behind the tail, that element is bound and the tail is reported.
Without one, the sequence is reported to be too short. -/
theorem bindAll_misplacedTail_pair :
    let p := sequence [.variable "t" true, .variable "a" false]
    p.bindAll .overwrite (.list [.int 1, .int 2]) .empty =
        .failed (Scope.ofList [("a", .int 2)]) (.ofError (.misplacedTail "t" p)) ∧
      p.bindAll .overwrite (.list [.int 1]) .empty =
        .failed .empty (.ofMismatch (.sequenceTooShort p (.list [.int 1]) 1 1)) := by
  intro p
  have hsplit : [.variable "t" true, .variable "a" false] =
      [] ++ Pattern.variable "t" true :: [.variable "a" false] := rfl
  have hafter : [Pattern.variable "a" false] ≠ [] := List.cons_ne_nil _ _
  have hmain (items : List Value) :=
    bindAll_misplacedTail hsplit hafter (rfl : (Value.list items).items? = some items)
  constructor
  · obtain ⟨⟨found, hall, hends⟩ | ⟨found, finding, hsome, -⟩, -⟩ := hmain [.int 1, .int 2]
    · obtain rfl : [("a", .int 2)] = found := congrArg Visit.bindings hall.visitAll_eq
      exact hends .overwrite .empty
    · cases congrArg Visit.finding hsome.visitAll_eq
  · obtain ⟨⟨found, hall, -⟩ | ⟨found, finding, hsome, hends⟩, -⟩ := hmain [.int 1]
    · cases congrArg Visit.finding hall.visitAll_eq
    · obtain rfl : [] = found := congrArg Visit.bindings hsome.visitAll_eq
      obtain rfl : .mismatch (.sequenceTooShort p (.list [.int 1]) 1 1) = finding :=
        Option.some.inj (congrArg Visit.finding hsome.visitAll_eq)
      exact hends .overwrite .empty

end Pattern

end Destructure
