import Destructure.Proofs.Regex
import Destructure.Proofs.Visit

/-!
What a match comes to, told without a scope and without a run.

A pattern with parts sets a row of tasks: each part is matched against a value that is found in the
source beforehand. If all tasks succeed, what they yield is strung together, in the order of the
tasks; the first that does not breaks the match off. Main statement: every match succeeds or breaks
off, and in one way only, as its visit tells. A match that succeeds binds the variables of its pattern.
-/

namespace Destructure

namespace Visit

variable (a b c : Visit)

theorem andThen_nothing : a.andThen nothing = a := by
  obtain ⟨bindings, finding⟩ := a
  cases finding with
  | none => exact congrArg (Visit.mk · none) (List.append_nil bindings)
  | some found => rfl

theorem andThen_assoc : (a.andThen b).andThen c = a.andThen (b.andThen c) := by
  obtain ⟨first, _ | found⟩ := a
  · obtain ⟨second, _ | found⟩ := b
    · exact congrArg (Visit.mk · c.finding) (List.append_assoc first second c.bindings)
    · rfl
  · rfl

end Visit

namespace Pattern

def members : Pattern → List Pattern
  | .sequence elements | .groups _ elements => elements
  | .mapping entries => entries.map Prod.snd
  | _ => []

/-- Induction over patterns, from what is directly inside one to the whole. -/
theorem induction_members {motive : Pattern → Prop}
    (whole : ∀ p, (∀ q ∈ p.members, motive q) → motive p) (p : Pattern) : motive p := by
  have leaf (p : Pattern) (h : p.members = []) : motive p :=
    whole p fun q hq => nomatch h ▸ hq
  refine @Pattern.rec motive (fun elements => ∀ e ∈ elements, motive e)
    (fun entries => ∀ e ∈ entries.map Prod.snd, motive e) (fun entry => motive entry.2)
    (fun value => leaf _ rfl) (fun value => leaf _ rfl) (fun expression => leaf _ rfl)
    (fun name isTail => leaf _ rfl) ?_ ?_ ?_ (fun node => leaf _ rfl) ?_ ?_ ?_ ?_
    (fun key p ih => ih) p
  · exact fun elements ih => whole _ ih
  · exact fun entries ih => whole _ ih
  · exact fun expression elements ih => whole _ ih
  · exact fun e hm => nomatch hm
  · exact fun e rest he hr => List.forall_mem_cons.mpr ⟨he, hr⟩
  · exact fun e hm => nomatch hm
  · exact fun entry rest he hr => List.forall_mem_cons.mpr ⟨he, hr⟩

abbrev Task := Pattern × Except Finding Value

def slot (whole : Pattern) (items : List Value) (value : Value) (count index : Nat) :
    Pattern → Except Finding Value
  | .variable name true =>
    if index + 1 = count then .ok (.list (items.drop index))
    else .error (.invalid (.misplacedTail name whole))
  | _ =>
    match items[index]? with
    | some item => .ok item
    | none => .error (.mismatch (.sequenceTooShort whole value items.length index))

def elementTasks (elements : List Pattern) (items : List Value) (value : Value) : List Task :=
  (elements.zipIdx.map fun (element, index) =>
    (element, slot (.sequence elements) items value elements.length index element)).reverse

def groupItems (expression : Regex) (s : String) (c : Regex.Cursor) : List Value :=
  .text s :: (List.range expression.groupCount).map fun i =>
    .text (String.ofList ((c.captured? (i + 1)).getD []))

def entryTasks (entries : List (String × Pattern)) (value : Value) : List Task :=
  entries.map fun (key, pattern) =>
    (pattern, (value.lookup key (.mapping entries)).mapError Finding.mismatch)

mutual

inductive Yields : Pattern → Value → List (String × Value) → Prop
  | text {expected : String} {value : Value}
      (h : Value.scalarsEqual (.text expected) value = true) : Yields (.text expected) value []
  | number {expected : Number} {value : Value}
      (h : Value.scalarsEqual (.number expected) value = true) : Yields (.number expected) value []
  | regex {expression : Regex} {s : String} {c : Regex.Cursor}
      (h : Regex.runWhole expression.plan s.toList = some c) :
      Yields (.regex expression) (.text s) []
  | discard {isTail : Bool} {value : Value} : Yields (.variable discardName isTail) value []
  | «variable» {name : String} {isTail : Bool} {value : Value} (h : name ≠ discardName) :
      Yields (.variable name isTail) value [(name, value)]
  | sequence {elements : List Pattern} {value : Value} {items : List Value}
      {bindings : List (String × Value)} (h : value.items? = some items)
      (hall : YieldsAll (elementTasks elements items value) bindings) :
      Yields (.sequence elements) value bindings
  | mapping {entries : List (String × Pattern)} {value : Value} {bindings : List (String × Value)}
      (h : ¬ (value.isScalar || value.isSequence) = true)
      (hall : YieldsAll (entryTasks entries value) bindings) :
      Yields (.mapping entries) value bindings
  | groups {expression : Regex} {elements : List Pattern} {s : String} {c : Regex.Cursor}
      {bindings : List (String × Value)}
      (h : Regex.runWhole expression.plan s.toList = some c)
      (hall : YieldsAll (elementTasks elements (groupItems expression s c)
        (.list (groupItems expression s c))) bindings) :
      Yields (.groups expression elements) (.text s) bindings

inductive YieldsAll : List Task → List (String × Value) → Prop
  | nil : YieldsAll [] []
  | cons {p : Pattern} {value : Value} {tasks : List Task} {bindings more : List (String × Value)}
      (h : Yields p value bindings) (hall : YieldsAll tasks more) :
      YieldsAll ((p, .ok value) :: tasks) (bindings ++ more)

end

mutual

inductive Breaks : Pattern → Value → List (String × Value) → Finding → Prop
  | text {expected : String} {value : Value}
      (h : ¬ Value.scalarsEqual (.text expected) value = true) :
      Breaks (.text expected) value [] (.mismatch (.literal (.text expected) value))
  | number {expected : Number} {value : Value}
      (h : ¬ Value.scalarsEqual (.number expected) value = true) :
      Breaks (.number expected) value [] (.mismatch (.literal (.number expected) value))
  | regexDiffers {expression : Regex} {s : String}
      (h : Regex.runWhole expression.plan s.toList = none) :
      Breaks (.regex expression) (.text s) [] (.mismatch (.regexDiffers expression s))
  | regexOnOther {expression : Regex} {value : Value} (h : value.text? = none) :
      Breaks (.regex expression) value [] (.mismatch (.regexOnOther expression value))
  | foreign {node : ForeignNode} {value : Value} :
      Breaks (.foreign node) value [] (.invalid (.unsupportedNode node))
  | notSequence {elements : List Pattern} {value : Value} (h : value.items? = none) :
      Breaks (.sequence elements) value [] (.mismatch (.notSequence (.sequence elements) value))
  | sequence {elements : List Pattern} {value : Value} {items : List Value}
      {bindings : List (String × Value)} {finding : Finding} (h : value.items? = some items)
      (hsome : BreaksAmong (elementTasks elements items value) bindings finding) :
      Breaks (.sequence elements) value bindings finding
  | notMapping {entries : List (String × Pattern)} {value : Value}
      (h : (value.isScalar || value.isSequence) = true) :
      Breaks (.mapping entries) value [] (.mismatch (.notMapping (.mapping entries) value))
  | mapping {entries : List (String × Pattern)} {value : Value} {bindings : List (String × Value)}
      {finding : Finding} (h : ¬ (value.isScalar || value.isSequence) = true)
      (hsome : BreaksAmong (entryTasks entries value) bindings finding) :
      Breaks (.mapping entries) value bindings finding
  | groupsDiffer {expression : Regex} {elements : List Pattern} {s : String}
      (h : Regex.runWhole expression.plan s.toList = none) :
      Breaks (.groups expression elements) (.text s) [] (.mismatch (.regexDiffers expression s))
  | groupsOnOther {expression : Regex} {elements : List Pattern} {value : Value}
      (h : value.text? = none) :
      Breaks (.groups expression elements) value [] (.mismatch (.regexOnOther expression value))
  | groups {expression : Regex} {elements : List Pattern} {s : String} {c : Regex.Cursor}
      {bindings : List (String × Value)} {finding : Finding}
      (h : Regex.runWhole expression.plan s.toList = some c)
      (hsome : BreaksAmong (elementTasks elements (groupItems expression s c)
        (.list (groupItems expression s c))) bindings finding) :
      Breaks (.groups expression elements) (.text s) bindings finding

inductive BreaksAmong : List Task → List (String × Value) → Finding → Prop
  | missing {p : Pattern} {tasks : List Task} {finding : Finding} :
      BreaksAmong ((p, .error finding) :: tasks) [] finding
  | here {p : Pattern} {value : Value} {tasks : List Task} {bindings : List (String × Value)}
      {finding : Finding} (h : Breaks p value bindings finding) :
      BreaksAmong ((p, .ok value) :: tasks) bindings finding
  | later {p : Pattern} {value : Value} {tasks : List Task} {bindings more : List (String × Value)}
      {finding : Finding} (h : Yields p value bindings) (hsome : BreaksAmong tasks more finding) :
      BreaksAmong ((p, .ok value) :: tasks) (bindings ++ more) finding

end

def visitTask (task : Task) : Visit :=
  match task.2 with
  | .ok value => task.1.visit value
  | .error finding => .stop finding

def visitAll : List Task → Visit
  | [] => .nothing
  | task :: tasks => (visitTask task).andThen (visitAll tasks)

theorem visitAll_append (first second : List Task) :
    visitAll (first ++ second) = (visitAll first).andThen (visitAll second) := by
  induction first with
  | nil => rfl
  | cons task tasks ih => rw [List.cons_append, visitAll, visitAll, ih, Visit.andThen_assoc]

theorem visitAll_concat (tasks : List Task) (task : Task) :
    visitAll (tasks ++ [task]) = (visitAll tasks).andThen (visitTask task) := by
  rw [visitAll_append, visitAll, visitAll, Visit.andThen_nothing]

/-- The visit of an element at an index, behind which there are the elements of `rest`. -/
theorem visitTask_element (whole : Pattern) (items : List Value) (value : Value) (index : Nat)
    (element : Pattern) (rest : List Pattern) :
    visitElements whole items value index (element :: rest) =
      (visitElements whole items value (index + 1) rest).andThen
        (visitTask (element, slot whole items value (index + (rest.length + 1)) index element)) := by
  cases ht : element.isTailVariable with
  | true =>
    obtain ⟨name, rfl⟩ := eq_variable_of_isTailVariable ht
    have hlast : rest.isEmpty = true ↔ index + 1 = index + (rest.length + 1) := by
      rw [List.isEmpty_iff_length_eq_zero]
      omega
    rw [visitElements_tail, slot]
    by_cases hr : rest.isEmpty = true
    · rw [if_pos hr, if_pos (hlast.mp hr)]
      rfl
    · rw [if_neg hr, if_neg fun h => hr (hlast.mpr h)]
      rfl
  | false =>
    have hslot : slot whole items value (index + (rest.length + 1)) index element =
        match items[index]? with
        | some item => .ok item
        | none => .error (.mismatch (.sequenceTooShort whole value items.length index)) := by
      unfold slot
      split
      · cases ht
      · rfl
    rw [visitElements_cons _ _ _ _ _ ht, hslot]
    cases items[index]? <;> rfl

theorem visitElements_eq_visitAll (whole : Pattern) (items : List Value) (value : Value)
    (index : Nat) (elements : List Pattern) :
    visitElements whole items value index elements =
      visitAll (((elements.zipIdx index).map fun (element, i) =>
        (element, slot whole items value (index + elements.length) i element)).reverse) := by
  induction elements generalizing index with
  | nil => rfl
  | cons element rest ih =>
    -- the visit of the others comes first, from the next index on and with the same count in all
    have hcount : index + 1 + rest.length = index + (rest.length + 1) := by omega
    rw [visitTask_element, ih, hcount, List.zipIdx_cons, List.map_cons, List.reverse_cons,
      visitAll_concat, List.length_cons]

theorem visitEntries_eq_visitAll (whole : Pattern) (value : Value)
    (entries : List (String × Pattern)) :
    visitEntries whole value entries =
      visitAll (entries.map fun (key, pattern) =>
        (pattern, (value.lookup key whole).mapError Finding.mismatch)) := by
  induction entries with
  | nil => rfl
  | cons entry rest ih =>
    obtain ⟨key, pattern⟩ := entry
    rw [visitEntries, List.map_cons, visitAll, ← ih]
    dsimp only [visitTask]
    cases value.lookup key whole <;> rfl

section Parts

variable {expression : Regex} {elements : List Pattern} {entries : List (String × Pattern)}
  {value : Value} {s : String} {c : Regex.Cursor}

theorem captures_of_runWhole (h : Regex.runWhole expression.plan s.toList = some c) :
    ∃ parts, captures expression (.text s) = .ok parts ∧
      parts.map Value.text = groupItems expression s c := by
  have hmatch := Regex.fullMatch?_eq_some_iff.mpr ⟨c, h, rfl⟩
  refine ⟨s :: (List.range expression.groupCount).map fun i =>
    String.ofList ((c.captured? (i + 1)).getD []), ?_, ?_⟩
  · rw [captures, hmatch]
  · rw [List.map_cons, List.map_map]
    rfl

theorem captures_of_runWhole_eq_none (h : Regex.runWhole expression.plan s.toList = none) :
    captures expression (.text s) = .error (.regexDiffers expression s) := by
  rw [captures, Regex.fullMatch?, h]
  rfl

theorem captures_of_text? (h : value.text? = none) :
    captures expression value = .error (.regexOnOther expression value) := by
  cases value with
  | text s => cases h
  | _ => rfl

/-- A regular expression is matched against a text and succeeds or not, or against another value. -/
theorem captures_cases (expression : Regex) (value : Value) :
    (∃ s c, value = .text s ∧ Regex.runWhole expression.plan s.toList = some c) ∨
      (∃ s, value = .text s ∧ Regex.runWhole expression.plan s.toList = none) ∨
      value.text? = none := by
  cases value with
  | text s =>
    cases h : Regex.runWhole expression.plan s.toList with
    | some c => exact Or.inl ⟨s, c, rfl, h⟩
    | none => exact Or.inr (Or.inl ⟨s, rfl, h⟩)
  | _ => exact Or.inr (Or.inr rfl)

theorem visit_sequence {items : List Value} (h : value.items? = some items) :
    (sequence elements).visit value = visitAll (elementTasks elements items value) := by
  rw [visit, h]
  dsimp only
  rw [visitElements_eq_visitAll, Nat.zero_add]
  rfl

theorem visit_mapping (h : ¬ (value.isScalar || value.isSequence) = true) :
    (mapping entries).visit value = visitAll (entryTasks entries value) := by
  rw [visit, if_neg h, visitEntries_eq_visitAll]
  rfl

theorem visit_groups (h : Regex.runWhole expression.plan s.toList = some c) :
    (groups expression elements).visit (.text s) = visitAll (elementTasks elements
      (groupItems expression s c) (.list (groupItems expression s c))) := by
  obtain ⟨parts, hcaptures, hitems⟩ := captures_of_runWhole h
  rw [visit, hcaptures, ← hitems]
  dsimp only
  rw [visitElements_eq_visitAll, Nat.zero_add]
  rfl

end Parts

/-- Each element sets one task. -/
theorem map_fst_elementTasks (elements : List Pattern) (items : List Value) (value : Value) :
    (elementTasks elements items value).map Prod.fst = elements.reverse := by
  rw [elementTasks, List.map_reverse, List.map_map]
  exact congrArg List.reverse (List.zipIdx_map_fst 0 elements)

/-- Each entry sets one task. -/
theorem map_fst_entryTasks (entries : List (String × Pattern)) (value : Value) :
    (entryTasks entries value).map Prod.fst = entries.map Prod.snd :=
  List.map_map

theorem mem_members_of_mem_elementTasks {elements : List Pattern} {items : List Value}
    {value : Value} {task : Task} (h : task ∈ elementTasks elements items value) :
    task.1 ∈ elements := by
  have hm := List.mem_map_of_mem (f := Prod.fst) h
  rwa [map_fst_elementTasks, List.mem_reverse] at hm

theorem mem_members_of_mem_entryTasks {entries : List (String × Pattern)} {value : Value}
    {task : Task} (h : task ∈ entryTasks entries value) : task.1 ∈ entries.map Prod.snd := by
  rw [← map_fst_entryTasks entries value]
  exact List.mem_map_of_mem h

mutual

/-- There is one row of bindings that a match asks for. -/
theorem Yields.visit_eq {p : Pattern} {value : Value} {bindings : List (String × Value)}
    (h : p.Yields value bindings) : p.visit value = ⟨bindings, none⟩ := by
  match h with
  | .text h | .number h =>
    rw [visit, if_pos h]
    rfl
  | .regex h =>
    obtain ⟨parts, hcaptures, -⟩ := captures_of_runWhole h
    rw [visit, hcaptures]
    rfl
  | .discard =>
    rw [visit, Visit.ofVariable, if_pos rfl]
    rfl
  | .variable h => rw [visit, Visit.ofVariable, if_neg h]
  | .sequence h hall => rw [visit_sequence h, hall.visitAll_eq]
  | .mapping h hall => rw [visit_mapping h, hall.visitAll_eq]
  | .groups h hall => rw [visit_groups h, hall.visitAll_eq]

theorem YieldsAll.visitAll_eq {tasks : List Task} {bindings : List (String × Value)}
    (h : YieldsAll tasks bindings) : visitAll tasks = ⟨bindings, none⟩ := by
  match h with
  | .nil => rfl
  | .cons h hall =>
    rw [visitAll, hall.visitAll_eq, visitTask]
    dsimp only
    rw [h.visit_eq]
    rfl

end

mutual

/-- There is one place where a match breaks off. -/
theorem Breaks.visit_eq {p : Pattern} {value : Value} {bindings : List (String × Value)}
    {finding : Finding} (h : p.Breaks value bindings finding) :
    p.visit value = ⟨bindings, some finding⟩ := by
  match h with
  | .text h | .number h =>
    rw [visit, if_neg h]
    rfl
  | .regexDiffers h | .groupsDiffer h =>
    rw [visit, captures_of_runWhole_eq_none h]
    rfl
  | .regexOnOther h | .groupsOnOther h =>
    rw [visit, captures_of_text? h]
    rfl
  | .foreign => rfl
  | .notSequence h =>
    rw [visit, h]
    rfl
  | .notMapping h =>
    rw [visit, if_pos h]
    rfl
  | .sequence h hsome => rw [visit_sequence h, hsome.visitAll_eq]
  | .mapping h hsome => rw [visit_mapping h, hsome.visitAll_eq]
  | .groups h hsome => rw [visit_groups h, hsome.visitAll_eq]

theorem BreaksAmong.visitAll_eq {tasks : List Task} {bindings : List (String × Value)}
    {finding : Finding} (h : BreaksAmong tasks bindings finding) :
    visitAll tasks = ⟨bindings, some finding⟩ := by
  match h with
  | .missing => rfl
  | .here h =>
    rw [visitAll, visitTask]
    dsimp only
    rw [h.visit_eq]
    rfl
  | .later h hsome =>
    rw [visitAll, hsome.visitAll_eq, visitTask]
    dsimp only
    rw [h.visit_eq]
    rfl

end

def Explains (p : Pattern) (value : Value) (v : Visit) : Prop :=
  match v.finding with
  | none => p.Yields value v.bindings
  | some finding => p.Breaks value v.bindings finding

def ExplainsAll (tasks : List Task) (v : Visit) : Prop :=
  match v.finding with
  | none => YieldsAll tasks v.bindings
  | some finding => BreaksAmong tasks v.bindings finding

theorem explainsAll_visitAll {tasks : List Task}
    (h : ∀ task ∈ tasks, ∀ value, task.1.Explains value (task.1.visit value)) :
    ExplainsAll tasks (visitAll tasks) := by
  induction tasks with
  | nil => exact .nil
  | cons task tasks ih =>
    obtain ⟨hfirst, hrest⟩ := List.forall_mem_cons.mp h
    have hrest := ih hrest
    obtain ⟨p, found⟩ := task
    cases found with
    | error finding => exact .missing
    | ok value =>
      have hp := hfirst value
      rw [visitAll]
      change ExplainsAll _ ((p.visit value).andThen _)
      dsimp only at hp
      generalize p.visit value = first at hp ⊢
      generalize visitAll tasks = rest at hrest ⊢
      obtain ⟨bindings, _ | finding⟩ := first
      · obtain ⟨more, _ | finding⟩ := rest
        · exact .cons hp hrest
        · exact .later hp hrest
      · exact .here hp

/-- A pattern succeeds or breaks off with the tasks that it sets, if it is known what its parts do. -/
theorem explains_of_visit_eq {p : Pattern} {value : Value} {tasks : List Task}
    (ih : ∀ q ∈ p.members, ∀ value, q.Explains value (q.visit value))
    (hv : p.visit value = visitAll tasks) (hp : ∀ task ∈ tasks, task.1 ∈ p.members)
    (hyields : ∀ {bindings}, YieldsAll tasks bindings → p.Yields value bindings)
    (hbreaks : ∀ {bindings finding}, BreaksAmong tasks bindings finding →
      p.Breaks value bindings finding) :
    p.Explains value (p.visit value) := by
  have hall : ExplainsAll tasks (visitAll tasks) :=
    explainsAll_visitAll fun task hm => ih task.1 (hp task hm)
  rw [hv]
  generalize visitAll tasks = v at hall ⊢
  obtain ⟨bindings, _ | finding⟩ := v
  · exact hyields hall
  · exact hbreaks hall

/-- Every match succeeds or breaks off, as its visit tells. -/
theorem explains_visit (p : Pattern) (value : Value) : p.Explains value (p.visit value) := by
  induction p using induction_members generalizing value with
  | whole p ih =>
    cases p with
    | text expected =>
      rw [visit]
      split
      · exact .text ‹_›
      · exact .text ‹_›
    | number expected =>
      rw [visit]
      split
      · exact .number ‹_›
      · exact .number ‹_›
    | regex expression =>
      obtain ⟨s, c, rfl, h⟩ | ⟨s, rfl, h⟩ | h := captures_cases expression value
      · obtain ⟨parts, hcaptures, -⟩ := captures_of_runWhole h
        rw [visit, hcaptures]
        exact .regex h
      · rw [visit, captures_of_runWhole_eq_none h]
        exact .regexDiffers h
      · rw [visit, captures_of_text? h]
        exact .regexOnOther h
    | «variable» name isTail =>
      rw [visit, Visit.ofVariable]
      split
      · rename_i h
        subst h
        exact .discard
      · exact .variable ‹_›
    | sequence elements =>
      cases h : value.items? with
      | none =>
        rw [visit, h]
        exact .notSequence h
      | some items =>
        exact explains_of_visit_eq ih (visit_sequence h)
          (fun _ => mem_members_of_mem_elementTasks) (.sequence h) (.sequence h)
    | mapping entries =>
      by_cases h : (value.isScalar || value.isSequence) = true
      · rw [visit, if_pos h]
        exact .notMapping h
      · exact explains_of_visit_eq ih (visit_mapping h)
          (fun _ => mem_members_of_mem_entryTasks) (.mapping h) (.mapping h)
    | groups expression elements =>
      obtain ⟨s, c, rfl, h⟩ | ⟨s, rfl, h⟩ | h := captures_cases expression value
      · exact explains_of_visit_eq ih (visit_groups h)
          (fun _ => mem_members_of_mem_elementTasks) (.groups h) (.groups h)
      · rw [visit, captures_of_runWhole_eq_none h]
        exact .groupsDiffer h
      · rw [visit, captures_of_text? h]
        exact .groupsOnOther h
    | foreign node => exact .foreign

theorem yields_iff {p : Pattern} {value : Value} {bindings : List (String × Value)} :
    p.Yields value bindings ↔
      (p.visit value).finding = none ∧ bindings = (p.visit value).bindings := by
  constructor
  · intro h
    rw [h.visit_eq]
    exact ⟨rfl, rfl⟩
  · rintro ⟨hend, rfl⟩
    have hv := explains_visit p value
    unfold Explains at hv
    rwa [hend] at hv

theorem breaks_iff {p : Pattern} {value : Value} {bindings : List (String × Value)}
    {finding : Finding} :
    p.Breaks value bindings finding ↔
      (p.visit value).finding = some finding ∧ bindings = (p.visit value).bindings := by
  constructor
  · intro h
    rw [h.visit_eq]
    exact ⟨rfl, rfl⟩
  · rintro ⟨hend, rfl⟩
    have hv := explains_visit p value
    unfold Explains at hv
    rwa [hend] at hv

example : (sequence [.variable "x" false, .variable "rest" true]).Yields (.list [.text "a", .text "b"])
    [("rest", .list [.text "b"]), ("x", .text "a")] :=
  yields_iff.mpr ⟨by rfl, by rfl⟩

theorem namesOfElements_eq (elements : List Pattern) :
    namesOfElements elements = elements.flatMap variableNames := by
  induction elements with
  | nil => rfl
  | cons element rest ih => rw [namesOfElements, ih, List.flatMap_cons]

theorem namesOfEntries_eq (entries : List (String × Pattern)) :
    namesOfEntries entries = (entries.map Prod.snd).flatMap variableNames := by
  induction entries with
  | nil => rfl
  | cons entry rest ih => rw [namesOfEntries, ih, List.map_cons, List.flatMap_cons]

mutual

/-- A match that succeeds asks for the variables of its pattern, each as often as it occurs. -/
theorem Yields.perm_variableNames {p : Pattern} {value : Value} {bindings : List (String × Value)}
    (h : p.Yields value bindings) : (bindings.map Prod.fst).Perm p.variableNames := by
  match h with
  | .text _ | .number _ | .regex _ => exact List.Perm.refl _
  | .discard =>
    rw [variableNames, if_pos rfl]
    exact List.Perm.refl _
  | .variable h =>
    rw [variableNames, if_neg h]
    exact List.Perm.refl _
  | .sequence _ hall | .groups _ hall =>
    have hnames := hall.perm_variableNames
    rw [map_fst_elementTasks] at hnames
    rw [variableNames, namesOfElements_eq]
    exact hnames.trans ((List.reverse_perm _).flatMap_right variableNames)
  | .mapping _ hall =>
    have hnames := hall.perm_variableNames
    rw [map_fst_entryTasks] at hnames
    rwa [variableNames, namesOfEntries_eq]

theorem YieldsAll.perm_variableNames {tasks : List Task} {bindings : List (String × Value)}
    (h : YieldsAll tasks bindings) :
    (bindings.map Prod.fst).Perm ((tasks.map Prod.fst).flatMap variableNames) := by
  match h with
  | .nil => exact List.Perm.refl _
  | .cons h hall =>
    rw [List.map_append, List.map_cons, List.flatMap_cons]
    exact h.perm_variableNames.append hall.perm_variableNames

end

theorem perm_variableNames_visit (p : Pattern) (value : Value)
    (h : (p.visit value).finding = none) :
    ((p.visit value).bindings.map Prod.fst).Perm p.variableNames :=
  (yields_iff.mpr ⟨h, rfl⟩).perm_variableNames

mutual

/-- A match that breaks off has asked for variables of the pattern only. -/
theorem Breaks.mem_variableNames {p : Pattern} {value : Value} {bindings : List (String × Value)}
    {finding : Finding} {binding : String × Value} (h : p.Breaks value bindings finding)
    (hb : binding ∈ bindings) : binding.1 ∈ p.variableNames := by
  match h with
  | .text _ | .number _ | .regexDiffers _ | .regexOnOther _ | .foreign | .notSequence _
  | .notMapping _ | .groupsDiffer _ | .groupsOnOther _ =>
    nomatch hb
  | .sequence _ hsome | .groups _ hsome =>
    have hname := hsome.mem_variableNames hb
    rw [map_fst_elementTasks] at hname
    rw [variableNames, namesOfElements_eq]
    exact ((List.reverse_perm _).flatMap_right variableNames).mem_iff.mp hname
  | .mapping _ hsome =>
    have hname := hsome.mem_variableNames hb
    rw [map_fst_entryTasks] at hname
    rwa [variableNames, namesOfEntries_eq]

theorem BreaksAmong.mem_variableNames {tasks : List Task} {bindings : List (String × Value)}
    {finding : Finding} {binding : String × Value} (h : BreaksAmong tasks bindings finding)
    (hb : binding ∈ bindings) : binding.1 ∈ (tasks.map Prod.fst).flatMap variableNames := by
  match h with
  | .missing => nomatch hb
  | .here h =>
    rw [List.map_cons, List.flatMap_cons]
    exact List.mem_append_left _ (h.mem_variableNames hb)
  | .later h hsome =>
    rw [List.map_cons, List.flatMap_cons]
    rcases List.mem_append.mp hb with hb | hb
    · exact List.mem_append_left _ (h.perm_variableNames.mem_iff.mp (List.mem_map_of_mem hb))
    · exact List.mem_append_right _ (hsome.mem_variableNames hb)

end

/-- A match asks for names of its pattern only, whether it succeeds or breaks off. -/
theorem mem_variableNames_of_visit {p : Pattern} {value : Value} {binding : String × Value}
    (h : binding ∈ (p.visit value).bindings) : binding.1 ∈ p.variableNames := by
  cases hf : (p.visit value).finding with
  | none => exact (perm_variableNames_visit p value hf).mem_iff.mp (List.mem_map_of_mem h)
  | some finding => exact (breaks_iff.mpr ⟨hf, rfl⟩).mem_variableNames h

end Pattern

end Destructure
