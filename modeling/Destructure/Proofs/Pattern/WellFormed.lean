import Destructure.Proofs.Compile
import Destructure.Proofs.Finding
import Destructure.Proofs.Match.Task
import Destructure.Proofs.Pattern.Subpattern

namespace Destructure

def Failure.blamesPattern : Failure → Bool
  | .invalid _ => true
  | .raised fault => fault.kind == .invalidPattern
  | _ => false

theorem Failure.blamesPattern_ofMismatch (cause : Mismatch) :
    (ofMismatch cause).blamesPattern = false := by
  unfold ofMismatch
  split <;> rfl

namespace Pattern

structure WellFormed (tree : Pattern) : Prop where
  root : tree.isTailVariable = false
  tailLast : ∀ before element after, .sequence (before ++ element :: after) ∈ tree.subpatterns →
    element.isTailVariable = true → after = []
  keysDistinct : ∀ entries, .mapping entries ∈ tree.subpatterns → (entries.map Prod.fst).Nodup
  entryNotTail : ∀ entries, .mapping entries ∈ tree.subpatterns →
    ∀ entry ∈ entries, entry.2.isTailVariable = false
  known : ∀ node, .foreign node ∉ tree.subpatterns

theorem mem_subpatterns_self (p : Pattern) : p ∈ p.subpatterns := by
  cases p <;> exact List.mem_cons_self ..

/-- A part of a tree that makes sense does so itself, unless it is a tail. -/
theorem WellFormed.of_subset {tree part : Pattern} (h : tree.WellFormed)
    (hs : part.subpatterns ⊆ tree.subpatterns) (ht : part.isTailVariable = false) :
    part.WellFormed where
  root := ht
  tailLast before element after hm := h.tailLast before element after (hs hm)
  keysDistinct entries hm := h.keysDistinct entries (hs hm)
  entryNotTail entries hm := h.entryNotTail entries (hs hm)
  known node hm := h.known node (hs hm)

variable {P : Payload → Prop}

theorem isTailVariable_of_isRead {p : Pattern} (h : p.IsRead P) : p.isTailVariable = false := by
  match p with
  | .variable name isTail => exact h.2
  | .text _ | .number _ | .regex _ | .sequence _ | .mapping _ | .groups _ _ => rfl

/-- A tail among elements that have been read is the last one. -/
theorem eq_nil_of_elementsRead {before after : List Pattern} {element : Pattern}
    (h : ElementsRead P (before ++ element :: after)) (ht : element.isTailVariable = true) :
    after = [] := by
  induction before with
  | nil =>
    obtain ⟨he | ⟨hn, -⟩, -⟩ := h
    · cases (isTailVariable_of_isRead he).symm.trans ht
    · exact hn
  | cons first rest ih => exact ih h.2

/-- A pattern that has been read makes sense. -/
theorem wellFormed_of_isRead {p : Pattern} (h : p.IsRead P) : p.WellFormed where
  root := isTailVariable_of_isRead h
  tailLast before element after hm ht := by
    rcases isRead_of_mem_subpatterns h hm with hr | ⟨name, -, hr⟩
    · exact eq_nil_of_elementsRead hr ht
    · cases hr
  keysDistinct entries hm := by
    rcases isRead_of_mem_subpatterns h hm with hr | ⟨name, -, hr⟩
    · exact hr.1
    · cases hr
  entryNotTail entries hm entry he := by
    rcases isRead_of_mem_subpatterns h hm with hr | ⟨name, -, hr⟩
    · exact isTailVariable_of_isRead (entriesRead_iff.mp hr.2 entry he)
    · cases hr
  known node hm := by
    rcases isRead_of_mem_subpatterns h hm with hr | ⟨name, -, hr⟩
    · exact hr
    · cases hr

def TaskWellFormed (task : Task) : Prop :=
  (task.1.isTailVariable = false → task.1.WellFormed) ∧
    ∀ finding, task.2 = .error finding → ∃ cause, finding = .mismatch cause

theorem WellFormed.elementTasks {elements : List Pattern} (h : (sequence elements).WellFormed)
    {items : List Value} {value : Value} :
    ∀ task ∈ elementTasks elements items value, TaskWellFormed task := by
  intro task hm
  obtain ⟨⟨element, index⟩, hz, rfl⟩ := List.mem_map.mp (List.mem_reverse.mp hm)
  constructor
  · exact h.of_subset (subpatterns_subset_sequence (List.fst_mem_of_mem_zipIdx hz))
  · intro finding hslot
    dsimp only at hslot
    cases ht : element.isTailVariable with
    | true =>
      obtain ⟨name, rfl⟩ := eq_variable_of_isTailVariable ht
      have hlast : index + 1 = elements.length := by
        have hget : elements[index]? = some (.variable name true) := List.mem_zipIdx_iff_getElem?.mp hz
        obtain ⟨hlt, hget⟩ := List.getElem?_eq_some_iff.mp hget
        have hsplit : elements = elements.take index ++ .variable name true :: elements.drop (index + 1) := by
          rw [← hget, ← List.drop_eq_getElem_cons hlt, List.take_append_drop]
        have hmem : sequence (elements.take index ++ .variable name true :: elements.drop (index + 1)) ∈
            (sequence elements).subpatterns := by
          rw [← hsplit]
          exact mem_subpatterns_self _
        have hnil := List.drop_eq_nil_iff.mp (h.tailLast _ _ _ hmem ht)
        omega
      rw [slot, if_pos hlast] at hslot
      cases hslot
    | false =>
      unfold slot at hslot
      split at hslot
      · cases ht
      · split at hslot
        · cases hslot
        · cases hslot
          exact ⟨_, rfl⟩

theorem WellFormed.entryTasks {entries : List (String × Pattern)} (h : (mapping entries).WellFormed)
    {value : Value} : ∀ task ∈ entryTasks entries value, TaskWellFormed task := by
  intro task hm
  obtain ⟨⟨key, pattern⟩, hentry, rfl⟩ := List.mem_map.mp hm
  refine ⟨h.of_subset (subpatterns_subset_mapping hentry), fun finding hfinding => ?_⟩
  dsimp only at hfinding
  cases hl : value.lookup key (.mapping entries) with
  | ok item =>
    rw [hl] at hfinding
    cases hfinding
  | error cause =>
    rw [hl] at hfinding
    cases hfinding
    exact ⟨cause, rfl⟩

/-- What a regular expression captures is matched against a sequence that makes sense. -/
theorem WellFormed.sequence_of_groups {expression : Regex} {elements : List Pattern}
    (h : (groups expression elements).WellFormed) : (sequence elements).WellFormed := by
  refine h.of_subset (fun q hq => ?_) rfl
  rw [subpatterns_groups]
  exact List.mem_cons_of_mem _ (List.mem_cons_of_mem _ hq)

mutual

/-- A match by a pattern that makes sense breaks off because of the value. A lookup that raises an error
counts as such, whatever the error says. -/
theorem Breaks.exists_mismatch {p : Pattern} {value : Value} {bindings : List (String × Value)}
    {finding : Finding} (h : p.Breaks value bindings finding)
    (hp : p.isTailVariable = false → p.WellFormed) : ∃ cause, finding = .mismatch cause := by
  match h with
  | .text _ | .number _ | .regexDiffers _ | .regexOnOther _ | .notSequence _ | .notMapping _
  | .groupsDiffer _ | .groupsOnOther _ =>
    exact ⟨_, rfl⟩
  | .foreign => exact absurd (mem_subpatterns_self _) ((hp rfl).known _)
  | .sequence _ hsome => exact hsome.exists_mismatch (hp rfl).elementTasks
  | .groups _ hsome => exact hsome.exists_mismatch (hp rfl).sequence_of_groups.elementTasks
  | .mapping _ hsome => exact hsome.exists_mismatch (hp rfl).entryTasks

theorem BreaksAmong.exists_mismatch {tasks : List Task} {bindings : List (String × Value)}
    {finding : Finding} (h : BreaksAmong tasks bindings finding)
    (ht : ∀ task ∈ tasks, TaskWellFormed task) : ∃ cause, finding = .mismatch cause := by
  match h with
  | .missing => exact (List.forall_mem_cons.mp ht).1.2 finding rfl
  | .here h => exact h.exists_mismatch (List.forall_mem_cons.mp ht).1.1
  | .later _ hsome => exact hsome.exists_mismatch (List.forall_mem_cons.mp ht).2

end

/-- A match by a pattern that makes sense fails because of the value only: a binding that is refused is
a mismatch as well. -/
theorem WellFormed.failure_bindAll {p : Pattern} (hp : p.WellFormed) {policy : Policy}
    {source : Value} {scope : Scope} {failure : Failure}
    (hf : (p.bindAll policy source scope).failure = some failure) :
    ∃ cause, failure = .ofMismatch cause := by
  rw [bindAll_eq_replay, Visit.failure_replay, Option.map_eq_some_iff] at hf
  obtain ⟨finding, hm, rfl⟩ := hf
  rcases Option.or_eq_some_iff.mp hm with hm | ⟨-, hm⟩
  · obtain ⟨cause, -, rfl⟩ := Option.map_eq_some_iff.mp hm
    exact ⟨cause, rfl⟩
  · obtain ⟨cause, rfl⟩ := (breaks_iff.mpr ⟨hm, rfl⟩).exists_mismatch fun _ => hp
    exact ⟨cause, rfl⟩

end Pattern

theorem wellFormed_of_compile {text : String} {compiled : Compiled}
    (h : compile text = .ok compiled) : compiled.tree.WellFormed := by
  have hread : compiled.tree.IsRead fun _ => True :=
    isRead_readPattern (compile_eq_ok_iff.mp h).1 fun _ _ _ _ => trivial
  exact Pattern.wellFormed_of_isRead hread

/-- A text compiles to a tree that makes sense, if it compiles. Hence a match by that tree never says
that the pattern is invalid: under either policy, in every scope and for every value it fails with a
mismatch, or with a number in its report that cannot be written. -/
theorem compile_wellFormed {text : String} {compiled : Compiled}
    (h : compile text = .ok compiled) :
    compiled.tree.WellFormed ∧
      ∀ (policy : Policy) (source : Value) (scope : Scope) (failure : Failure),
        (compiled.tree.bindAll policy source scope).failure = some failure →
          (∃ cause, failure = .ofMismatch cause) ∧ failure.blamesPattern = false := by
  have hw := wellFormed_of_compile h
  refine ⟨hw, fun policy source scope failure hf => ?_⟩
  obtain ⟨cause, rfl⟩ := hw.failure_bindAll hf
  exact ⟨⟨cause, rfl⟩, Failure.blamesPattern_ofMismatch cause⟩

/-- A record that calls the pattern invalid when its first attribute is looked up does not match. -/
theorem compile_wellFormed_record :
    let text := "\x7bk = [a, b | rest], 'k k' = /(.)x/ [_]\x7d"
    let record : Value := .object ⟨"Record", .fixed "<Record>", .own 0 fun _ => false⟩ [] []
      [("k", ⟨.invalidPattern, "no"⟩)]
    ∃ compiled cause, compile text = .ok compiled ∧
      (compiled.tree.bindAll .agree record .empty).failure = some (.ofMismatch cause) ∧
        (Failure.ofMismatch cause).blamesPattern = false := by
  intro text record
  have hfails : (readPattern text).toOption.map (fun read =>
      (read.1.bindAll .agree record .empty).failure.isSome) = some true := by
    decide +kernel
  obtain ⟨⟨tree, condition⟩, hr, hf⟩ := Option.map_eq_some_iff.mp hfails
  have hcompile := compile_of_readPattern (Run.toOption_eq_some.mp hr)
  obtain ⟨failure, hf⟩ := Option.isSome_iff_exists.mp hf
  obtain ⟨⟨cause, rfl⟩, hb⟩ := (compile_wellFormed hcompile).2 .agree record .empty failure hf
  exact ⟨_, cause, hcompile, hf, hb⟩

end Destructure
