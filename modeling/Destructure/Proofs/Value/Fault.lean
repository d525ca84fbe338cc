import Destructure.Proofs.Value.Confusion

namespace Destructure

namespace Value

inductive HasFault (fault : Fault) : Value → Prop
  | here {v : Value} (h : v.readAll = .error fault) : HasFault fault v
  | item {v item : Value} {items : List Value} (hi : v.items? = some items) (hm : item ∈ items)
      (h : HasFault fault item) : HasFault fault v
  | key {v key value : Value} {entries : List (Value × Value)} (he : v.entries? = some entries)
      (hm : (key, value) ∈ entries) (h : HasFault fault key) : HasFault fault v
  | value {v key value : Value} {entries : List (Value × Value)} (he : v.entries? = some entries)
      (hm : (key, value) ∈ entries) (h : HasFault fault value) : HasFault fault v
  | member {type : ObjectType} {attributes inherited : List (String × Value)}
      {faults : List (String × Fault)} {name : String} {value : Value}
      (hm : (name, value) ∈ attributes) (h : HasFault fault value) :
      HasFault fault (.object type attributes inherited faults)

def AllFaults (P : Fault → Prop) (v : Value) : Prop :=
  ∀ fault, HasFault fault v → P fault

open Run

section FailsOnly

variable {P : Fault → Prop}

theorem AllFaults.item {v : Value} (h : AllFaults P v) {items : List Value}
    (hi : v.items? = some items) : ∀ item ∈ items, AllFaults P item :=
  fun _ hm fault hf => h fault (.item hi hm hf)

theorem AllFaults.entry {v : Value} (h : AllFaults P v) {entries : List (Value × Value)}
    (he : v.entries? = some entries) :
    ∀ entry ∈ entries, AllFaults P entry.1 ∧ AllFaults P entry.2 :=
  fun _ hm => ⟨fun fault hf => h fault (.key he hm hf), fun fault hf => h fault (.value he hm hf)⟩

theorem AllFaults.member {type : ObjectType} {attributes inherited : List (String × Value)}
    {faults : List (String × Fault)} (h : AllFaults P (.object type attributes inherited faults)) :
    ∀ member ∈ attributes, AllFaults P member.2 :=
  fun _ hm fault hf => h fault (.member hm hf)

theorem failsOnly_readAll {v : Value} (h : AllFaults P v) : FailsOnly P v.readAll :=
  ⟨fun raised hr => h raised (.here hr)⟩

theorem failsOnly_ite {c : Prop} [Decidable c] {x : Except Fault Bool} (h : FailsOnly P x) :
    FailsOnly P (if c then x else .ok false) := by
  split
  · exact h
  · exact failsOnly_ok false

theorem failsOnly_guarded {first second : Except Fault Bool} (h : FailsOnly P first)
    (h' : FailsOnly P second) : FailsOnly P (do if ← first then second else return false) :=
  h.bind fun _ => failsOnly_ite h'

theorem failsOnly_isSame {a b : Value} (h : FailsOnly P (contentsEqual a b)) :
    FailsOnly P (isSame a b) := by
  unfold isSame
  split
  · exact failsOnly_ok true
  · exact h

theorem failsOnly_findEntry {test : Value → Except Fault Bool} {entries : List (Value × Value)}
    (h : ∀ entry ∈ entries, FailsOnly P (test entry.1)) : FailsOnly P (findEntry test entries) := by
  induction entries with
  | nil => exact failsOnly_ok none
  | cons entry rest ih =>
    rw [List.forall_mem_cons] at h
    refine h.1.bind fun answer => ?_
    cases answer with
    | true => exact failsOnly_ok (some entry.2)
    | false => exact ih h.2

theorem mem_of_findEntry {test : Value → Except Fault Bool} {entries : List (Value × Value)}
    {value : Value} (h : findEntry test entries = .ok (some value)) :
    ∃ key, (key, value) ∈ entries := by
  induction entries with
  | nil => cases h
  | cons entry rest ih =>
    obtain ⟨answer, -, h⟩ := Run.bind_eq_ok.mp h
    cases answer with
    | true =>
      cases h
      exact ⟨entry.1, List.mem_cons_self⟩
    | false =>
      obtain ⟨key, hk⟩ := ih h
      exact ⟨key, List.mem_cons_of_mem _ hk⟩

/-- What is compared with what has been found raises only what the two may raise. -/
theorem failsOnly_found {found : Except Fault (Option Value)} {value : Value}
    {rest : Except Fault Bool} (hf : FailsOnly P found)
    (hv : ∀ other, found = .ok (some other) → FailsOnly P (contentsEqual value other))
    (hr : FailsOnly P rest) :
    FailsOnly P (do
      match ← found with
      | none => return false
      | some other =>
        if identical value other then rest
        else if ← contentsEqual value other then rest
        else return false) := by
  cases found with
  | error fault =>
    exact ⟨fun e he => hf.of_error e (by cases he; rfl)⟩
  | ok answer =>
    cases answer with
    | none => exact failsOnly_ok false
    | some other =>
      change FailsOnly P (if identical value other then rest
        else do if ← contentsEqual value other then rest else return false)
      rw [ite_identical]
      exact failsOnly_guarded (failsOnly_isSame (hv other rfl)) hr

mutual

/-- Comparing contents raises only what reading some part of the two values raises. -/
theorem failsOnly_contentsEqual (a b : Value) (ha : AllFaults P a) (hb : AllFaults P b) :
    FailsOnly P (contentsEqual a b) := by
  match a with
  | .list as =>
    cases b with
    | list bs => exact failsOnly_ite (failsOnly_itemsEqual as bs (ha.item rfl) (hb.item rfl))
    | _ => exact failsOnly_ok false
  | .tuple as =>
    cases b with
    | tuple bs => exact failsOnly_ite (failsOnly_itemsEqual as bs (ha.item rfl) (hb.item rfl))
    | _ => exact failsOnly_ok false
  | .mapping as | .store _ as _ _ =>
    cases b with
    | mapping bs | store _ bs _ _ =>
      rw [contentsEqual_of_entries? rfl rfl]
      exact (failsOnly_readAll ha).bind fun _ => (failsOnly_readAll hb).bind fun _ =>
        failsOnly_ite (failsOnly_entriesEqual as bs (ha.entry rfl) (hb.entry rfl))
    | _ => exact failsOnly_ok false
  | .object ⟨_, _, likeness⟩ as _ _ =>
    cases b with
    | object type bs _ _ =>
      obtain ⟨_, _, likeness'⟩ := type
      cases likeness with
      | attributes =>
        cases likeness' with
        | attributes => exact failsOnly_ite (failsOnly_attributesEqual as bs ha.member hb.member)
        | own _ _ => exact failsOnly_ok false
      | own _ _ => cases likeness' <;> exact failsOnly_ok _
    | _ => cases likeness <;> exact failsOnly_ok _
  | .null | .boolean _ | .number _ | .text _ | .bytes _ _ => cases b <;> exact failsOnly_ok _

theorem failsOnly_itemsEqual (as bs : List Value) (ha : ∀ a ∈ as, AllFaults P a)
    (hb : ∀ b ∈ bs, AllFaults P b) : FailsOnly P (itemsEqual as bs) := by
  match as, bs with
  | a :: as, b :: bs =>
    rw [List.forall_mem_cons] at ha hb
    rw [itemsEqual, ite_identical]
    exact failsOnly_guarded (failsOnly_isSame (failsOnly_contentsEqual a b ha.1 hb.1))
      (failsOnly_itemsEqual as bs ha.2 hb.2)
  | [], _ => exact failsOnly_ok true
  | _ :: _, [] => exact failsOnly_ok true

theorem failsOnly_entriesEqual (as bs : List (Value × Value))
    (ha : ∀ entry ∈ as, AllFaults P entry.1 ∧ AllFaults P entry.2)
    (hb : ∀ entry ∈ bs, AllFaults P entry.1 ∧ AllFaults P entry.2) :
    FailsOnly P (entriesEqual as bs) := by
  match as with
  | [] => exact failsOnly_ok true
  | (key, value) :: rest =>
    rw [List.forall_mem_cons] at ha
    rw [entriesEqual]
    refine failsOnly_found ?_ ?_ (failsOnly_entriesEqual rest bs ha.2 hb)
    · exact failsOnly_findEntry fun entry hm =>
        failsOnly_isSame (failsOnly_contentsEqual key entry.1 ha.1.1 (hb entry hm).1)
    · intro other ho
      obtain ⟨found, hm⟩ := mem_of_findEntry ho
      exact failsOnly_contentsEqual value other ha.1.2 (hb _ hm).2

theorem failsOnly_attributesEqual (as bs : List (String × Value))
    (ha : ∀ member ∈ as, AllFaults P member.2)
    (hb : ∀ member ∈ bs, AllFaults P member.2) : FailsOnly P (attributesEqual as bs) := by
  match as with
  | [] => exact failsOnly_ok true
  | (name, value) :: rest =>
    rw [List.forall_mem_cons] at ha
    rw [attributesEqual]
    refine failsOnly_found (failsOnly_ok (bs.lookup name)) ?_ (failsOnly_attributesEqual rest bs ha.2 hb)
    intro other ho
    obtain ⟨before, after, rfl, -⟩ := List.lookup_eq_some_iff.mp (Except.ok.inj ho)
    exact failsOnly_contentsEqual value other ha.1 (hb (name, other) (List.mem_append_cons_self))

end

mutual

/-- Equality in conditions raises only what reading some part of the two values raises. -/
theorem failsOnly_equal (a b : Value) (ha : AllFaults P a) (hb : AllFaults P b) :
    FailsOnly P (equal a b) := by
  match a with
  | .list as =>
    cases b with
    | list bs | tuple bs =>
      exact failsOnly_ite (failsOnly_allEqual as bs (ha.item rfl) (hb.item rfl))
    | _ => exact failsOnly_ok false
  | .tuple as =>
    cases b with
    | list bs | tuple bs =>
      exact failsOnly_ite (failsOnly_allEqual as bs (ha.item rfl) (hb.item rfl))
    | _ => exact failsOnly_ok false
  | .null | .boolean _ | .number _ | .text _ => cases b <;> exact failsOnly_ok _
  | .mapping _ | .store _ _ _ _ | .bytes _ _ | .object _ _ _ _ =>
    cases b with
    | list _ | tuple _ => exact failsOnly_ok false
    | _ => exact failsOnly_contentsEqual _ _ ha hb

theorem failsOnly_allEqual (as bs : List Value) (ha : ∀ a ∈ as, AllFaults P a)
    (hb : ∀ b ∈ bs, AllFaults P b) : FailsOnly P (allEqual as bs) := by
  match as, bs with
  | a :: as, b :: bs =>
    rw [List.forall_mem_cons] at ha hb
    exact failsOnly_guarded (failsOnly_equal a b ha.1 hb.1) (failsOnly_allEqual as bs ha.2 hb.2)
  | [], _ => exact failsOnly_ok true
  | _ :: _, [] => exact failsOnly_ok true

end

end FailsOnly

/-- An error that a comparison raises is one that reading some part of either value raises. -/
theorem hasFault_of_equal {a b : Value} {fault : Fault} (h : equal a b = .error fault) :
    HasFault fault a ∨ HasFault fault b :=
  (failsOnly_equal a b (fun _ => Or.inl) fun _ => Or.inr).of_error fault h

/-- Two mappings are not compared if reading one of them and then the other raises an error. -/
theorem equal_of_readAll {a b : Value} (ha : a.isMapping = true) (hb : b.isMapping = true)
    {fault : Fault} (h : (do a.readAll; b.readAll) = .error fault) : equal a b = .error fault := by
  have hentries {v : Value} (hv : v.isMapping = true) : ∃ entries, v.entries? = some entries := by
    cases v with
    | mapping _ | store _ _ _ _ => exact ⟨_, rfl⟩
    | _ => cases hv
  obtain ⟨as, ha⟩ := hentries ha
  obtain ⟨bs, hb⟩ := hentries hb
  rw [equal_of_entries? ha (Option.isSome_of_eq_some hb), contentsEqual_of_entries? ha hb]
  rcases Run.bind_eq_error.mp h with hr | ⟨_, hr, hr'⟩
  · exact Run.bind_eq_error.mpr (Or.inl hr)
  · exact Run.bind_eq_error.mpr (Or.inr ⟨_, hr, Run.bind_eq_error.mpr (Or.inl hr')⟩)

end Value

end Destructure
