import Destructure.Pattern.Describe
import Destructure.Proofs.Pattern.Read

namespace Destructure.Pattern

mutual

def subpatterns : Pattern → List Pattern
  | .sequence elements => .sequence elements :: subpatternsOfElements elements
  | .mapping entries => .mapping entries :: subpatternsOfEntries entries
  | .groups expression elements =>
    .groups expression elements :: .regex expression :: .sequence elements ::
      subpatternsOfElements elements
  | p => [p]

def subpatternsOfElements : List Pattern → List Pattern
  | [] => []
  | element :: rest => element.subpatterns ++ subpatternsOfElements rest

def subpatternsOfEntries : List (String × Pattern) → List Pattern
  | [] => []
  | (_, pattern) :: rest => pattern.subpatterns ++ subpatternsOfEntries rest

end

theorem subpatternsOfElements_eq (elements : List Pattern) :
    subpatternsOfElements elements = elements.flatMap subpatterns := by
  induction elements with
  | nil => rfl
  | cons element rest ih => rw [subpatternsOfElements, ih, List.flatMap_cons]

theorem subpatternsOfEntries_eq (entries : List (String × Pattern)) :
    subpatternsOfEntries entries = entries.flatMap (·.2.subpatterns) := by
  induction entries with
  | nil => rfl
  | cons entry rest ih => rw [subpatternsOfEntries, ih, List.flatMap_cons]

def ofTail : Option String → List Pattern
  | none => []
  | some name => [.variable name true]

variable {P Q : Payload → Prop}

/-- The elements of a sequence are patterns, up to a tail. -/
theorem elementsRead_iff {elements : List Pattern} :
    ElementsRead P elements ↔ ∃ before tail, (∀ e ∈ before, e.IsRead P) ∧
      (∀ name ∈ tail, Text.isName name.toList = true) ∧ elements = before ++ ofTail tail := by
  constructor
  · intro h
    induction elements with
    | nil => exact ⟨[], none, fun e hm => (nomatch hm), fun n hm => (nomatch hm), rfl⟩
    | cons e rest ih =>
      obtain ⟨he | ⟨rfl, name, hn, rfl⟩, hr⟩ := h
      · obtain ⟨before, tail, hb, ht, rfl⟩ := ih hr
        exact ⟨e :: before, tail, List.forall_mem_cons.mpr ⟨he, hb⟩, ht, rfl⟩
      · refine ⟨[], some name, fun e hm => (nomatch hm), fun n hm => ?_, rfl⟩
        cases hm
        exact hn
  · rintro ⟨before, tail, hb, ht, rfl⟩
    refine elementsRead_append hb ?_
    cases tail with
    | none => trivial
    | some name => exact ⟨Or.inr ⟨rfl, name, ht name rfl, rfl⟩, trivial⟩

/-- Induction over a pattern that has been read. -/
theorem induction_isRead {motive : Pattern → Prop}
    (text : ∀ value, P (.text value.toList) → motive (.text value))
    (number : ∀ value, P (.number value) → motive (.number value))
    (regex : ∀ expression, expression.IsRead P → motive (.regex expression))
    («variable» : ∀ name, Text.isName name.toList = true → motive (.variable name false))
    (sequence : ∀ before tail, (∀ e ∈ before, e.IsRead P ∧ motive e) →
      (∀ name ∈ tail, Text.isName name.toList = true) → motive (.sequence (before ++ ofTail tail)))
    (mapping : ∀ entries, (entries.map Prod.fst).Nodup →
      (∀ entry ∈ entries, entry.2.IsRead P ∧ motive entry.2) → motive (.mapping entries))
    (groups : ∀ expression before tail, expression.IsRead P →
      motive (.sequence (before ++ ofTail tail)) →
      motive (.groups expression (before ++ ofTail tail)))
    (p : Pattern) : p.IsRead P → motive p := by
  have hsequence (elements : List Pattern) (ih : ∀ e ∈ elements, e.IsRead P → motive e)
      (h : ElementsRead P elements) : ∃ before tail, elements = before ++ ofTail tail ∧
        motive (.sequence (before ++ ofTail tail)) := by
    obtain ⟨before, tail, hb, ht, rfl⟩ := elementsRead_iff.mp h
    exact ⟨before, tail, rfl, sequence before tail
      (fun e hm => ⟨hb e hm, ih e (List.mem_append_left _ hm) (hb e hm)⟩) ht⟩
  refine @Pattern.rec (fun p => p.IsRead P → motive p)
    (fun elements => ∀ e ∈ elements, e.IsRead P → motive e)
    (fun entries => ∀ entry ∈ entries, entry.2.IsRead P → motive entry.2)
    (fun entry => entry.2.IsRead P → motive entry.2) text number regex ?_ ?_ ?_ ?_
    (fun node h => nomatch h) ?_ ?_ ?_ ?_ (fun key p ih => ih) p
  · exact fun name isTail h => h.2 ▸ «variable» name h.1
  · intro elements ih h
    obtain ⟨before, tail, rfl, hm⟩ := hsequence elements ih h
    exact hm
  · intro entries ih h
    exact mapping entries h.1 fun entry hm =>
      ⟨entriesRead_iff.mp h.2 entry hm, ih entry hm (entriesRead_iff.mp h.2 entry hm)⟩
  · intro expression elements ih h
    obtain ⟨before, tail, rfl, hm⟩ := hsequence elements ih h.2
    exact groups expression before tail h.1 hm
  · exact fun e hm => (nomatch hm)
  · exact fun e rest he hr => List.forall_mem_cons.mpr ⟨he, hr⟩
  · exact fun entry hm => (nomatch hm)
  · exact fun entry rest he hr => List.forall_mem_cons.mpr ⟨he, hr⟩

theorem subpatterns_subset_sequence {elements : List Pattern} {e : Pattern} (he : e ∈ elements) :
    e.subpatterns ⊆ (sequence elements).subpatterns := by
  intro q hq
  rw [subpatterns, subpatternsOfElements_eq]
  exact List.mem_cons_of_mem _ (List.mem_flatMap.mpr ⟨e, he, hq⟩)

theorem subpatterns_subset_mapping {entries : List (String × Pattern)} {entry : String × Pattern}
    (he : entry ∈ entries) : entry.2.subpatterns ⊆ (mapping entries).subpatterns := by
  intro q hq
  rw [subpatterns, subpatternsOfEntries_eq]
  exact List.mem_cons_of_mem _ (List.mem_flatMap.mpr ⟨entry, he, hq⟩)

theorem subpatterns_groups (expression : Regex) (elements : List Pattern) :
    (groups expression elements).subpatterns =
      .groups expression elements :: .regex expression :: (sequence elements).subpatterns :=
  rfl

/-- What is inside a pattern that has been read has been read with it. -/
theorem isRead_of_mem_subpatterns {p q : Pattern} (h : p.IsRead P) (hq : q ∈ p.subpatterns) :
    q.IsRead P ∨ q.IsTail := by
  revert q
  refine induction_isRead (motive := fun p => ∀ {q}, q ∈ p.subpatterns → q.IsRead P ∨ q.IsTail)
    ?_ ?_ ?_ ?_ ?_ ?_ ?_ p h
  · intro value hv q hq
    exact Or.inl (List.mem_singleton.mp hq ▸ hv)
  · intro value hv q hq
    exact Or.inl (List.mem_singleton.mp hq ▸ hv)
  · intro expression he q hq
    exact Or.inl (List.mem_singleton.mp hq ▸ he)
  · intro name hn q hq
    exact Or.inl (List.mem_singleton.mp hq ▸ ⟨hn, rfl⟩)
  · intro before tail hb ht q hq
    rw [subpatterns, subpatternsOfElements_eq] at hq
    rcases List.mem_cons.mp hq with rfl | hq
    · exact Or.inl (elementsRead_iff.mpr ⟨before, tail, fun e hm => (hb e hm).1, ht, rfl⟩)
    · obtain ⟨e, he, hm⟩ := List.mem_flatMap.mp hq
      rcases List.mem_append.mp he with he | he
      · exact (hb e he).2 hm
      · cases tail with
        | none => cases he
        | some name =>
          rw [List.mem_singleton.mp he] at hm
          exact Or.inr ⟨name, ht name rfl, List.mem_singleton.mp hm⟩
  · intro entries hn he q hq
    rw [subpatterns, subpatternsOfEntries_eq] at hq
    rcases List.mem_cons.mp hq with rfl | hq
    · exact Or.inl ⟨hn, entriesRead_iff.mpr fun entry hm => (he entry hm).1⟩
    · obtain ⟨entry, hm, hq⟩ := List.mem_flatMap.mp hq
      exact (he entry hm).2 hq
  · intro expression before tail he ih q hq
    rw [subpatterns_groups] at hq
    have hs := ih (List.mem_cons_self ..)
    rcases List.mem_cons.mp hq with rfl | hq
    · rcases hs with hs | ⟨name, -, hs⟩
      · exact Or.inl ⟨he, hs⟩
      · cases hs
    · rcases List.mem_cons.mp hq with rfl | hq
      · exact Or.inl he
      · exact ih hq

/-- What is known of the payloads of a pattern may be strengthened, given what is known of its
numbers. -/
theorem isRead_of_numbers {p : Pattern} (h : p.IsRead P)
    (hpq : ∀ payload, P payload → (∀ n, payload = .number n → .number n ∈ p.subpatterns) →
      Q payload) : p.IsRead Q := by
  revert hpq
  refine induction_isRead (motive := fun p => (∀ payload, P payload →
    (∀ n, payload = .number n → .number n ∈ p.subpatterns) → Q payload) → p.IsRead Q)
    ?_ ?_ ?_ ?_ ?_ ?_ ?_ p h
  · exact fun value hv hpq => hpq _ hv fun n hn => (nomatch hn)
  · intro value hv hpq
    refine hpq _ hv fun n hn => ?_
    cases hn
    exact List.mem_singleton_self _
  · exact fun expression he hpq => ⟨he.1, hpq _ he.2 fun n hn => (nomatch hn)⟩
  · exact fun name hn _ => ⟨hn, rfl⟩
  · intro before tail hb ht hpq
    refine elementsRead_iff.mpr ⟨before, tail, fun e hm => (hb e hm).2 ?_, ht, rfl⟩
    intro payload hp hn
    refine hpq payload hp fun n he => ?_
    exact subpatterns_subset_sequence (List.mem_append_left _ hm) (hn n he)
  · intro entries hn he hpq
    refine ⟨hn, entriesRead_iff.mpr fun entry hm => (he entry hm).2 ?_⟩
    intro payload hp hn
    exact hpq payload hp fun n he => subpatterns_subset_mapping hm (hn n he)
  · intro expression before tail he ih hpq
    refine ⟨⟨he.1, hpq _ he.2 fun n hn => (nomatch hn)⟩, ih ?_⟩
    intro payload hp hn
    refine hpq payload hp fun n he => ?_
    rw [subpatterns_groups]
    exact List.mem_cons_of_mem _ (List.mem_cons_of_mem _ (hn n he))

theorem elementsWritable_eq (elements : List Pattern) :
    elementsWritable elements = elements.all isWritable := by
  induction elements with
  | nil => rfl
  | cons element rest ih => rw [elementsWritable, ih, List.all_cons]

theorem entriesWritable_eq (entries : List (String × Pattern)) :
    entriesWritable entries = entries.all (·.2.isWritable) := by
  induction entries with
  | nil => rfl
  | cons entry rest ih => rw [entriesWritable, ih, List.all_cons]

/-- A pattern can be written if its numbers can. -/
theorem isWritable_of_isRead {p : Pattern} (h : p.IsRead P)
    (hp : ∀ n, P (.number n) → n.isWritable = true) : p.isWritable = true := by
  refine induction_isRead (motive := fun p => p.isWritable = true) ?_ ?_ ?_ ?_ ?_ ?_ ?_ p h
  · exact fun _ _ => rfl
  · exact fun n hn => hp n hn
  · exact fun _ _ => rfl
  · exact fun _ _ => rfl
  · intro before tail hb ht
    rw [isWritable, elementsWritable_eq, List.all_append, Bool.and_eq_true]
    refine ⟨List.all_eq_true.mpr fun e hm => (hb e hm).2, ?_⟩
    cases tail <;> rfl
  · intro entries _ he
    rw [isWritable, entriesWritable_eq]
    exact List.all_eq_true.mpr fun entry hm => (he entry hm).2
  · intro expression before tail _ ih
    exact ih

end Destructure.Pattern
