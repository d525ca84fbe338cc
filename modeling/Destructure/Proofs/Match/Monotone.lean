import Destructure.Proofs.Match.Agreement
import Destructure.Proofs.Value.Extension

/-!
A match goes over to every value that extends the one matched. The tasks that a pattern sets for the
greater value follow those it sets for the other, in the same order, so the same names are bound one
after the other, to values that extend the former ones. Main statement: `Pattern.bindAll_monotone`.
-/

namespace Destructure

def Binding.GrownTo (old new : String × Value) : Prop :=
  new.1 = old.1 ∧ new.2.Extends old.2

namespace Scope

open Binding (GrownTo)

variable {bindings grown : List (String × Value)}

theorem map_fst_of_grown (h : List.Forall₂ GrownTo bindings grown) :
    grown.map Prod.fst = bindings.map Prod.fst := by
  induction h with
  | nil => rfl
  | cons hbinding _ ih => rw [List.map_cons, List.map_cons, hbinding.1, ih]

/-- The names of a scope with several names set depend on these names only. -/
theorem names_setAll_congr {s t : Scope} (hs : t.names = s.names)
    (h : grown.map Prod.fst = bindings.map Prod.fst) :
    (t.setAll grown).names = (s.setAll bindings).names := by
  induction bindings generalizing grown s t with
  | nil =>
    obtain rfl := List.map_eq_nil_iff.mp h
    exact hs
  | cons binding rest ih =>
    obtain ⟨new, more, rfl, hname, hrest⟩ := List.map_eq_cons_iff.mp h
    refine ih (s := s.set binding.1 binding.2) (t := t.set new.1 new.2) ?_ hrest
    rw [names_set, names_set, hs, hname]

/-- The last of the bindings of a name settles its value, and that has grown. -/
theorem exists_get?_of_grown (s t : Scope) (h : List.Forall₂ GrownTo bindings grown)
    {name : String} (hm : name ∈ bindings.map Prod.fst) :
    ∃ old new, (s.setAll bindings).get? name = some old ∧
      (t.setAll grown).get? name = some new ∧ new.Extends old := by
  induction h generalizing s t with
  | nil => nomatch hm
  | @cons old new bindings grown hbinding hrest ih =>
    by_cases hlater : name ∈ bindings.map Prod.fst
    · exact ih (s.set old.1 old.2) (t.set new.1 new.2) hlater
    · obtain rfl : name = old.1 := (List.mem_cons.mp hm).resolve_right hlater
      have hlater' : old.1 ∉ grown.map Prod.fst := by rwa [map_fst_of_grown hrest]
      refine ⟨old.2, new.2, ?_, ?_, hbinding.2⟩
      · exact (get?_setAll_of_notMem _ _ hlater).trans (get?_set_self s old.1 old.2)
      · refine (get?_setAll_of_notMem _ _ hlater').trans ?_
        rw [← hbinding.1]
        exact get?_set_self t new.1 new.2

end Scope

namespace Pattern

open Binding (GrownTo)

def Task.GrownTo (old new : Task) : Prop :=
  new.1 = old.1 ∧
    ∀ value, old.2 = .ok value → ∃ more, new.2 = .ok more ∧ more.Extends value

/-- An element of a longer sequence is matched against what extends its value. A tail takes more. -/
theorem slot_of_grown {whole : Pattern} {items grown : List Value} {value more found : Value}
    {count index : Nat} {element : Pattern} (hlength : items.length ≤ grown.length)
    (hitems : ∀ (i : Nat) (new old : Value), grown[i]? = some new → items[i]? = some old →
      new.Extends old)
    (h : slot whole items value count index element = .ok found) :
    ∃ new, slot whole grown more count index element = .ok new ∧ new.Extends found := by
  unfold slot at h ⊢
  split at h
  · split at h
    · obtain rfl := Except.ok.inj h
      refine ⟨_, if_pos ‹_›, .sequence rfl rfl ?_ fun i new old hnew hold => ?_⟩
      · rw [List.length_drop, List.length_drop]
        exact Nat.sub_le_sub_right hlength index
      · rw [List.getElem?_drop] at hnew hold
        exact hitems _ new old hnew hold
    · cases h
  · cases hold : items[index]? with
    | none =>
      rw [hold] at h
      cases h
    | some old =>
      rw [hold] at h
      obtain rfl := Except.ok.inj h
      have hindex : index < grown.length :=
        Nat.lt_of_lt_of_le (List.getElem?_eq_some_iff.mp hold).1 hlength
      have hnew : grown[index]? = some grown[index] := List.getElem?_eq_getElem hindex
      refine ⟨grown[index], ?_, hitems index _ old hnew hold⟩
      rw [hnew]

theorem elementTasks_of_grown (elements : List Pattern) {items grown : List Value}
    {value more : Value} (hlength : items.length ≤ grown.length)
    (hitems : ∀ (i : Nat) (new old : Value), grown[i]? = some new → items[i]? = some old →
      new.Extends old) :
    List.Forall₂ Task.GrownTo (elementTasks elements items value)
      (elementTasks elements grown more) := by
  unfold elementTasks
  rw [List.forall₂_reverse_iff, List.forall₂_map_left_iff, List.forall₂_map_right_iff,
    List.forall₂_same]
  exact fun _ _ => ⟨rfl, fun found hfound => slot_of_grown hlength hitems hfound⟩

theorem entryTasks_of_grown (entries : List (String × Pattern)) {value more : Value}
    (h : more.Extends value) :
    List.Forall₂ Task.GrownTo (entryTasks entries value) (entryTasks entries more) := by
  unfold entryTasks
  rw [List.forall₂_map_left_iff, List.forall₂_map_right_iff, List.forall₂_same]
  refine fun (key, _) _ => ⟨rfl, fun found hfound => ?_⟩
  dsimp only at hfound ⊢
  cases hlookup : value.lookup key (.mapping entries) with
  | error cause =>
    rw [hlookup] at hfound
    cases hfound
  | ok old =>
    rw [hlookup] at hfound
    obtain rfl := Except.ok.inj hfound
    obtain ⟨new, hnew, hextends⟩ := h.lookup hlookup
    refine ⟨new, ?_, hextends⟩
    rw [hnew]
    rfl

theorem grownTo_refl (bindings : List (String × Value)) : List.Forall₂ GrownTo bindings bindings :=
  List.forall₂_same.mpr fun binding _ => ⟨rfl, Value.extends_refl binding.2⟩

mutual

/-- A pattern that matches a value matches what extends it, and binds what extends the former. -/
theorem Yields.of_grown {p : Pattern} {value more : Value} {bindings : List (String × Value)}
    (h : p.Yields value bindings) (hm : more.Extends value) :
    ∃ grown, p.Yields more grown ∧ List.Forall₂ GrownTo bindings grown := by
  match h with
  | .text h =>
    rw [hm.eq_of_isScalar (Value.isScalar_of_scalarsEqual h).2]
    exact ⟨[], .text h, .nil⟩
  | .number h =>
    rw [hm.eq_of_isScalar (Value.isScalar_of_scalarsEqual h).2]
    exact ⟨[], .number h, .nil⟩
  | .regex h =>
    rw [hm.eq_of_isScalar rfl]
    exact ⟨[], .regex h, .nil⟩
  | .discard => exact ⟨[], .discard, .nil⟩
  | .variable h => exact ⟨[(_, more)], .variable h, .cons ⟨rfl, hm⟩ .nil⟩
  | .sequence h hall =>
    obtain ⟨items, hi, hlength, hitems⟩ := hm.exists_items h
    obtain ⟨grown, hyields, hgrown⟩ := hall.of_grown (elementTasks_of_grown _ hlength hitems)
    exact ⟨grown, .sequence hi hyields, hgrown⟩
  | .mapping h hall =>
    have hplain := hm.notPlain (Bool.eq_false_of_not_eq_true h)
    obtain ⟨grown, hyields, hgrown⟩ := hall.of_grown (entryTasks_of_grown _ hm)
    exact ⟨grown, .mapping (ne_true_of_eq_false hplain) hyields, hgrown⟩
  | .groups h hall =>
    rw [hm.eq_of_isScalar rfl]
    exact ⟨bindings, .groups h hall, grownTo_refl bindings⟩

theorem YieldsAll.of_grown {tasks more : List Task} {bindings : List (String × Value)}
    (h : YieldsAll tasks bindings) (hm : List.Forall₂ Task.GrownTo tasks more) :
    ∃ grown, YieldsAll more grown ∧ List.Forall₂ GrownTo bindings grown := by
  match h with
  | .nil =>
    obtain rfl := List.forall₂_nil_left_iff.mp hm
    exact ⟨[], .nil, .nil⟩
  | .cons h hall =>
    obtain ⟨task, later, ⟨hpattern, hfound⟩, hlater, rfl⟩ := List.forall₂_cons_left_iff.mp hm
    obtain ⟨new, hnew, hextends⟩ := hfound _ rfl
    obtain ⟨first, hyields, hfirst⟩ := h.of_grown hextends
    obtain ⟨rest, hmore, hrest⟩ := hall.of_grown hlater
    refine ⟨first ++ rest, ?_, List.rel_append hfirst hrest⟩
    have htask : task = (_, .ok new) := Prod.ext hpattern hnew
    rw [htask]
    exact .cons hyields hmore

end

end Pattern

end Destructure
