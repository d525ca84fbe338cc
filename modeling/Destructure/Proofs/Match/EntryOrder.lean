import Destructure.Proofs.Match.Agreement
import Destructure.Proofs.Value.Extension

namespace Destructure

namespace Visit

def Resembles (a b : Visit) : Prop :=
  (a.finding = none ↔ b.finding = none) ∧ (a.finding = none → a.bindings.Perm b.bindings)

variable {a b c d : Visit}

@[refl] theorem Resembles.refl (a : Visit) : a.Resembles a :=
  ⟨Iff.rfl, fun _ => .refl _⟩

theorem Resembles.trans (hab : a.Resembles b) (hbc : b.Resembles c) : a.Resembles c :=
  ⟨hab.1.trans hbc.1, fun h => (hab.2 h).trans (hbc.2 (hab.1.mp h))⟩

theorem resembles_stop (first second : Finding) : (stop first).Resembles (stop second) :=
  ⟨iff_of_false (fun h => nomatch h) (fun h => nomatch h), fun h => nomatch h⟩

theorem finding_andThen_eq_none_iff :
    (a.andThen b).finding = none ↔ a.finding = none ∧ b.finding = none := by
  obtain ⟨bindings, _ | found⟩ := a
  · exact (and_iff_right rfl).symm
  · exact iff_of_false (fun h => nomatch h) (fun h => nomatch h.1)

theorem Resembles.andThen (hac : a.Resembles c) (hbd : b.Resembles d) :
    (a.andThen b).Resembles (c.andThen d) := by
  have hend : (a.andThen b).finding = none ↔ (c.andThen d).finding = none := by
    rw [finding_andThen_eq_none_iff, finding_andThen_eq_none_iff, hac.1, hbd.1]
  refine ⟨hend, fun h => ?_⟩
  obtain ⟨ha, hb, hab⟩ := andThen_finding_eq_none h
  obtain ⟨-, -, hcd⟩ := andThen_finding_eq_none (hend.mp h)
  rw [hab, hcd]
  exact (hac.2 ha).append (hbd.2 hb)

theorem failure_replay_eq_none_iff {v : Visit} {policy : Policy} {scope : Scope} :
    (v.replay policy scope).failure = none ↔
      v.finding = none ∧ (Binding.bindEach policy scope v.bindings).failure = none := by
  constructor
  · intro h
    obtain ⟨hf, hb⟩ := replay_eq_matched.mp (Outcome.eq_matched h)
    exact ⟨hf, congrArg Outcome.failure hb⟩
  · rintro ⟨hf, hb⟩
    exact congrArg Outcome.failure (replay_eq_matched.mpr ⟨hf, Outcome.eq_matched hb⟩)

theorem scope_replay {v : Visit} {policy : Policy} {scope : Scope} (h : v.finding = none) :
    (v.replay policy scope).scope = (Binding.bindEach policy scope v.bindings).scope := by
  rw [replay, h]
  exact congrArg Outcome.scope (Outcome.andThen_matched _)

theorem resembles_andThen_comm (a b : Visit) : (a.andThen b).Resembles (b.andThen a) := by
  have hend : (a.andThen b).finding = none ↔ (b.andThen a).finding = none := by
    rw [finding_andThen_eq_none_iff, finding_andThen_eq_none_iff, and_comm]
  refine ⟨hend, fun h => ?_⟩
  obtain ⟨-, -, hab⟩ := andThen_finding_eq_none h
  obtain ⟨-, -, hba⟩ := andThen_finding_eq_none (hend.mp h)
  rw [hab, hba]
  exact List.perm_append_comm

end Visit

namespace Binding

variable {policy : Policy} {scope next : Scope} {bindings others : List (String × Value)}

def settled (policy : Policy) (old : Option Value) (value : Value) : Value :=
  match policy with
  | .overwrite => value
  | .agree => old.getD value

/-- A binding settles its own name and concerns no other. -/
theorem get?_of_bind {name : String} {value : Value}
    (h : bind policy scope name value = .matched next) (other : String) :
    next.get? other =
      if other = name then some (settled policy (scope.get? name) value) else scope.get? other := by
  cases policy with
  | overwrite =>
    obtain rfl : scope.set name value = next := congrArg Outcome.scope h
    exact Scope.get?_set scope name other value
  | agree =>
    cases hold : scope.get? name with
    | none =>
      have hbind : bind .agree scope name value = .matched (scope.set name value) := by
        simp only [bind, hold]
      obtain rfl : scope.set name value = next := congrArg Outcome.scope (hbind.symm.trans h)
      exact Scope.get?_set scope name other value
    | some existing =>
      have hscope : (bind .agree scope name value).scope = scope := by
        cases hc : check name existing value <;> simp only [bind, hold, hc] <;> rfl
      obtain rfl : scope = next := hscope.symm.trans (congrArg Outcome.scope h)
      split
      · rename_i hname
        rw [hname, hold]
        rfl
      · rfl

/-- Whether a binding is refused depends on what its name stands for, and on nothing else. -/
theorem failure_bind_congr (policy : Policy) {s t : Scope} {name : String}
    (h : s.get? name = t.get? name) (value : Value) :
    (bind policy s name value).failure = (bind policy t name value).failure := by
  unfold bind
  rw [h]
  cases policy with
  | overwrite => rfl
  | agree =>
    cases t.get? name with
    | none => rfl
    | some existing =>
      dsimp only
      cases check name existing value <;> rfl

theorem bindEach_cons_eq_none_iff (name : String) (value : Value) :
    (bindEach policy scope ((name, value) :: bindings)).failure = none ↔
      ∃ between, bind policy scope name value = .matched between ∧
        (bindEach policy between bindings).failure = none := by
  constructor
  · intro h
    obtain ⟨between, hb, hrest⟩ := Outcome.andThen_eq_matched (Outcome.eq_matched h)
    exact ⟨between, hb, congrArg Outcome.failure hrest⟩
  · rintro ⟨between, hb, hrest⟩
    rwa [bindEach, hb, Outcome.matched_andThen]

/-- Bindings of distinct names succeed if each of them does in the scope that they begin with. -/
theorem failure_bindEach_eq_none_iff (hn : (bindings.map Prod.fst).Nodup) :
    (bindEach policy scope bindings).failure = none ↔
      ∀ binding ∈ bindings, (bind policy scope binding.1 binding.2).failure = none := by
  induction bindings generalizing scope with
  | nil => exact iff_of_true rfl (List.forall_mem_nil _)
  | cons binding rest ih =>
    obtain ⟨name, value⟩ := binding
    obtain ⟨hfresh, hn⟩ := List.nodup_cons.mp hn
    have hlater {between : Scope} (hb : bind policy scope name value = .matched between)
        (binding : String × Value) (hm : binding ∈ rest) :
        (bind policy between binding.1 binding.2).failure =
          (bind policy scope binding.1 binding.2).failure := by
      refine failure_bind_congr policy ?_ binding.2
      rw [get?_of_bind hb, if_neg fun he => hfresh (List.mem_map.mpr ⟨binding, hm, he⟩)]
    rw [bindEach_cons_eq_none_iff, List.forall_mem_cons]
    constructor
    · rintro ⟨between, hb, hrest⟩
      refine ⟨congrArg Outcome.failure hb, fun binding hm => ?_⟩
      rw [← hlater hb binding hm]
      exact (ih hn).mp hrest binding hm
    · rintro ⟨hfirst, hrest⟩
      have hb := Outcome.eq_matched hfirst
      refine ⟨_, hb, (ih hn).mpr fun binding hm => ?_⟩
      rw [hlater hb binding hm]
      exact hrest binding hm

theorem get?_of_bindEach_of_notMem (h : (bindEach policy scope bindings).failure = none)
    {name : String} (hname : name ∉ bindings.map Prod.fst) :
    (bindEach policy scope bindings).scope.get? name = scope.get? name := by
  induction bindings generalizing scope with
  | nil => rfl
  | cons binding rest ih =>
    obtain ⟨other, value⟩ := binding
    obtain ⟨between, hb, hrest⟩ := (bindEach_cons_eq_none_iff other value).mp h
    rw [List.map_cons, List.mem_cons, not_or] at hname
    rw [bindEach, hb, Outcome.matched_andThen, ih hrest hname.2, get?_of_bind hb, if_neg hname.1]

/-- Each of some bindings of distinct names settles its name as it would alone. -/
theorem get?_of_bindEach_of_mem (hn : (bindings.map Prod.fst).Nodup)
    (h : (bindEach policy scope bindings).failure = none) {binding : String × Value}
    (hm : binding ∈ bindings) :
    (bindEach policy scope bindings).scope.get? binding.1 =
      some (settled policy (scope.get? binding.1) binding.2) := by
  induction bindings generalizing scope with
  | nil => cases hm
  | cons first rest ih =>
    obtain ⟨name, value⟩ := first
    obtain ⟨hfresh, hn⟩ := List.nodup_cons.mp hn
    obtain ⟨between, hb, hrest⟩ := (bindEach_cons_eq_none_iff name value).mp h
    rw [bindEach, hb, Outcome.matched_andThen]
    rcases List.mem_cons.mp hm with rfl | hm
    · rw [get?_of_bindEach_of_notMem hrest hfresh, get?_of_bind hb, if_pos rfl]
    · rw [ih hn hrest hm, get?_of_bind hb,
        if_neg fun he => hfresh (List.mem_map.mpr ⟨binding, hm, he⟩)]

/-- The order of bindings of distinct names makes no difference. -/
theorem bindEach_perm (policy : Policy) (scope : Scope) (hp : bindings.Perm others)
    (hn : (bindings.map Prod.fst).Nodup) :
    ((bindEach policy scope bindings).failure = none ↔
      (bindEach policy scope others).failure = none) ∧
    ((bindEach policy scope bindings).failure = none → ∀ name,
      (bindEach policy scope bindings).scope.get? name =
        (bindEach policy scope others).scope.get? name) := by
  have hp' : (bindings.map Prod.fst).Perm (others.map Prod.fst) := hp.map Prod.fst
  have hn' : (others.map Prod.fst).Nodup := hp'.nodup hn
  have hend : (bindEach policy scope bindings).failure = none ↔
      (bindEach policy scope others).failure = none := by
    rw [failure_bindEach_eq_none_iff hn, failure_bindEach_eq_none_iff hn']
    exact forall_congr' fun binding => by rw [hp.mem_iff]
  refine ⟨hend, fun h name => ?_⟩
  by_cases hm : name ∈ bindings.map Prod.fst
  · obtain ⟨binding, hb, rfl⟩ := List.mem_map.mp hm
    rw [get?_of_bindEach_of_mem hn h hb,
      get?_of_bindEach_of_mem hn' (hend.mp h) (hp.mem_iff.mp hb)]
  · rw [get?_of_bindEach_of_notMem h hm,
      get?_of_bindEach_of_notMem (hend.mp h) fun hm' => hm (hp'.mem_iff.mpr hm')]

end Binding

namespace Pattern

mutual

inductive Reordered : Pattern → Pattern → Prop
  | same (p : Pattern) : Reordered p p
  | sequence {elements others : List Pattern} (h : ElementsReordered elements others) :
      Reordered (.sequence elements) (.sequence others)
  | groups {expression : Regex} {elements others : List Pattern}
      (h : ElementsReordered elements others) :
      Reordered (.groups expression elements) (.groups expression others)
  | mapping {entries others reordered : List (String × Pattern)}
      (h : EntriesReordered entries others) (hp : others.Perm reordered) :
      Reordered (.mapping entries) (.mapping reordered)

inductive ElementsReordered : List Pattern → List Pattern → Prop
  | nil : ElementsReordered [] []
  | cons {p q : Pattern} {elements others : List Pattern} (h : Reordered p q)
      (hall : ElementsReordered elements others) : ElementsReordered (p :: elements) (q :: others)

inductive EntriesReordered : List (String × Pattern) → List (String × Pattern) → Prop
  | nil : EntriesReordered [] []
  | cons {key : String} {p q : Pattern} {entries others : List (String × Pattern)}
      (h : Reordered p q) (hall : EntriesReordered entries others) :
      EntriesReordered ((key, p) :: entries) ((key, q) :: others)

end

theorem Reordered.isTailVariable_eq {p q : Pattern} (h : Reordered p q) :
    p.isTailVariable = q.isTailVariable := by
  cases h <;> rfl

theorem ElementsReordered.isEmpty_eq {elements others : List Pattern}
    (h : ElementsReordered elements others) : elements.isEmpty = others.isEmpty := by
  cases h <;> rfl

/-- What a lookup finds does not depend on the pattern that asks for it. -/
theorem lookup_eq_ok_congr {value item : Value} {key : String} (whole other : Pattern) :
    value.lookup key whole = .ok item ↔ value.lookup key other = .ok item :=
  Value.lookup_eq_ok_iff.trans Value.lookup_eq_ok_iff.symm

section Entries

variable (whole other : Pattern) (value : Value)

def visitEntry (entry : String × Pattern) : Visit :=
  match value.lookup entry.1 whole with
  | .error cause => .stop (.mismatch cause)
  | .ok item => entry.2.visit item

theorem visitEntries_cons (entry : String × Pattern) (rest : List (String × Pattern)) :
    visitEntries whole value (entry :: rest) =
      (visitEntry whole value entry).andThen (visitEntries whole value rest) := by
  obtain ⟨key, p⟩ := entry
  rw [visitEntries, visitEntry]
  cases value.lookup key whole <;> rfl

/-- Entries with patterns that are visited alike, under one key. -/
theorem resembles_visitEntry {key : String} {p q : Pattern}
    (h : ∀ item, (p.visit item).Resembles (q.visit item)) :
    (visitEntry whole value (key, p)).Resembles (visitEntry other value (key, q)) := by
  unfold visitEntry
  dsimp only
  cases hw : value.lookup key whole with
  | ok item =>
    rw [(lookup_eq_ok_congr whole other).mp hw]
    exact h item
  | error cause =>
    cases ho : value.lookup key other with
    | ok item => cases hw.symm.trans ((lookup_eq_ok_congr whole other).mpr ho)
    | error cause' => exact Visit.resembles_stop (.mismatch cause) (.mismatch cause')

theorem resembles_visitEntries_of_perm {entries others : List (String × Pattern)}
    (h : entries.Perm others) :
    (visitEntries whole value entries).Resembles (visitEntries whole value others) := by
  induction h with
  | nil => exact .refl _
  | cons entry _ ih =>
    rw [visitEntries_cons, visitEntries_cons]
    exact (Visit.Resembles.refl _).andThen ih
  | swap first second rest =>
    rw [visitEntries_cons, visitEntries_cons, visitEntries_cons, visitEntries_cons,
      ← Visit.andThen_assoc, ← Visit.andThen_assoc]
    exact (Visit.resembles_andThen_comm _ _).andThen (.refl _)
  | trans _ _ ih ih' => exact ih.trans ih'

end Entries

mutual

/-- A pattern with its entries in another order is visited alike. -/
theorem Reordered.resembles_visit {p q : Pattern} (h : Reordered p q) (value : Value) :
    (p.visit value).Resembles (q.visit value) := by
  match h with
  | .same p => exact .refl _
  | .sequence h =>
    rw [visit, visit]
    cases value.items? with
    | none => exact Visit.resembles_stop _ _
    | some items => exact h.resembles_visitElements _ _ items value 0
  | .groups h =>
    rw [visit, visit]
    cases captures _ value with
    | error cause => exact .refl _
    | ok parts => exact h.resembles_visitElements _ _ _ _ 0
  | .mapping h hp =>
    rw [visit, visit]
    split
    · exact Visit.resembles_stop _ _
    · exact (h.resembles_visitEntries _ _ value).trans (resembles_visitEntries_of_perm _ value hp)

theorem ElementsReordered.resembles_visitElements {elements others : List Pattern}
    (h : ElementsReordered elements others) (whole other : Pattern) (items : List Value)
    (value : Value) (index : Nat) :
    (visitElements whole items value index elements).Resembles
      (visitElements other items value index others) := by
  match h with
  | .nil => exact .refl _
  | @ElementsReordered.cons p q elements others h hall =>
    have hrest := hall.resembles_visitElements whole other items value (index + 1)
    cases ht : p.isTailVariable with
    | true =>
      obtain ⟨name, rfl⟩ := eq_variable_of_isTailVariable ht
      obtain rfl : q = .variable name true := by
        cases h
        rfl
      rw [visitElements_tail, visitElements_tail, hall.isEmpty_eq]
      refine hrest.andThen ?_
      split
      · exact .refl _
      · exact Visit.resembles_stop _ _
    | false =>
      rw [visitElements_cons _ _ _ _ _ ht,
        visitElements_cons _ _ _ _ _ (h.isTailVariable_eq.symm.trans ht)]
      refine hrest.andThen ?_
      cases items[index]? with
      | none => exact Visit.resembles_stop _ _
      | some item => exact h.resembles_visit item

theorem EntriesReordered.resembles_visitEntries {entries others : List (String × Pattern)}
    (h : EntriesReordered entries others) (whole other : Pattern) (value : Value) :
    (visitEntries whole value entries).Resembles (visitEntries other value others) := by
  match h with
  | .nil => exact .refl _
  | .cons h hall =>
    rw [visitEntries_cons, visitEntries_cons]
    exact (resembles_visitEntry whole other value h.resembles_visit).andThen
      (hall.resembles_visitEntries whole other value)

end

/-- The order of entries makes no difference to a pattern that binds no name twice. With the entries of
its mappings in another order, at any depth, it matches a value under either policy and in any scope just
if it did before, and then every name stands for the same value afterwards, or still for none. -/
theorem bindAll_reordered {p q : Pattern} (h : p.Reordered q) (hn : p.variableNames.Nodup)
    (policy : Policy) (value : Value) (scope : Scope) :
    ((p.bindAll policy value scope).failure = none ↔
      (q.bindAll policy value scope).failure = none) ∧
    ((p.bindAll policy value scope).failure = none → ∀ name,
      (p.bindAll policy value scope).scope.get? name =
        (q.bindAll policy value scope).scope.get? name) := by
  have hreplay (r : Pattern) : (r.bindAll policy value scope).failure = none ↔
      (r.visit value).finding = none ∧
        (Binding.bindEach policy scope (r.visit value).bindings).failure = none := by
    rw [bindAll_eq_replay]
    exact Visit.failure_replay_eq_none_iff
  obtain ⟨hfinding, hbindings⟩ := h.resembles_visit value
  -- the rows of bindings count only where the visits end without a finding
  have hperm (hf : (p.visit value).finding = none) :=
    Binding.bindEach_perm policy scope (hbindings hf)
      ((perm_variableNames_visit p value hf).nodup_iff.mpr hn)
  refine ⟨?_, fun hp name => ?_⟩
  · rw [hreplay, hreplay, ← hfinding]
    exact and_congr_right fun hf => (hperm hf).1
  · obtain ⟨hf, hb⟩ := (hreplay p).mp hp
    rw [bindAll_eq_replay, bindAll_eq_replay, Visit.scope_replay hf,
      Visit.scope_replay (hfinding.mp hf)]
    exact (hperm hf).2 hb name

example :
    let a : String × Pattern := ("a", .variable "x" false)
    let b : String × Pattern := ("b", .variable "x" false)
    let value : Value := .mapping [(.text "a", .null), (.text "b", .text "t")]
    ((mapping [a, b]).bindAll .overwrite value .empty).scope.get? "x" = some (.text "t") ∧
      ((mapping [b, a]).bindAll .overwrite value .empty).scope.get? "x" = some .null := by
  intro a b value
  exact ⟨rfl, rfl⟩

/-- Entries exchanged inside and outside, where the scope has one of the names already. -/
theorem bindAll_reordered_nested :
    let a : String × Pattern := ("a", .variable "x" false)
    let b : String × Pattern := ("b", .variable "y" false)
    let n : String × Pattern := ("n", .variable "_" false)
    let p : Pattern := .mapping [("k", .mapping [a, b]), n]
    let q : Pattern := .mapping [n, ("k", .mapping [b, a])]
    let value : Value := .mapping [(.text "k", .mapping [(.text "a", .int 1), (.text "b", .null)]),
      (.text "n", .null)]
    let scope : Scope := .ofList [("x", .int 1)]
    p.Reordered q ∧ p.variableNames.Nodup ∧ (p.bindAll .agree value scope).failure = none ∧
      (q.bindAll .agree value scope).failure = none ∧
        (q.bindAll .agree value scope).scope.get? "y" = some .null := by
  intro a b n p q value scope
  have hinner : (Pattern.mapping [a, b]).Reordered (.mapping [b, a]) :=
    .mapping (.cons (.same _) (.cons (.same _) .nil)) (.swap ..)
  have h : p.Reordered q := .mapping (.cons hinner (.cons (.same _) .nil)) (.swap ..)
  have hn : p.variableNames.Nodup := by decide
  have hp : (p.bindAll .agree value scope).failure = none := by rfl
  have hy : (p.bindAll .agree value scope).scope.get? "y" = some .null := by rfl
  obtain ⟨hend, hsame⟩ := bindAll_reordered h hn .agree value scope
  exact ⟨h, hn, hp, hend.mp hp, (hsame hp "y").symm.trans hy⟩

end Pattern

end Destructure
