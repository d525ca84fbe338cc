import Destructure.Proofs.Binding

namespace Destructure

namespace Scope

def first? (scope : Scope) (bindings : List (String × Value)) (name : String) : Option Value :=
  (scope.get? name).or (bindings.lookup name)

def Admits (scope : Scope) (bindings : List (String × Value)) : Prop :=
  ∀ before name value after, bindings = before ++ (name, value) :: after →
    ∀ first, scope.first? before name = some first → Binding.check name first value = .ok ()

def additions (scope : Scope) (bindings : List (String × Value)) : List (String × Value) :=
  (bindings.filter fun binding => !scope.contains binding.1).eraseDupsBy fun a b => a.1 == b.1

def keep (scope : Scope) (name : String) (value : Value) : Scope :=
  if scope.contains name then scope else scope.set name value

variable (scope : Scope) (name : String) (value : Value) (rest : List (String × Value))

theorem first?_cons (before : List (String × Value)) (other : String) :
    scope.first? ((name, value) :: before) other = (scope.keep name value).first? before other := by
  unfold first? keep contains
  by_cases hother : other = name
  · subst hother
    cases hget : scope.get? other with
    | some old => simp [hget]
    | none => simp [get?_set_self]
  · have hlookup : ((name, value) :: before).lookup other = before.lookup other := by
      rw [List.lookup_cons, beq_false_of_ne hother]
    rw [hlookup]
    split
    · rfl
    · rw [get?_set, if_neg hother]

theorem admits_nil : scope.Admits [] := by
  intro before name value after h
  cases before <;> nomatch h

/-- The first of some bindings agrees with what the scope holds, and the others are then admitted. -/
theorem admits_cons :
    scope.Admits ((name, value) :: rest) ↔
      (∀ old, scope.get? name = some old → Binding.check name old value = .ok ()) ∧
        (scope.keep name value).Admits rest := by
  constructor
  · intro h
    refine ⟨fun old hold => h [] name value rest rfl old ?_, ?_⟩
    · rw [first?, hold]
      rfl
    · intro before other given after hrest first hfirst
      refine h ((name, value) :: before) other given after (congrArg _ hrest) first ?_
      rw [first?_cons, hfirst]
  · rintro ⟨hhead, hrest⟩ before other given after hall first hfirst
    cases before with
    | nil =>
      obtain ⟨⟨rfl, rfl⟩, rfl⟩ := by simpa using hall
      refine hhead first ?_
      rwa [first?, List.lookup_nil, Option.or_none] at hfirst
    | cons binding before =>
      obtain ⟨rfl, hafter⟩ := List.cons.inj hall
      rw [first?_cons] at hfirst
      exact hrest before other given after hafter first hfirst

theorem additions_cons_of_contains (h : scope.contains name = true) :
    scope.additions ((name, value) :: rest) = scope.additions rest := by
  unfold additions
  rw [List.filter_cons_of_neg]
  simpa using h

theorem additions_cons_of_new (h : scope.contains name = false) :
    scope.additions ((name, value) :: rest) =
      (name, value) :: (scope.set name value).additions rest := by
  have hkept (binding : String × Value) :
      (decide ((binding.1 == name) = false) && !scope.contains binding.1) =
        !(scope.set name value).contains binding.1 := by
    unfold contains
    rw [get?_set]
    by_cases hb : binding.1 = name <;> simp [hb]
  unfold additions
  rw [List.filter_cons_of_pos (by simpa using h), List.eraseDupsBy_cons, List.filter_filter]
  simp only [hkept]

example : (ofList [("a", .boolean true)]).additions
    [("b", .boolean true), ("a", .boolean false), ("b", .boolean false)] = [("b", .boolean true)] := by
  rfl

end Scope

namespace Binding

/-- Under the policy that compares, some bindings can be made if and only if the scope admits them,
and they add the first values of the new names to it. -/
theorem bindEach_agree_eq_matched {scope result : Scope} {bindings : List (String × Value)} :
    bindEach .agree scope bindings = .matched result ↔
      scope.Admits bindings ∧ result.entries = scope.entries ++ scope.additions bindings := by
  induction bindings generalizing scope with
  | nil =>
    constructor
    · intro h
      obtain rfl : scope = result := congrArg Outcome.scope h
      exact ⟨scope.admits_nil, (List.append_nil _).symm⟩
    · rintro ⟨-, h⟩
      have hsame : scope.entries = result.entries := (List.append_nil _).symm.trans h.symm
      rw [bindEach, Scope.eq_of_entries_eq hsame]
  | cons binding rest ih =>
    obtain ⟨name, value⟩ := binding
    rw [bindEach, Scope.admits_cons]
    cases hget : scope.get? name with
    | some old =>
      have hcontains : scope.contains name = true := by rw [Scope.contains, hget]; rfl
      rw [Scope.additions_cons_of_contains _ _ _ _ hcontains, Scope.keep, if_pos hcontains]
      cases hcheck : check name old value with
      | ok u =>
        have hbind : bind .agree scope name value = .matched scope := by
          simp only [bind, hget, hcheck]
        rw [hbind, Outcome.matched_andThen, ih]
        simp [hcheck]
      | error failure =>
        have hbind : bind .agree scope name value = .failed scope failure := by
          simp only [bind, hget, hcheck]
        rw [hbind, Outcome.failed_andThen]
        constructor
        · intro h
          cases congrArg Outcome.failure h
        · rintro ⟨⟨hall, -⟩, -⟩
          rw [hall old rfl] at hcheck
          cases hcheck
    | none =>
      have hcontains : scope.contains name = false := by rw [Scope.contains, hget]; rfl
      have hnew : name ∉ scope.names := (Scope.get?_eq_none_iff scope name).mp hget
      have hbind : bind .agree scope name value = .matched (scope.set name value) := by
        simp only [bind, hget]
      rw [hbind, Outcome.matched_andThen, ih, Scope.additions_cons_of_new _ _ _ _ hcontains,
        Scope.keep, hcontains, Scope.entries_set_of_notMem value hnew, List.append_assoc]
      simp

end Binding

theorem Visit.replay_eq_matched {v : Visit} {policy : Policy} {scope result : Scope} :
    v.replay policy scope = .matched result ↔
      v.finding = none ∧ Binding.bindEach policy scope v.bindings = .matched result := by
  obtain ⟨bindings, finding⟩ := v
  constructor
  · intro h
    obtain ⟨between, hb, hr⟩ := Outcome.andThen_eq_matched h
    have hfinding : finding = none := Option.map_eq_none_iff.mp (congrArg Outcome.failure hr)
    obtain rfl : between = result := congrArg Outcome.scope hr
    exact ⟨hfinding, hb⟩
  · rintro ⟨rfl, hb⟩
    rw [replay, hb]
    rfl

namespace Pattern

/-- A match under the policy that compares succeeds if and only if it succeeds under the policy that
overwrites and the scope admits the bindings that it asks for. It leaves the scope with the first
values of new names at its end. Names that the scope has keep their values, even if the match
fails. -/
theorem bindAll_agree_iff (p : Pattern) (value : Value) (scope : Scope) :
    (∀ result, p.bindAll .agree value scope = .matched result ↔
      ∃ bindings, p.Yields value bindings ∧
        p.bindAll .overwrite value scope = .matched (scope.setAll bindings) ∧
        scope.Admits bindings ∧ result.entries = scope.entries ++ scope.additions bindings) ∧
    ∀ name old, scope.get? name = some old →
      (p.bindAll .agree value scope).scope.get? name = some old := by
  constructor
  · intro result
    -- both policies replay the one visit: it ends alike, and only the bindings may be refused
    have hagree : p.bindAll .agree value scope = .matched result ↔
        (p.visit value).finding = none ∧
          Binding.bindEach .agree scope (p.visit value).bindings = .matched result := by
      rw [bindAll_eq_replay, Visit.replay_eq_matched]
    have hoverwrite (hend : (p.visit value).finding = none) : p.bindAll .overwrite value scope =
        .matched (scope.setAll (p.visit value).bindings) := by
      rw [bindAll_eq_replay, Visit.replay_eq_matched, Binding.bindEach_overwrite]
      exact ⟨hend, rfl⟩
    rw [hagree, Binding.bindEach_agree_eq_matched]
    constructor
    · rintro ⟨hend, hadmits, hresult⟩
      exact ⟨_, yields_iff.mpr ⟨hend, rfl⟩, hoverwrite hend, hadmits, hresult⟩
    · rintro ⟨bindings, hyields, -, hadmits, hresult⟩
      obtain ⟨hend, rfl⟩ := yields_iff.mp hyields
      exact ⟨hend, hadmits, hresult⟩
  · intro name old hold
    obtain ⟨added, hadded⟩ := isPrefix_bindAll_agree p value scope
    rw [Scope.get?] at hold ⊢
    rw [← hadded, List.lookup_append, hold]
    rfl

end Pattern

end Destructure
