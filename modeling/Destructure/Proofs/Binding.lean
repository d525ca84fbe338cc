import Destructure.Proofs.Match.Task

namespace Destructure

namespace Binding

theorem bindEach_overwrite (scope : Scope) (bindings : List (String × Value)) :
    bindEach .overwrite scope bindings = .matched (scope.setAll bindings) := by
  induction bindings generalizing scope with
  | nil => rfl
  | cons binding rest ih =>
    obtain ⟨name, value⟩ := binding
    exact ih (scope.set name value)

/-- A policy that compares keeps what a scope holds, in its order. -/
theorem isPrefix_bind_agree (scope : Scope) (name : String) (value : Value) :
    scope.entries <+: (bind .agree scope name value).scope.entries := by
  unfold bind
  cases hg : scope.get? name with
  | some existing =>
    cases hc : check name existing value <;> simp only [hc] <;> exact List.prefix_refl _
  | none =>
    have hn : name ∉ scope.names := (Scope.get?_eq_none_iff scope name).mp hg
    change scope.entries <+: (scope.set name value).entries
    rw [Scope.entries_set_of_notMem value hn]
    exact List.prefix_append _ _

theorem isPrefix_bindEach_agree (scope : Scope) (bindings : List (String × Value)) :
    scope.entries <+: (bindEach .agree scope bindings).scope.entries := by
  induction bindings generalizing scope with
  | nil => exact List.prefix_refl _
  | cons binding rest ih =>
    obtain ⟨name, value⟩ := binding
    rw [bindEach]
    have hb := isPrefix_bind_agree scope name value
    generalize bind .agree scope name value = outcome at hb ⊢
    obtain ⟨next, _ | failure⟩ := outcome
    · exact hb.trans (ih next)
    · exact hb

theorem mem_names_of_bind {policy : Policy} {scope next : Scope} {name : String} {value : Value}
    (h : bind policy scope name value = .matched next) (other : String) :
    other ∈ next.names ↔ other = name ∨ other ∈ scope.names := by
  unfold bind at h
  split at h
  · rename_i existing hg
    have hm : name ∈ scope.names := Scope.mem_names_of_get? hg
    split at h
    · obtain rfl : scope = next := congrArg Outcome.scope h
      exact ⟨Or.inr, fun ho => ho.elim (fun he => he ▸ hm) id⟩
    · cases congrArg Outcome.failure h
  · obtain rfl : scope.set name value = next := congrArg Outcome.scope h
    exact Scope.mem_names_set scope name other value

theorem mem_names_of_bindEach {policy : Policy} {scope next : Scope}
    {bindings : List (String × Value)} (h : bindEach policy scope bindings = .matched next)
    (name : String) : name ∈ next.names ↔ name ∈ bindings.map Prod.fst ∨ name ∈ scope.names := by
  induction bindings generalizing scope with
  | nil =>
    obtain rfl : scope = next := congrArg Outcome.scope h
    simp
  | cons binding rest ih =>
    obtain ⟨key, value⟩ := binding
    rw [bindEach] at h
    obtain ⟨between, hb, hr⟩ := Outcome.andThen_eq_matched h
    rw [ih hr, mem_names_of_bind hb, List.map_cons, List.mem_cons, or_left_comm, or_assoc]

end Binding

namespace Pattern

/-- Under the policy that overwrites, what is bound and how the match ends depend on the pattern and
the value alone. -/
theorem bindAll_overwrite (p : Pattern) (value : Value) (scope : Scope) :
    p.bindAll .overwrite value scope =
      ⟨scope.setAll (p.visit value).bindings, (p.visit value).finding.map Finding.failure⟩ := by
  rw [bindAll_eq_replay, Visit.replay, Binding.bindEach_overwrite]
  rfl

/-- Under the policy that overwrites, a pattern and a value settle what is bound and how the match
ends, whatever the scope holds: the scope is set to the bindings in their order. The bindings are
those that the match asks for if it succeeds, and those made until it breaks off otherwise. Names
that the pattern does not have keep their values. -/
theorem bindAll_overwrite_setAll (p : Pattern) (value : Value) :
    ∃ (bindings : List (String × Value)) (ending : Option Finding),
      (∀ scope, p.bindAll .overwrite value scope =
        ⟨scope.setAll bindings, ending.map Finding.failure⟩) ∧
      (∀ found, p.Yields value found ↔ ending = none ∧ found = bindings) ∧
      (∀ found finding, p.Breaks value found finding ↔ ending = some finding ∧ found = bindings) ∧
      ∀ scope name, name ∉ p.variableNames →
        (p.bindAll .overwrite value scope).scope.get? name = scope.get? name := by
  refine ⟨(p.visit value).bindings, (p.visit value).finding, bindAll_overwrite p value,
    fun found => yields_iff, fun found finding => breaks_iff, ?_⟩
  intro scope name hname
  have hnot : name ∉ (p.visit value).bindings.map Prod.fst := by
    intro hm
    obtain ⟨binding, hb, rfl⟩ := List.mem_map.mp hm
    exact hname (mem_variableNames_of_visit hb)
  rw [bindAll_overwrite]
  exact Scope.get?_setAll_of_notMem scope _ hnot

theorem isPrefix_bindAll_agree (p : Pattern) (value : Value) (scope : Scope) :
    scope.entries <+: (p.bindAll .agree value scope).scope.entries := by
  have hb := Binding.isPrefix_bindEach_agree scope (p.visit value).bindings
  rw [bindAll_eq_replay, Visit.replay]
  generalize Binding.bindEach .agree scope (p.visit value).bindings = outcome at hb ⊢
  obtain ⟨next, _ | failure⟩ := outcome <;> exact hb

/-- A match that succeeds binds exactly the variables of its pattern. -/
theorem mem_names_of_bindAll {policy : Policy} {p : Pattern} {value : Value} {scope next : Scope}
    (h : p.bindAll policy value scope = .matched next) (name : String) :
    name ∈ next.names ↔ name ∈ p.variableNames ∨ name ∈ scope.names := by
  rw [bindAll_eq_replay, Visit.replay] at h
  obtain ⟨between, hb, hr⟩ := Outcome.andThen_eq_matched h
  have hf : (p.visit value).finding = none :=
    Option.map_eq_none_iff.mp (congrArg Outcome.failure hr)
  obtain rfl : between = next := congrArg Outcome.scope hr
  rw [Binding.mem_names_of_bindEach hb, (perm_variableNames_visit p value hf).mem_iff]

end Pattern

end Destructure
