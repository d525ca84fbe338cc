import Destructure.Scope

namespace Destructure.Scope

theorem eq_of_entries_eq {s t : Scope} (h : s.entries = t.entries) : s = t := by
  cases s
  cases t
  cases h
  rfl

theorem get?_set (s : Scope) (name other : String) (value : Value) :
    (s.set name value).get? other = if other = name then some value else s.get? other :=
  lookup_setEntry name other value s.entries

theorem get?_set_self (s : Scope) (name : String) (value : Value) :
    (s.set name value).get? name = some value := by
  rw [get?_set, if_pos rfl]

theorem names_set (s : Scope) (name : String) (value : Value) :
    (s.set name value).names = if name ∈ s.names then s.names else s.names ++ [name] :=
  map_fst_setEntry name value s.entries

theorem mem_names_set (s : Scope) (name other : String) (value : Value) :
    other ∈ (s.set name value).names ↔ other = name ∨ other ∈ s.names := by
  rw [names_set]
  split
  · rename_i h
    exact ⟨Or.inr, fun ho => ho.elim (fun he => he ▸ h) id⟩
  · rw [List.mem_append, List.mem_singleton]
    exact Or.comm

theorem get?_eq_none_iff (s : Scope) (name : String) : s.get? name = none ↔ name ∉ s.names := by
  unfold get? names
  rw [List.lookup_eq_none_iff, List.mem_map]
  constructor
  · rintro h ⟨entry, he, rfl⟩
    exact absurd (h entry he) (by simp)
  · intro h entry he
    rw [bne_iff_ne]
    exact fun hk => h ⟨entry, he, hk.symm⟩

theorem mem_names_of_get? {s : Scope} {name : String} {value : Value}
    (h : s.get? name = some value) : name ∈ s.names := by
  apply Decidable.byContradiction
  intro hn
  rw [(get?_eq_none_iff s name).mpr hn] at h
  cases h

theorem set_set_self (s : Scope) (name : String) (old new : Value) :
    (s.set name old).set name new = s.set name new :=
  eq_of_entries_eq (setEntry_setEntry_self name old new s.entries)

theorem set_comm (s : Scope) {name other : String} (hn : other ≠ name) (value new : Value)
    (hm : name ∈ s.names) :
    (s.set name value).set other new = (s.set other new).set name value :=
  eq_of_entries_eq (setEntry_comm hn value new hm)

theorem set_eq_self {s : Scope} {name : String} {value : Value} (h : s.get? name = some value) :
    s.set name value = s :=
  eq_of_entries_eq (setEntry_of_lookup h)

section SetAll

variable (s : Scope) (bindings : List (String × Value))

@[simp] theorem setAll_nil : s.setAll [] = s := rfl

@[simp] theorem setAll_cons (name : String) (value : Value) :
    s.setAll ((name, value) :: bindings) = (s.set name value).setAll bindings := rfl

theorem setAll_append (more : List (String × Value)) :
    s.setAll (bindings ++ more) = (s.setAll bindings).setAll more := by
  unfold setAll
  rw [List.foldl_append]

theorem get?_setAll_of_notMem {name : String} (h : name ∉ bindings.map Prod.fst) :
    (s.setAll bindings).get? name = s.get? name := by
  induction bindings generalizing s with
  | nil => rfl
  | cons binding rest ih =>
    obtain ⟨key, value⟩ := binding
    rw [List.map_cons, List.mem_cons, not_or] at h
    rw [setAll_cons, ih _ h.2, get?_set, if_neg h.1]

/-- What a scope held before says nothing about a name that is set. -/
theorem get?_setAll_congr (t : Scope) {name : String} (h : name ∈ bindings.map Prod.fst) :
    (s.setAll bindings).get? name = (t.setAll bindings).get? name := by
  induction bindings generalizing s t with
  | nil => simp at h
  | cons binding rest ih =>
    obtain ⟨key, value⟩ := binding
    by_cases hr : name ∈ rest.map Prod.fst
    · exact ih _ _ hr
    · have hk : name = key := by simpa [hr] using h
      subst hk
      rw [setAll_cons, setAll_cons, get?_setAll_of_notMem _ _ hr, get?_setAll_of_notMem _ _ hr,
        get?_set_self, get?_set_self]

/-- A name that has its place may be set before other names as well as after them. -/
theorem set_setAll_comm (name : String) (value : Value) (hm : name ∈ s.names)
    (hn : name ∉ bindings.map Prod.fst) :
    (s.setAll bindings).set name value = (s.set name value).setAll bindings := by
  induction bindings generalizing s with
  | nil => rfl
  | cons binding rest ih =>
    obtain ⟨key, new⟩ := binding
    rw [List.map_cons, List.mem_cons, not_or] at hn
    have hk : name ∈ (s.set key new).names := (mem_names_set _ _ _ _).mpr (Or.inr hm)
    rw [setAll_cons, ih _ hk hn.2, setAll_cons, set_comm s (Ne.symm hn.1) value new hm]

theorem setAll_setEntry (name : String) (value : Value) (h : (bindings.map Prod.fst).Nodup) :
    s.setAll (setEntry (· == name) name value bindings) = (s.setAll bindings).set name value := by
  induction bindings generalizing s with
  | nil => rfl
  | cons binding rest ih =>
    obtain ⟨key, old⟩ := binding
    rw [List.map_cons, List.nodup_cons] at h
    by_cases hk : key = name
    · subst hk
      have hm : key ∈ (s.set key old).names := (mem_names_set _ _ _ _).mpr (Or.inl rfl)
      rw [setAll_cons, set_setAll_comm _ _ key value hm h.1, set_set_self]
      simp [setEntry]
    · simp [setEntry, hk, ih _ h.2]

end SetAll

theorem update_set (s t : Scope) (name : String) (value : Value) :
    s.update (t.set name value) = (s.update t).set name value :=
  setAll_setEntry s t.entries name value t.nodup

theorem update_setAll (s t : Scope) (bindings : List (String × Value)) :
    s.update (t.setAll bindings) = (s.update t).setAll bindings := by
  induction bindings generalizing t with
  | nil => rfl
  | cons binding rest ih =>
    obtain ⟨name, value⟩ := binding
    rw [setAll_cons, ih, update_set, setAll_cons]

/-- Bindings made in a scope of their own and then taken over are as good as bindings made in
place, the order of the names included. -/
theorem update_setAll_empty (s : Scope) (bindings : List (String × Value)) :
    s.update (empty.setAll bindings) = s.setAll bindings :=
  update_setAll s empty bindings

theorem setAll_eq_self {s : Scope} {bindings : List (String × Value)}
    (h : ∀ binding ∈ bindings, s.get? binding.1 = some binding.2) : s.setAll bindings = s := by
  induction bindings with
  | nil => rfl
  | cons binding rest ih =>
    obtain ⟨name, value⟩ := binding
    rw [setAll_cons, set_eq_self (h (name, value) (List.mem_cons_self ..))]
    exact ih fun b hb => h b (List.mem_cons_of_mem _ hb)

theorem get?_of_mem (s : Scope) {name : String} {value : Value} (h : (name, value) ∈ s.entries) :
    s.get? name = some value := by
  have hn := s.nodup
  unfold get?
  generalize s.entries = entries at h hn
  induction entries with
  | nil => simp at h
  | cons entry rest ih =>
    obtain ⟨key, old⟩ := entry
    rw [List.map_cons, List.nodup_cons] at hn
    rcases List.mem_cons.mp h with he | hr
    · cases he
      simp
    · have hk : name ≠ key := by
        intro hk
        exact hn.1 (List.mem_map.mpr ⟨(name, value), hr, hk⟩)
      have hb : (name == key) = false := by simpa using hk
      rw [List.lookup_cons, hb]
      exact ih hr hn.2

theorem entries_set_of_notMem {s : Scope} {name : String} (value : Value) (h : name ∉ s.names) :
    (s.set name value).entries = s.entries ++ [(name, value)] := by
  change setEntry (· == name) name value s.entries = _
  change name ∉ s.entries.map Prod.fst at h
  generalize s.entries = entries at h
  induction entries with
  | nil => rfl
  | cons entry rest ih =>
    obtain ⟨key, old⟩ := entry
    rw [List.map_cons, List.mem_cons, not_or] at h
    simp [setEntry, Ne.symm h.1, ih h.2]

theorem entries_setAll_of_fresh (s : Scope) (bindings : List (String × Value))
    (h : (s.names ++ bindings.map Prod.fst).Nodup) :
    (s.setAll bindings).entries = s.entries ++ bindings := by
  induction bindings generalizing s with
  | nil => simp
  | cons binding rest ih =>
    obtain ⟨name, value⟩ := binding
    have hn : name ∉ s.names := by
      intro hm
      exact (List.nodup_append.mp h).2.2 name hm name (by simp) rfl
    have hnames : (s.set name value).names = s.names ++ [name] := by rw [names_set, if_neg hn]
    rw [setAll_cons, ih, entries_set_of_notMem value hn, List.append_assoc]
    · rfl
    · rw [hnames, List.append_assoc]
      exact h

/-- Taking over a scope that only adds names at the end yields that scope. -/
theorem update_eq_of_isPrefix {s t : Scope} (h : s.entries <+: t.entries) : s.update t = t := by
  obtain ⟨added, ht⟩ := h
  have hself : s.setAll s.entries = s := setAll_eq_self fun _ hb => get?_of_mem s hb
  have hnodup : (s.names ++ added.map Prod.fst).Nodup := by
    have hn := t.nodup
    rw [← ht, List.map_append] at hn
    exact hn
  apply eq_of_entries_eq
  unfold update
  rw [← ht, setAll_append, hself, entries_setAll_of_fresh s added hnodup]

end Destructure.Scope
