namespace Destructure

def setEntry {κ β : Type} (same : κ → Bool) (key : κ) (value : β) : List (κ × β) → List (κ × β)
  | [] => [(key, value)]
  | (other, old) :: rest =>
    if same other then (other, value) :: rest else (other, old) :: setEntry same key value rest

variable {κ β : Type}

theorem setEntry_of_forall_not {same : κ → Bool} {key : κ} {value : β} {entries : List (κ × β)}
    (h : ∀ entry ∈ entries, same entry.1 = false) :
    setEntry same key value entries = entries ++ [(key, value)] := by
  induction entries with
  | nil => rfl
  | cons entry rest ih =>
    obtain ⟨hentry, hrest⟩ := List.forall_mem_cons.mp h
    rw [setEntry, if_neg (Bool.eq_false_iff.mp hentry), ih hrest]
    rfl

section LawfulBEq

variable [BEq κ] [LawfulBEq κ] [DecidableEq κ]

theorem map_fst_setEntry (key : κ) (value : β) (entries : List (κ × β)) :
    (setEntry (· == key) key value entries).map Prod.fst =
      if key ∈ entries.map Prod.fst then entries.map Prod.fst
      else entries.map Prod.fst ++ [key] := by
  induction entries with
  | nil => simp [setEntry]
  | cons entry rest ih =>
    obtain ⟨other, old⟩ := entry
    by_cases same : other = key
    · simp [setEntry, same]
    · have different : ¬ key = other := fun h => same h.symm
      simp only [setEntry, beq_iff_eq, if_neg same, List.map_cons, ih, List.mem_cons, different,
        false_or]
      split <;> simp

theorem nodup_setEntry (key : κ) (value : β) {entries : List (κ × β)}
    (apart : (entries.map Prod.fst).Nodup) :
    ((setEntry (· == key) key value entries).map Prod.fst).Nodup := by
  rw [map_fst_setEntry]
  split
  · exact apart
  · rename_i missing
    refine List.nodup_append.2 ⟨apart, by simp, fun other ho k hk same => missing ?_⟩
    rw [← List.mem_singleton.mp hk, ← same]
    exact ho

theorem lookup_setEntry (key other : κ) (value : β) (entries : List (κ × β)) :
    (setEntry (· == key) key value entries).lookup other =
      if other = key then some value else entries.lookup other := by
  induction entries with
  | nil =>
    by_cases h : other = key
    · simp [setEntry, h]
    · have hb : (other == key) = false := by simpa using h
      simp [setEntry, List.lookup_cons, hb, h]
  | cons entry rest ih =>
    obtain ⟨first, old⟩ := entry
    by_cases hk : first = key
    · subst hk
      by_cases h : other = first
      · simp [setEntry, h]
      · have hb : (other == first) = false := by simpa using h
        simp [setEntry, List.lookup_cons, hb, h]
    · by_cases h : other = first
      · have hn : other ≠ key := fun hh => hk (h.symm.trans hh)
        have hb : (other == first) = true := by simpa using h
        simp [setEntry, List.lookup_cons, hk, hb, if_neg hn]
      · have hb : (other == first) = false := by simpa using h
        simpa only [setEntry, beq_iff_eq, if_neg hk, List.lookup_cons, hb] using ih

theorem setEntry_setEntry_self (key : κ) (old new : β) (entries : List (κ × β)) :
    setEntry (· == key) key new (setEntry (· == key) key old entries) =
      setEntry (· == key) key new entries := by
  induction entries with
  | nil => simp [setEntry]
  | cons entry rest ih =>
    obtain ⟨first, value⟩ := entry
    by_cases h : first = key
    · simp [setEntry, h]
    · simp [setEntry, h, ih]

/-- Two keys may be set in either order if one of them has its place already. -/
theorem setEntry_comm {key other : κ} (hn : other ≠ key) (value new : β)
    {entries : List (κ × β)} (hm : key ∈ entries.map Prod.fst) :
    setEntry (· == other) other new (setEntry (· == key) key value entries) =
      setEntry (· == key) key value (setEntry (· == other) other new entries) := by
  induction entries with
  | nil => simp at hm
  | cons entry rest ih =>
    obtain ⟨first, old⟩ := entry
    by_cases h : first = key
    · subst h
      simp [setEntry, hn.symm]
    · have hr : key ∈ rest.map Prod.fst := by
        simpa [Ne.symm h] using hm
      by_cases ho : first = other
      · simp [setEntry, ho, hn]
      · simp [setEntry, h, ho, ih hr]

theorem setEntry_of_lookup {key : κ} {value : β} {entries : List (κ × β)}
    (h : entries.lookup key = some value) : setEntry (· == key) key value entries = entries := by
  induction entries with
  | nil => simp at h
  | cons entry rest ih =>
    obtain ⟨first, old⟩ := entry
    by_cases hk : first = key
    · subst hk
      have ho : old = value := by simpa using h
      simp [setEntry, ho]
    · have hb : (key == first) = false := by simpa using Ne.symm hk
      rw [List.lookup_cons, hb] at h
      simp [setEntry, hk, ih h]

end LawfulBEq

end Destructure
