import Mathlib.Data.List.Dedup
import Destructure.Cache
import Destructure.Proofs.Run

namespace Destructure

@[simp] theorem fingerprint_ofString (text : String) :
    fingerprint text = .ok (Text.Digest.ofString text) := by
  unfold fingerprint
  rw [WideText.encode_ofString]
  rfl

theorem fingerprint_of_encode {text : WideText} {surrogates : Unencodable}
    (h : text.encode = .error surrogates) : fingerprint text = .error (.unencodable surrogates) := by
  unfold fingerprint
  rw [h]
  rfl

/-- The texts that have a fingerprint are those that can be encoded. -/
theorem isOk_fingerprint (text : WideText) : (fingerprint text).isOk = text.encode.isOk := by
  unfold fingerprint
  cases text.encode <;> rfl

def DigestsApart (texts : List String) : Prop :=
  ∀ s ∈ texts, ∀ t ∈ texts, Text.Digest.ofString s = Text.Digest.ofString t → s = t

def FingerprintsApart (texts : List WideText) : Prop :=
  ∀ s ∈ texts, ∀ t ∈ texts, ∀ key, fingerprint s = .ok key → fingerprint t = .ok key → s = t

theorem DigestsApart.fingerprintsApart {texts : List String} (h : DigestsApart texts) :
    FingerprintsApart (texts.map WideText.ofString) := by
  intro s hs t ht key hsk htk
  obtain ⟨first, hfirst, rfl⟩ := List.mem_map.mp hs
  obtain ⟨second, hsecond, rfl⟩ := List.mem_map.mp ht
  rw [fingerprint_ofString] at hsk htk
  rw [h first hfirst second hsecond (Except.ok.inj (hsk.trans htk.symm))]

namespace Cache

variable {α : Type}

def keys (c : Cache α) : List String :=
  c.entries.map Prod.fst

theorem nodup_keys_empty : (empty : Cache α).keys.Nodup :=
  List.nodup_nil

@[simp] theorem entries_countHit (c : Cache α) : c.countHit.entries = c.entries :=
  rfl

@[simp] theorem entries_countMiss (c : Cache α) : c.countMiss.entries = c.entries :=
  rfl

@[simp] theorem entries_store (c : Cache α) (key : String) (entry : α) :
    (c.store key entry).entries = c.entries ++ [(key, entry)] :=
  rfl

@[simp] theorem find?_countHit (c : Cache α) : c.countHit.find? = c.find? :=
  rfl

@[simp] theorem find?_countMiss (c : Cache α) : c.countMiss.find? = c.find? :=
  rfl

@[simp] theorem keys_store (c : Cache α) (key : String) (entry : α) :
    (c.store key entry).keys = c.keys ++ [key] := by
  simp [keys]

theorem length_keys (c : Cache α) : c.keys.length = c.size :=
  List.length_map _

theorem find?_eq_none_iff {c : Cache α} {key : String} : c.find? key = none ↔ key ∉ c.keys := by
  simp only [find?, keys, List.lookup_eq_none_iff, List.mem_map, not_exists, not_and, bne_iff_ne]
  constructor
  · intro h entry hm he
    exact h entry hm he.symm
  · intro h entry hm he
    exact h entry hm he.symm

theorem find?_store (c : Cache α) (key other : String) (entry : α) :
    (c.store key entry).find? other =
      (c.find? other).or (if other = key then some entry else none) := by
  unfold find?
  rw [entries_store, List.lookup_append, List.lookup_cons, List.lookup_nil]
  by_cases same : other = key
  · rw [beq_iff_eq.mpr same, if_pos same]
  · rw [beq_false_of_ne same, if_neg same]

/-- An entry that is found stays found when another one is stored. -/
theorem find?_store_of_eq_some {c : Cache α} {key : String} {entry : α}
    (h : c.find? key = some entry) (other : String) (new : α) :
    (c.store other new).find? key = some entry := by
  rw [find?_store, h, Option.some_or]

/-- The entry of a fingerprint that occurs once is found. -/
theorem find?_of_mem {c : Cache α} (apart : c.keys.Nodup) {key : String} {entry : α}
    (hm : (key, entry) ∈ c.entries) : c.find? key = some entry := by
  obtain ⟨before, after, hs⟩ := List.append_of_mem hm
  have hbefore : key ∉ before.map Prod.fst := by
    rw [keys, hs, List.map_append, List.map_cons] at apart
    have hdisjoint := (List.nodup_append.mp apart).2.2
    intro hk
    exact hdisjoint key hk key (List.mem_cons_self ..) rfl
  apply List.lookup_eq_some_iff.mpr
  refine ⟨before, after, hs, ?_⟩
  intro entry' he
  have hne : entry'.1 ≠ key := by
    rintro rfl
    exact hbefore (List.mem_map_of_mem he)
  exact bne_iff_ne.mpr hne.symm

theorem mem_of_find? {c : Cache α} {key : String} {entry : α} (h : c.find? key = some entry) :
    (key, entry) ∈ c.entries := by
  obtain ⟨before, after, hs, -⟩ := List.lookup_eq_some_iff.mp h
  rw [hs]
  simp

/-- Under fingerprints that occur once, the entry of a fingerprint has one place. -/
theorem place_unique {c : Cache α} (apart : c.keys.Nodup) {place other : Nat} {key : String}
    {entry entry' : α} (h : c.entries[place]? = some (key, entry))
    (h' : c.entries[other]? = some (key, entry')) : other = place := by
  have hkey {place : Nat} {entry : α} (h : c.entries[place]? = some (key, entry)) :
      c.keys[place]? = some key := by
    rw [keys, List.getElem?_map, h]
    rfl
  obtain ⟨hlt, -⟩ := List.getElem?_eq_some_iff.mp (hkey h')
  exact (List.getElem?_inj hlt apart).mp ((hkey h').trans (hkey h).symm)

/-- An entry that is found is found again among the same entries and more, in the same place and in
no other. -/
theorem exists_place {c later : Cache α} (apart : later.keys.Nodup)
    (hkept : c.entries <+: later.entries) {key : String} {entry : α}
    (h : c.find? key = some entry) :
    later.find? key = some entry ∧
      ∃ place : Nat, c.entries[place]? = some (key, entry) ∧
        later.entries[place]? = some (key, entry) ∧
        ∀ (other : Nat) entry', later.entries[other]? = some (key, entry') → other = place := by
  have hentry := mem_of_find? h
  obtain ⟨place, hplace⟩ := List.mem_iff_getElem?.mp hentry
  have hlater : later.entries[place]? = some (key, entry) := by
    obtain ⟨rest, hrest⟩ := hkept
    rw [← hrest, List.getElem?_append_left (List.getElem?_eq_some_iff.mp hplace).1]
    exact hplace
  refine ⟨find?_of_mem apart (hkept.subset hentry), place, hplace, hlater, ?_⟩
  intro other entry' ho
  exact place_unique apart hlater ho

section Request

variable {c : Cache α} {key : String} {made : Except Failure α}

/-- What a request answers and leaves behind: an entry that is there, one that has been made, or the
failure to make it. -/
theorem request_cases (c : Cache α) (key : String) (made : Except Failure α) :
    (∃ entry, c.find? key = some entry ∧ c.request key made = (.ok entry, c.countHit)) ∨
      (∃ entry, c.find? key = none ∧ made = .ok entry ∧
        c.request key made = (.ok entry, c.countMiss.store key entry)) ∨
      ∃ failure, c.find? key = none ∧ made = .error failure ∧
        c.request key made = (.error failure, c.countMiss) := by
  unfold request
  cases hf : c.find? key with
  | some entry => exact Or.inl ⟨entry, rfl, rfl⟩
  | none =>
    cases made with
    | ok entry => exact Or.inr (Or.inl ⟨entry, rfl, rfl, rfl⟩)
    | error failure => exact Or.inr (Or.inr ⟨failure, rfl, rfl, rfl⟩)

theorem request_of_find? {entry : α} (h : c.find? key = some entry) :
    c.request key made = (.ok entry, c.countHit) := by
  unfold request
  rw [h]

/-- A request is answered by the entry that is there, and else by what is made for it. -/
theorem fst_request (c : Cache α) (key : String) (made : Except Failure α) :
    (c.request key made).1 = (match c.find? key with
      | some entry => .ok entry
      | none => made) := by
  obtain ⟨entry, hf, h⟩ | ⟨entry, hf, hm, h⟩ | ⟨failure, hf, hm, h⟩ := request_cases c key made
  · rw [h, hf]
  · rw [h, hf, hm]
  · rw [h, hf, hm]

theorem find?_request_of_ne {other : String} (hne : other ≠ key) :
    (c.request key made).2.find? other = c.find? other := by
  obtain ⟨entry, hf, h⟩ | ⟨entry, hf, hm, h⟩ | ⟨failure, hf, hm, h⟩ := request_cases c key made
  · rw [h, find?_countHit]
  · rw [h, find?_store, if_neg hne, Option.or_none, find?_countMiss]
  · rw [h, find?_countMiss]

/-- After a request the entry that it was answered with is there. -/
theorem find?_request_self :
    (c.request key made).2.find? key = (c.request key made).1.toOption := by
  obtain ⟨entry, hf, h⟩ | ⟨entry, hf, hm, h⟩ | ⟨failure, hf, hm, h⟩ := request_cases c key made
  · rw [h, find?_countHit, hf]
    rfl
  · rw [h, find?_store, if_pos rfl, find?_countMiss, hf]
    rfl
  · rw [h, find?_countMiss, hf]
    rfl

theorem entries_isPrefix_request : c.entries <+: (c.request key made).2.entries := by
  obtain ⟨entry, hf, h⟩ | ⟨entry, hf, hm, h⟩ | ⟨failure, hf, hm, h⟩ := request_cases c key made
  · rw [h]
    exact List.prefix_refl _
  · rw [h]
    exact List.prefix_append _ _
  · rw [h]
    exact List.prefix_refl _

theorem nodup_keys_store {entry : α} (hf : c.find? key = none) (apart : c.keys.Nodup) :
    (c.store key entry).keys.Nodup := by
  rw [keys_store, List.nodup_append]
  refine ⟨apart, List.nodup_singleton key, ?_⟩
  intro a ha b hb hab
  obtain rfl := List.mem_singleton.mp hb
  exact find?_eq_none_iff.mp hf (hab ▸ ha)

theorem nodup_keys_request (apart : c.keys.Nodup) : (c.request key made).2.keys.Nodup := by
  obtain ⟨entry, hf, h⟩ | ⟨entry, hf, hm, h⟩ | ⟨failure, hf, hm, h⟩ := request_cases c key made
  · rw [h]
    exact apart
  · rw [h]
    exact nodup_keys_store (c := c.countMiss) hf apart
  · rw [h]
    exact apart

theorem mem_keys_request {other : String} :
    other ∈ (c.request key made).2.keys ↔
      other ∈ c.keys ∨ other = key ∧ (c.request key made).1.isOk = true := by
  obtain ⟨entry, hf, h⟩ | ⟨entry, hf, hm, h⟩ | ⟨failure, hf, hm, h⟩ := request_cases c key made
  · have hk : key ∈ c.keys := by
      by_contra hn
      rw [find?_eq_none_iff.mpr hn] at hf
      cases hf
    rw [h]
    constructor
    · exact Or.inl
    · rintro (ho | ⟨rfl, -⟩)
      · exact ho
      · exact hk
  · rw [h, keys_store, List.mem_append, List.mem_singleton]
    simp [keys, Except.isOk, Except.toBool]
  · rw [h]
    simp [keys, Except.isOk, Except.toBool]

/-- Every request counts once. -/
theorem count_request (c : Cache α) (key : String) (made : Except Failure α) :
    (c.request key made).2.hits + (c.request key made).2.misses = c.hits + c.misses + 1 := by
  obtain ⟨entry, hf, h⟩ | ⟨entry, hf, hm, h⟩ | ⟨failure, hf, hm, h⟩ := request_cases c key made
  · rw [h]
    simp only [countHit]
    omega
  · rw [h]
    simp only [countMiss, store]
    omega
  · rw [h]
    simp only [countMiss]
    omega

/-- A miss leads to a new entry, unless it could not be made. -/
theorem misses_request (c : Cache α) (key : String) (made : Except Failure α) :
    (c.request key made).2.misses + c.size =
      c.misses + (c.request key made).2.size + (if (c.request key made).1.isOk then 0 else 1) := by
  obtain ⟨entry, hf, h⟩ | ⟨entry, hf, hm, h⟩ | ⟨failure, hf, hm, h⟩ := request_cases c key made
  · rw [h]
    simp [countHit, size, Except.isOk, Except.toBool]
  · rw [h]
    simp only [countMiss, store, size, Except.isOk, Except.toBool, List.length_append,
      List.length_singleton, if_true]
    omega
  · rw [h]
    simp only [countMiss, size, Except.isOk, Except.toBool]
    simp
    omega

/-- A request changes the answer to no later one, unless two requests with one fingerprint would be
answered differently. -/
theorem fst_request_request {other : String} {made' : Except Failure α}
    (h : other = key → made' = made) :
    ((c.request key made).2.request other made').1 = (c.request other made').1 := by
  rw [fst_request, fst_request]
  by_cases same : other = key
  · obtain rfl := same
    obtain rfl := h rfl
    rw [find?_request_self, fst_request]
    cases hf : c.find? other with
    | some entry => rfl
    | none => cases made' <;> rfl
  · rw [find?_request_of_ne same]

end Request

section RequestText

variable {c : Cache α} {make : WideText → Except Failure α} {text : WideText}

theorem requestText_of_fingerprint {key : String} (h : fingerprint text = .ok key) :
    c.requestText make text = c.request key (make text) := by
  unfold requestText
  rw [h]

theorem requestText_of_error {failure : Failure} (h : fingerprint text = .error failure) :
    c.requestText make text = (.error failure, c) := by
  unfold requestText
  rw [h]

/-- A text is requested by its fingerprint, or else it has none and nothing is requested. -/
theorem requestText_cases (c : Cache α) (make : WideText → Except Failure α) (text : WideText) :
    (∃ key, fingerprint text = .ok key ∧
      c.requestText make text = c.request key (make text)) ∨
    ∃ failure, fingerprint text = .error failure ∧
      c.requestText make text = (.error failure, c) := by
  cases h : fingerprint text with
  | ok key => exact Or.inl ⟨key, rfl, requestText_of_fingerprint h⟩
  | error failure => exact Or.inr ⟨failure, rfl, requestText_of_error h⟩

theorem entries_isPrefix_requestText : c.entries <+: (c.requestText make text).2.entries := by
  obtain ⟨key, -, hr⟩ | ⟨failure, -, hr⟩ := requestText_cases c make text
  · rw [hr]
    exact entries_isPrefix_request
  · have hsame : (c.requestText make text).2 = c := congrArg Prod.snd hr
    simp only [hsame, List.prefix_refl]

theorem nodup_keys_requestText (apart : c.keys.Nodup) :
    (c.requestText make text).2.keys.Nodup := by
  obtain ⟨key, -, hr⟩ | ⟨failure, -, hr⟩ := requestText_cases c make text
  · rw [hr]
    exact nodup_keys_request apart
  · rw [hr]
    exact apart

theorem mem_keys_requestText {key : String} :
    key ∈ (c.requestText make text).2.keys ↔
      key ∈ c.keys ∨ fingerprint text = .ok key ∧ (c.requestText make text).1.isOk = true := by
  obtain ⟨found, hf, hr⟩ | ⟨failure, hf, hr⟩ := requestText_cases c make text
  · rw [hr, mem_keys_request, hf]
    simp only [Except.ok.injEq, eq_comm]
  · rw [hr, hf]
    simp

/-- Every request counts once, unless the text cannot be encoded. -/
theorem count_requestText (c : Cache α) (make : WideText → Except Failure α) (text : WideText) :
    (c.requestText make text).2.hits + (c.requestText make text).2.misses +
        (if text.encode.isOk then 0 else 1) = c.hits + c.misses + 1 := by
  rw [← isOk_fingerprint]
  obtain ⟨key, hf, hr⟩ | ⟨failure, hf, hr⟩ := requestText_cases c make text
  · rw [hr, count_request, hf]
    rfl
  · rw [hr, hf]
    rfl

theorem misses_requestText (c : Cache α) (make : WideText → Except Failure α) (text : WideText) :
    (c.requestText make text).2.misses + c.size =
      c.misses + (c.requestText make text).2.size +
        (if text.encode.isOk && !(c.requestText make text).1.isOk then 1 else 0) := by
  rw [← isOk_fingerprint]
  obtain ⟨key, hf, hr⟩ | ⟨failure, hf, hr⟩ := requestText_cases c make text
  · rw [hr, misses_request, hf]
    cases (c.request key (make text)).1 <;> rfl
  · rw [hr, hf]
    rfl

/-- A request changes the answer to no later one, unless another text has the same fingerprint. -/
theorem fst_requestText_requestText {other : WideText}
    (apart : ∀ key, fingerprint other = .ok key → fingerprint text = .ok key → other = text) :
    ((c.requestText make other).2.requestText make text).1 = (c.requestText make text).1 := by
  obtain ⟨key, hf, hr⟩ | ⟨failure, hf, hr⟩ := requestText_cases c make text
  · rw [hr, requestText_of_fingerprint hf]
    obtain ⟨key', hf', hr'⟩ | ⟨failure, -, hr'⟩ := requestText_cases c make other
    · rw [hr']
      apply fst_request_request
      rintro rfl
      rw [apart key hf' hf]
    · rw [hr']
  · rw [hr, requestText_of_error hf]

end RequestText

section RequestAll

variable (make : WideText → Except Failure α)

def requestAll (c : Cache α) (texts : List WideText) : Cache α :=
  texts.foldl (fun c text => (c.requestText make text).2) c

def log (c : Cache α) : List WideText → List (WideText × Except Failure α)
  | [] => []
  | text :: rest =>
    let (answer, c) := c.requestText make text
    (text, answer) :: c.log rest

def answeredKeys (entries : List (WideText × Except Failure α)) : List String :=
  (entries.filter fun entry => entry.2.isOk).filterMap fun entry => (fingerprint entry.1).toOption

@[simp] theorem requestAll_nil (c : Cache α) : c.requestAll make [] = c :=
  rfl

@[simp] theorem requestAll_cons (c : Cache α) (text : WideText) (rest : List WideText) :
    c.requestAll make (text :: rest) = (c.requestText make text).2.requestAll make rest :=
  rfl

theorem requestAll_append (c : Cache α) (texts more : List WideText) :
    c.requestAll make (texts ++ more) = (c.requestAll make texts).requestAll make more :=
  List.foldl_append

@[simp] theorem log_cons (c : Cache α) (text : WideText) (rest : List WideText) :
    c.log make (text :: rest) =
      (text, (c.requestText make text).1) :: (c.requestText make text).2.log make rest :=
  rfl

/-- Entries that are there stay there, in their places. -/
theorem entries_isPrefix_requestAll (c : Cache α) (texts : List WideText) :
    c.entries <+: (c.requestAll make texts).entries := by
  induction texts generalizing c with
  | nil => exact List.prefix_refl _
  | cons text rest ih => exact entries_isPrefix_requestText.trans (ih _)

theorem nodup_keys_requestAll {c : Cache α} (apart : c.keys.Nodup) (texts : List WideText) :
    (c.requestAll make texts).keys.Nodup := by
  induction texts generalizing c with
  | nil => exact apart
  | cons text rest ih => exact ih (nodup_keys_requestText apart)

/-- Every request for a text that can be encoded counts once. -/
theorem count_requestAll (c : Cache α) (texts : List WideText) :
    (c.requestAll make texts).hits + (c.requestAll make texts).misses +
        (texts.countP fun text => !text.encode.isOk) =
      c.hits + c.misses + texts.length := by
  induction texts generalizing c with
  | nil => rfl
  | cons text rest ih =>
    have hstep := count_requestText c make text
    have hrest := ih (c.requestText make text).2
    rw [requestAll_cons, List.countP_cons, List.length_cons]
    cases h : text.encode.isOk with
    | true =>
      rw [h] at hstep
      simp only [if_true] at hstep
      simp only [Bool.not_true, Bool.false_eq_true, if_false]
      omega
    | false =>
      rw [h] at hstep
      simp only [Bool.false_eq_true, if_false] at hstep
      simp only [Bool.not_false, if_true]
      omega

theorem misses_requestAll (c : Cache α) (texts : List WideText) :
    (c.requestAll make texts).misses + c.size =
      c.misses + (c.requestAll make texts).size +
        (c.log make texts).countP fun entry => entry.1.encode.isOk && !entry.2.isOk := by
  induction texts generalizing c with
  | nil => rfl
  | cons text rest ih =>
    have hstep := misses_requestText c make text
    have hrest := ih (c.requestText make text).2
    rw [requestAll_cons, log_cons, List.countP_cons]
    dsimp only
    cases h : text.encode.isOk && !(c.requestText make text).1.isOk with
    | true =>
      rw [h] at hstep
      simp only [if_true] at hstep ⊢
      omega
    | false =>
      rw [h] at hstep
      simp only [Bool.false_eq_true, if_false] at hstep ⊢
      omega

theorem mem_answeredKeys {entries : List (WideText × Except Failure α)} {key : String} :
    key ∈ answeredKeys entries ↔
      ∃ entry ∈ entries, fingerprint entry.1 = .ok key ∧ entry.2.isOk = true := by
  simp only [answeredKeys, List.mem_filterMap, List.mem_filter, Run.toOption_eq_some, and_assoc,
    and_comm]

theorem mem_keys_requestAll (c : Cache α) (texts : List WideText) {key : String} :
    key ∈ (c.requestAll make texts).keys ↔
      key ∈ c.keys ∨ key ∈ answeredKeys (c.log make texts) := by
  induction texts generalizing c with
  | nil => simp [log, answeredKeys]
  | cons text rest ih =>
    rw [requestAll_cons, ih, mem_keys_requestText, log_cons, or_assoc]
    apply or_congr_right
    rw [mem_answeredKeys, mem_answeredKeys, List.exists_mem_cons_iff]

/-- From the beginning on, there are as many entries as fingerprints that were answered with one. -/
theorem size_requestAll_empty (texts : List WideText) :
    ((empty : Cache α).requestAll make texts).size =
      (answeredKeys ((empty : Cache α).log make texts)).dedup.length := by
  have hapart : ((empty : Cache α).requestAll make texts).keys.Nodup :=
    nodup_keys_requestAll make nodup_keys_empty texts
  have hsame (key : String) : key ∈ ((empty : Cache α).requestAll make texts).keys ↔
      key ∈ (answeredKeys ((empty : Cache α).log make texts)).dedup := by
    rw [mem_keys_requestAll, List.mem_dedup]
    constructor
    · rintro (h | h)
      · cases h
      · exact h
    · exact Or.inr
  have hperm := (List.perm_ext_iff_of_nodup hapart (List.nodup_dedup _)).mpr hsame
  rw [← length_keys, hperm.length_eq]

/-- What has been requested before changes no answer, unless a text before has the same fingerprint
and is not the same. -/
theorem fst_requestText_requestAll (c : Cache α) {texts : List WideText} {text : WideText}
    (apart : ∀ other ∈ texts, ∀ key, fingerprint other = .ok key → fingerprint text = .ok key →
      other = text) :
    ((c.requestAll make texts).requestText make text).1 = (c.requestText make text).1 := by
  induction texts generalizing c with
  | nil => rfl
  | cons other rest ih =>
    rw [requestAll_cons, ih _ fun t ht => apart t (List.mem_cons_of_mem _ ht)]
    exact fst_requestText_requestText (apart other (List.mem_cons_self ..))

end RequestAll

end Cache

end Destructure
