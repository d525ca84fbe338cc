import Destructure.Match
import Destructure.Proofs.Value.Confusion

namespace Destructure

namespace Value

def isBytes : Value → Bool
  | .bytes _ _ => true
  | _ => false

def isObject : Value → Bool
  | .object _ _ _ _ => true
  | _ => false

inductive Extends : Value → Value → Prop
  | same {value : Value} (h : (value.isScalar || value.isBytes) = true) : Extends value value
  | sequence {more value : Value} {grown items : List Value} (hm : more.items? = some grown)
      (hv : value.items? = some items) (hlength : items.length ≤ grown.length)
      (hitems : ∀ (i : Nat) (new old : Value), grown[i]? = some new → items[i]? = some old →
        Extends new old) : Extends more value
  | mapping {more value : Value} (hm : more.isMapping = true) (hv : value.isMapping = true)
      (hkeys : ∀ key, (value.item key).isOk = true → (more.item key).isOk = true)
      (hheld : ∀ key new old, more.item key = .ok new → value.item key = .ok old →
        Extends new old) : Extends more value
  | object {more value : Value} (hm : more.isObject = true) (hv : value.isObject = true)
      (hnames : ∀ name, (value.member name).isOk = true → (more.member name).isOk = true)
      (hheld : ∀ name new old, more.member name = .ok new → value.member name = .ok old →
        Extends new old) : Extends more value

variable {more value : Value}

/-- A mapping is no sequence and no scalar. -/
theorem notPlain_of_isMapping (h : value.isMapping = true) :
    (value.isScalar || value.isSequence) = false := by
  cases value <;> first | rfl | nomatch h

/-- An object is no sequence and no scalar. -/
theorem notPlain_of_isObject (h : value.isObject = true) :
    (value.isScalar || value.isSequence) = false := by
  cases value <;> first | rfl | nomatch h

theorem items?_eq_none_of_notPlain (h : (value.isScalar || value.isSequence) = false) :
    value.items? = none :=
  Option.isSome_eq_false_iff.mp (Bool.or_eq_false_iff.mp h).2 |> Option.isNone_iff_eq_none.mp

/-- Only the scalar itself extends a scalar. -/
theorem Extends.eq_of_isScalar (h : more.Extends value) (hs : value.isScalar = true) :
    more = value := by
  have hplain : (value.isScalar || value.isSequence) = true := by rw [hs, Bool.true_or]
  cases h with
  | same _ => rfl
  | sequence _ hv _ _ => cases (items?_of_isScalar hs).symm.trans hv
  | mapping _ hv _ _ => cases (notPlain_of_isMapping hv).symm.trans hplain
  | object _ hv _ _ => cases (notPlain_of_isObject hv).symm.trans hplain

/-- Only a sequence extends a sequence. -/
theorem Extends.exists_items {items : List Value} (h : more.Extends value)
    (hi : value.items? = some items) :
    ∃ grown, more.items? = some grown ∧ items.length ≤ grown.length ∧
      ∀ (i : Nat) (new old : Value), grown[i]? = some new → items[i]? = some old →
        new.Extends old := by
  cases h with
  | same h => cases more <;> first | (cases h; done) | cases hi
  | sequence hm hv hlength hitems =>
    obtain rfl := Option.some.inj (hv.symm.trans hi)
    exact ⟨_, hm, hlength, hitems⟩
  | mapping _ hv _ _ =>
    cases (items?_eq_none_of_notPlain (notPlain_of_isMapping hv)).symm.trans hi
  | object _ hv _ _ =>
    cases (items?_eq_none_of_notPlain (notPlain_of_isObject hv)).symm.trans hi

/-- What keys may be looked up in is extended only by such values. -/
theorem Extends.notPlain (h : more.Extends value)
    (hv : (value.isScalar || value.isSequence) = false) :
    (more.isScalar || more.isSequence) = false := by
  cases h with
  | same _ => exact hv
  | sequence _ hi _ _ => cases (items?_eq_none_of_notPlain hv).symm.trans hi
  | mapping hm _ _ _ => exact notPlain_of_isMapping hm
  | object hm _ _ _ => exact notPlain_of_isObject hm

section Answers

variable {key found : Value} {name : String} {entries : List (Value × Value)}
  {faults : List (Value × Fault)} {fallback : Option Value}

theorem mem_of_heldAt {β : Type} {rows : List (Value × β)} {held : β}
    (h : heldAt rows key = some held) : ∃ other, (other, held) ∈ rows := by
  obtain ⟨row, hrow, rfl⟩ := Option.map_eq_some_iff.mp h
  exact ⟨row.1, List.mem_of_find?_eq_some hrow⟩

theorem mem_of_lookup {rows : List (String × Value)} (h : rows.lookup name = some found) :
    (name, found) ∈ rows := by
  obtain ⟨before, after, rfl, -⟩ := List.lookup_eq_some_iff.mp h
  exact List.mem_append_cons_self

/-- A mapping of plain entries answers for the keys that it holds. -/
theorem item_mapping : (mapping entries).item key = .ok found ↔ heldAt entries key = some found := by
  rw [item]
  cases heldAt entries key <;> simp

/-- What a store answers is held under the key or is the fallback. -/
theorem item_store {type : StoreType} (h : (store type entries faults fallback).item key = .ok found) :
    heldAt entries key = some found ∨ fallback = some found := by
  rw [item] at h
  cases hf : heldAt faults key with
  | some fault =>
    rw [hf] at h
    cases h
  | none =>
    cases he : (heldAt entries key).or fallback with
    | none =>
      rw [hf, he] at h
      cases h
    | some value =>
      rw [hf, he] at h
      cases h
      exact (Option.or_eq_some_iff.mp he).imp_right And.right

theorem member_object {type : ObjectType} {attributes inherited : List (String × Value)}
    {faults : List (String × Fault)}
    (h : (object type attributes inherited faults).member name = .ok found) :
    (name, found) ∈ attributes ++ inherited := by
  rw [member] at h
  cases hf : faults.lookup name with
  | some fault =>
    rw [hf] at h
    cases h
  | none =>
    cases hm : (attributes.lookup name).or (inherited.lookup name) with
    | none =>
      rw [hf, hm] at h
      cases h
    | some value =>
      rw [hf, hm] at h
      cases h
      rcases Option.or_eq_some_iff.mp hm with ha | ⟨-, hi⟩
      · exact List.mem_append_left _ (mem_of_lookup ha)
      · exact List.mem_append_right _ (mem_of_lookup hi)

/-- A lookup finds what a mapping answers for the text, or what another value answers for the
attribute. -/
theorem lookup_eq_ok_iff {text : String} {pattern : Pattern} :
    value.lookup text pattern = .ok found ↔
      (value.isMapping = true ∧ value.item (.text text) = .ok found) ∨
        (value.isMapping = false ∧ value.member text = .ok found) := by
  unfold lookup
  cases value.isMapping with
  | true => cases value.item (.text text) <;> simp [Except.mapError]
  | false => cases value.member text <;> simp [Except.mapError]

end Answers

mutual

/-- Every value extends itself, since what it holds does. -/
theorem extends_refl (v : Value) : v.Extends v := by
  match v with
  | .null | .boolean _ | .number _ | .text _ | .bytes _ _ => exact .same rfl
  | .list items | .tuple items =>
    refine .sequence rfl rfl (Nat.le_refl _) fun i new old hnew hold => ?_
    obtain rfl := Option.some.inj (hnew.symm.trans hold)
    exact extends_items items _ (List.mem_of_getElem? hold)
  | .mapping entries =>
    refine .mapping rfl rfl (fun _ h => h) fun key new old hnew hold => ?_
    obtain rfl := Except.ok.inj (hnew.symm.trans hold)
    obtain ⟨other, hm⟩ := mem_of_heldAt (item_mapping.mp hold)
    exact extends_entries entries _ hm
  | .store type entries faults fallback =>
    refine .mapping rfl rfl (fun _ h => h) fun key new old hnew hold => ?_
    obtain rfl := Except.ok.inj (hnew.symm.trans hold)
    rcases item_store hold with hheld | hfallback
    · obtain ⟨other, hm⟩ := mem_of_heldAt hheld
      exact extends_entries entries _ hm
    · exact extends_fallback fallback _ hfallback
  | .object type attributes inherited faults =>
    refine .object rfl rfl (fun _ h => h) fun name new old hnew hold => ?_
    obtain rfl := Except.ok.inj (hnew.symm.trans hold)
    rcases List.mem_append.mp (member_object hold) with hm | hm
    · exact extends_members attributes _ hm
    · exact extends_members inherited _ hm

theorem extends_items (items : List Value) : ∀ item ∈ items, item.Extends item := by
  match items with
  | [] => exact List.forall_mem_nil _
  | item :: rest => exact List.forall_mem_cons.mpr ⟨extends_refl item, extends_items rest⟩

theorem extends_entries (entries : List (Value × Value)) :
    ∀ entry ∈ entries, entry.2.Extends entry.2 := by
  match entries with
  | [] => exact List.forall_mem_nil _
  | (_, held) :: rest =>
    exact List.forall_mem_cons.mpr ⟨extends_refl held, extends_entries rest⟩

theorem extends_fallback (fallback : Option Value) :
    ∀ value, fallback = some value → value.Extends value := by
  match fallback with
  | none => exact fun _ h => nomatch h
  | some value =>
    intro _ h
    rw [← Option.some.inj h]
    exact extends_refl value

theorem extends_members (members : List (String × Value)) :
    ∀ member ∈ members, member.2.Extends member.2 := by
  match members with
  | [] => exact List.forall_mem_nil _
  | (_, held) :: rest =>
    exact List.forall_mem_cons.mpr ⟨extends_refl held, extends_members rest⟩

end

/-- What is found in a value is found, extended, in a value that extends it. -/
theorem Extends.lookup {key : String} {pattern : Pattern} {found : Value}
    (h : more.Extends value) (hf : value.lookup key pattern = .ok found) :
    ∃ new, more.lookup key pattern = .ok new ∧ new.Extends found := by
  have hanswer {answer : Except Fault Value} (h : answer.isOk = true) : ∃ new, answer = .ok new := by
    cases answer with
    | ok new => exact ⟨new, rfl⟩
    | error _ => cases h
  have hok {answer : Except Fault Value} {old : Value} (h : answer = .ok old) : answer.isOk = true := by
    rw [h]
    rfl
  have hnotMapping {v : Value} (hv : v.isObject = true) : v.isMapping = false := by
    cases v <;> first | rfl | nomatch hv
  cases h with
  | same _ => exact ⟨found, hf, extends_refl found⟩
  | sequence _ hv _ _ => cases value <;> first | (cases hv; done) | nomatch hf
  | mapping hm hv hkeys hheld =>
    obtain ⟨-, hold⟩ | ⟨hn, -⟩ := lookup_eq_ok_iff.mp hf
    · obtain ⟨new, hnew⟩ := hanswer (hkeys _ (hok hold))
      exact ⟨new, lookup_eq_ok_iff.mpr (Or.inl ⟨hm, hnew⟩), hheld _ _ _ hnew hold⟩
    · cases hv.symm.trans hn
  | object hm hv hnames hheld =>
    obtain ⟨hn, -⟩ | ⟨-, hold⟩ := lookup_eq_ok_iff.mp hf
    · cases hn.symm.trans (hnotMapping hv)
    · obtain ⟨new, hnew⟩ := hanswer (hnames _ (hok hold))
      exact ⟨new, lookup_eq_ok_iff.mpr (Or.inr ⟨hnotMapping hm, hnew⟩), hheld _ _ _ hnew hold⟩

/-- A mapping of plain entries is extended by a mapping that answers for each key it holds. -/
theorem extends_mapping_of_held {entries : List (Value × Value)} (hm : more.isMapping = true)
    (h : ∀ key old, heldAt entries key = some old →
      ∃ new, more.item key = .ok new ∧ new.Extends old) : more.Extends (mapping entries) := by
  refine .mapping hm rfl (fun key hkey => ?_) fun key new old hnew hold => ?_
  · cases hold : (mapping entries).item key with
    | error fault =>
      rw [hold] at hkey
      cases hkey
    | ok old =>
      obtain ⟨new, hnew, -⟩ := h key old (item_mapping.mp hold)
      rw [hnew]
      rfl
  · obtain ⟨found, hfound, hextends⟩ := h key old (item_mapping.mp hold)
    obtain rfl := Except.ok.inj (hnew.symm.trans hfound)
    exact hextends

/-- A list is extended by elements at its end, and by what extends its own. -/
theorem extends_list_append {grown items : List Value} (added : List Value)
    (h : List.Forall₂ Extends grown items) : (list (grown ++ added)).Extends (list items) := by
  refine .sequence rfl rfl ?_ fun i new old hnew hold => ?_
  · rw [List.length_append, h.length_eq]
    exact Nat.le_add_right ..
  · have hi : i < grown.length := h.length_eq ▸ (List.getElem?_eq_some_iff.mp hold).1
    rw [List.getElem?_append_left hi] at hnew
    exact forall₂_getElem? h hnew hold

/-- A mapping is extended by entries at its end, and by what extends its own values. -/
theorem extends_mapping_append {grown entries : List (Value × Value)}
    (added : List (Value × Value))
    (h : List.Forall₂ (fun new old => new.1 = old.1 ∧ new.2.Extends old.2) grown entries) :
    (mapping (grown ++ added)).Extends (mapping entries) := by
  refine extends_mapping_of_held rfl fun key old hold => ?_
  simp only [item_mapping]
  unfold heldAt at hold ⊢
  induction h with
  | nil => cases hold
  | cons hentry _ ih =>
    obtain ⟨hkey, hvalue⟩ := hentry
    rw [List.cons_append, List.find?_cons, hkey]
    rw [List.find?_cons] at hold
    split at hold
    · obtain rfl := Option.some.inj hold
      exact ⟨_, rfl, hvalue⟩
    · exact ih hold

end Value

end Destructure
