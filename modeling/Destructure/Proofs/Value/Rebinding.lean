import Destructure.Condition
import Destructure.Match
import Destructure.Proofs.Number.Exact
import Destructure.Proofs.Value.Equality

namespace Destructure

namespace Value

def isNaN : Value → Bool
  | .number (.float x) => x.isNaN
  | _ => false

mutual

def leaves : Value → List Value
  | .list items | .tuple items => leavesOfItems items
  | v => [v]

def leavesOfItems : List Value → List Value
  | [] => []
  | item :: rest => item.leaves ++ leavesOfItems rest

end

theorem leavesOfItems_eq (items : List Value) : leavesOfItems items = items.flatMap leaves := by
  induction items with
  | nil => rfl
  | cons item rest ih => rw [leavesOfItems, ih, List.flatMap_cons]

theorem leaves_of_items?_eq_some {v : Value} {items : List Value} (h : v.items? = some items) :
    v.leaves = items.flatMap leaves := by
  cases v with
  | list _ | tuple _ =>
    obtain rfl := Option.some.inj h
    rw [leaves, leavesOfItems_eq]
  | _ => cases h

theorem leaves_of_items?_eq_none {v : Value} (h : v.items? = none) : v.leaves = [v] := by
  cases v with
  | list _ | tuple _ => cases h
  | _ => rfl

mutual

/-- Induction over values, from the elements of a sequence to the sequence. -/
theorem induction_items {motive : Value → Prop} (leaf : ∀ v, v.items? = none → motive v)
    (sequence : ∀ v items, v.items? = some items → (∀ item ∈ items, motive item) → motive v)
    (v : Value) : motive v := by
  match v with
  | .list items => exact sequence (.list items) items rfl (forall_items leaf sequence items)
  | .tuple items => exact sequence (.tuple items) items rfl (forall_items leaf sequence items)
  | .null | .boolean _ | .number _ | .text _ | .mapping _ | .store _ _ _ _ | .bytes _ _
  | .object _ _ _ _ => exact leaf _ rfl

theorem forall_items {motive : Value → Prop} (leaf : ∀ v, v.items? = none → motive v)
    (sequence : ∀ v items, v.items? = some items → (∀ item ∈ items, motive item) → motive v)
    (items : List Value) : ∀ item ∈ items, motive item := by
  match items with
  | [] => exact fun item h => nomatch h
  | item :: rest =>
    exact List.forall_mem_cons.mpr
      ⟨induction_items leaf sequence item, forall_items leaf sequence rest⟩

end

theorem isScalar_of_scalarsEqual {a b : Value} (h : scalarsEqual a b = true) :
    a.isScalar = true ∧ b.isScalar = true := by
  cases a with
  | null | boolean _ | number _ | text _ =>
    cases b with
    | null | boolean _ | number _ | text _ => exact ⟨rfl, rfl⟩
    | _ => cases h
  | _ => cases h

theorem items?_of_isScalar {v : Value} (h : v.isScalar = true) : v.items? = none := by
  cases v with
  | list _ | tuple _ => cases h
  | _ => rfl

/-- Equality of scalars goes over to a third one, numbers being compared exactly. -/
theorem scalarsEqual_trans {a b c : Value} (hab : scalarsEqual a b = true)
    (hbc : scalarsEqual b c = true) : scalarsEqual a c = true := by
  cases a with
  | null =>
    cases b with
    | null => exact hbc
    | _ => cases hab
  | boolean p =>
    cases b with
    | boolean q =>
      obtain rfl : p = q := eq_of_beq hab
      exact hbc
    | _ => cases hab
  | number m =>
    cases b with
    | number n =>
      cases c with
      | number k => exact Number.eq_trans hab hbc
      | _ => cases hbc
    | _ => cases hab
  | text s =>
    cases b with
    | text t =>
      obtain rfl : s = t := eq_of_beq hab
      exact hbc
    | _ => cases hab
  | _ => cases hab

/-- NaN is the one scalar that does not equal itself. -/
theorem scalarsEqual_self_iff (v : Value) :
    scalarsEqual v v = true ↔ v.isScalar = true ∧ v.isNaN = false := by
  cases v with
  | null => exact iff_of_true rfl ⟨rfl, rfl⟩
  | boolean b => exact iff_of_true BEq.rfl ⟨rfl, rfl⟩
  | text s => exact iff_of_true BEq.rfl ⟨rfl, rfl⟩
  | number n =>
    have hself : scalarsEqual (.number n) (.number n) = true ↔
        ∃ v, n.exactValue? = some v ∧ n.exactValue? = some v := Number.eq_iff_exactValue?
    rw [hself]
    cases n with
    | integer k => exact iff_of_true ⟨_, rfl, rfl⟩ ⟨rfl, rfl⟩
    | float x =>
      rw [Number.exactValue?, isScalar, isNaN, Binary64.exactValue?]
      cases x.isNaN with
      | true => simp
      | false => cases x.isInfinite <;> simp
  | _ => exact iff_of_false Bool.false_ne_true fun h => Bool.false_ne_true h.1

section Equal

/-- A scalar equals what is a scalar of the same kind and value. -/
theorem equal_of_scalar {a : Value} (ha : a.isScalar = true) (b : Value) :
    equal a b = .ok (scalarsEqual a b) := by
  cases a with
  | null | boolean _ | number _ | text _ => cases b <;> rfl
  | _ => cases ha

theorem equal_of_items? {a : Value} {as : List Value} (ha : a.items? = some as) (b : Value) :
    equal a b =
      match b.items? with
      | some bs => if as.length = bs.length then allEqual as bs else .ok false
      | none => .ok false := by
  cases a with
  | list _ | tuple _ =>
    obtain rfl := Option.some.inj ha
    cases b <;> rfl
  | _ => cases ha

theorem allEqual_cons_iff {a b : Value} {as bs : List Value} :
    allEqual (a :: as) (b :: bs) = .ok true ↔
      equal a b = .ok true ∧ allEqual as bs = .ok true := by
  rw [allEqual]
  exact guarded_eq_ok_true

theorem allEqual_iff_forall₂ {as bs : List Value} :
    as.length = bs.length ∧ allEqual as bs = .ok true ↔
      List.Forall₂ (fun a b => equal a b = .ok true) as bs :=
  length_eq_and_iff_forall₂ (P := fun as bs => allEqual as bs = .ok true) rfl
    fun _ _ _ _ => allEqual_cons_iff

/-- Sequences are equal just if they are so element by element, lists and tuples alike. -/
theorem equal_iff_of_items? {a : Value} {as : List Value} (ha : a.items? = some as) (b : Value) :
    equal a b = .ok true ↔
      ∃ bs, b.items? = some bs ∧ List.Forall₂ (fun a b => equal a b = .ok true) as bs := by
  rw [equal_of_items? ha]
  cases b.items? with
  | none => exact iff_of_false (fun h => nomatch h) fun ⟨bs, h, _⟩ => nomatch h
  | some bs =>
    simp only [Option.some.injEq, exists_eq_left', ← allEqual_iff_forall₂]
    exact ite_eq_ok_true_iff

end Equal

end Value

namespace Binding

open Value

def Agrees (existing value : Value) : Prop :=
  ∀ key, check key existing value = .ok ()

theorem check_of_leaf {existing : Value} (h : existing.items? = none) (key : String)
    (value : Value) : check key existing value = .ok () ↔ scalarsEqual existing value = true := by
  have hother : check key existing value = checkOther key existing value := by
    cases existing with
    | list _ | tuple _ => cases h
    | _ => rfl
  rw [hother, checkOther]
  split
  · split
    · exact iff_of_true rfl ‹_›
    · exact iff_of_false (fun h => nomatch h) ‹_›
  · rename_i hscalar
    have hnot : ¬ scalarsEqual existing value = true := by
      intro he
      obtain ⟨ha, hb⟩ := isScalar_of_scalarsEqual he
      exact hscalar (by rw [ha, hb]; rfl)
    split <;> exact iff_of_false (fun h => nomatch h) hnot

theorem check_of_items? {existing : Value} {as : List Value} (h : existing.items? = some as)
    (key : String) (value : Value) :
    check key existing value = .ok () ↔
      ∃ bs, value.items? = some bs ∧ as.length = bs.length ∧ checkItems key 0 as bs = .ok () := by
  have hcheck : check key existing value =
      match value.items? with
      | some bs =>
        if as.length = bs.length then checkItems key 0 as bs
        else .error (.ofMismatch (.otherLength key existing value as.length bs.length))
      | none => .error (.ofMismatch (.otherShape key existing value)) := by
    cases existing with
    | list _ | tuple _ =>
      obtain rfl := Option.some.inj h
      unfold check
      cases value.items? <;> rfl
    | _ => cases h
  rw [hcheck]
  cases value.items? with
  | none => exact iff_of_false (fun h => nomatch h) fun ⟨bs, h, _⟩ => nomatch h
  | some bs =>
    simp only [Option.some.injEq, exists_eq_left']
    split
    · rename_i hlength
      exact ⟨fun h => ⟨hlength, h⟩, fun h => h.2⟩
    · rename_i hlength
      exact iff_of_false (fun h => nomatch h) fun h => hlength h.1

theorem checkItems_cons_iff {key : String} {index : Nat} {a b : Value} {as bs : List Value} :
    checkItems key index (a :: as) (b :: bs) = .ok () ↔
      check (elementKey key index) a b = .ok () ∧ checkItems key (index + 1) as bs = .ok () := by
  rw [checkItems]
  cases check (elementKey key index) a b with
  | error failure => exact iff_of_false (fun h => nomatch h) fun h => nomatch h.1
  | ok u => exact ⟨fun h => ⟨rfl, h⟩, fun h => h.2⟩

/-- The key is for messages only, if it is so for the elements. -/
theorem checkItems_congr {as : List Value}
    (ih : ∀ a ∈ as, ∀ key key' b, check key a b = .ok () → check key' a b = .ok ())
    {key key' : String} {index index' : Nat} {bs : List Value}
    (h : checkItems key index as bs = .ok ()) : checkItems key' index' as bs = .ok () := by
  induction as generalizing index index' bs with
  | nil => rfl
  | cons a as ihs =>
    cases bs with
    | nil => rfl
    | cons b bs =>
      obtain ⟨hhead, hrest⟩ := List.forall_mem_cons.mp ih
      rw [checkItems_cons_iff] at h ⊢
      exact ⟨hhead _ _ b h.1, ihs hrest h.2⟩

theorem check_congr {existing value : Value} {key : String} (key' : String)
    (h : check key existing value = .ok ()) : check key' existing value = .ok () := by
  induction existing using induction_items generalizing value key key' with
  | leaf existing hleaf =>
    rw [check_of_leaf hleaf] at h ⊢
    exact h
  | sequence existing items hitems ih =>
    rw [check_of_items? hitems] at h ⊢
    obtain ⟨bs, hb, hlength, hall⟩ := h
    have hcongr : checkItems key' 0 items bs = .ok () :=
      checkItems_congr (fun a ha key key' b => ih a ha key') hall
    exact ⟨bs, hb, hlength, hcongr⟩

theorem check_iff_agrees (key : String) (existing value : Value) :
    check key existing value = .ok () ↔ Agrees existing value :=
  ⟨fun h key' => check_congr key' h, fun h => h key⟩

theorem checkItems_iff_forall₂ {key : String} (index : Nat) {as bs : List Value} :
    as.length = bs.length ∧ checkItems key index as bs = .ok () ↔ List.Forall₂ Agrees as bs := by
  induction as generalizing index bs with
  | nil =>
    cases bs with
    | nil => exact iff_of_true ⟨rfl, rfl⟩ .nil
    | cons b bs => exact iff_of_false (fun h => nomatch h.1) fun h => nomatch h
  | cons a as ih =>
    cases bs with
    | nil => exact iff_of_false (fun h => nomatch h.1) fun h => nomatch h
    | cons b bs =>
      rw [List.forall₂_cons, ← ih (index + 1), checkItems_cons_iff, check_iff_agrees,
        List.length_cons, List.length_cons, Nat.add_right_cancel_iff]
      exact and_left_comm

/-- What follows for each element of the first row follows for the rows. -/
theorem forall₂_of_mem {R S : Value → Value → Prop} {as bs : List Value}
    (ih : ∀ a ∈ as, ∀ b, R a b → S a b) (h : List.Forall₂ R as bs) : List.Forall₂ S as bs := by
  have hboth : List.Forall₂ (fun a b => (∀ b, R a b → S a b) ∧ R a b) as bs :=
    (List.forall₂_and_left ..).mpr ⟨ih, h⟩
  exact hboth.imp fun a b hab => hab.1 b hab.2

/-- What is no sequence agrees with a scalar of the same kind and value. -/
theorem agrees_of_leaf {existing : Value} (h : existing.items? = none) (value : Value) :
    Agrees existing value ↔ scalarsEqual existing value = true := by
  rw [← check_iff_agrees "", check_of_leaf h]

/-- Sequences agree just if they do so element by element, lists and tuples alike. -/
theorem agrees_of_items? {existing : Value} {as : List Value} (h : existing.items? = some as)
    (value : Value) :
    Agrees existing value ↔ ∃ bs, value.items? = some bs ∧ List.Forall₂ Agrees as bs := by
  rw [← check_iff_agrees "", check_of_items? h]
  simp only [checkItems_iff_forall₂]

theorem agrees_symm {a b : Value} (h : Agrees a b) : Agrees b a := by
  induction a using induction_items generalizing b with
  | leaf a ha =>
    rw [agrees_of_leaf ha] at h
    have hb : b.items? = none := items?_of_isScalar (isScalar_of_scalarsEqual h).2
    rw [agrees_of_leaf hb, scalarsEqual_symm]
    exact h
  | sequence a as ha ih =>
    obtain ⟨bs, hb, hall⟩ := (agrees_of_items? ha b).mp h
    have hback : List.Forall₂ (fun a b => Agrees b a) as bs :=
      forall₂_of_mem (fun a h b => ih a h) hall
    rw [agrees_of_items? hb]
    exact ⟨as, ha, hback.flip⟩

theorem agrees_trans {a b c : Value} (hab : Agrees a b) (hbc : Agrees b c) : Agrees a c := by
  induction a using induction_items generalizing b c with
  | leaf a ha =>
    rw [agrees_of_leaf ha] at hab ⊢
    have hb : b.items? = none := items?_of_isScalar (isScalar_of_scalarsEqual hab).2
    rw [agrees_of_leaf hb] at hbc
    exact scalarsEqual_trans hab hbc
  | sequence a as ha ih =>
    obtain ⟨bs, hb, habs⟩ := (agrees_of_items? ha b).mp hab
    obtain ⟨cs, hc, hbcs⟩ := (agrees_of_items? hb c).mp hbc
    rw [agrees_of_items? ha]
    refine ⟨cs, hc, ?_⟩
    clear ha hb hc hab hbc
    induction habs generalizing cs with
    | nil => exact hbcs
    | cons hhead _ ihs =>
      obtain ⟨hfirst, hrest⟩ := List.forall_mem_cons.mp ih
      obtain ⟨c, cs, hhead', htail', rfl⟩ := List.forall₂_cons_left_iff.mp hbcs
      exact .cons (hfirst hhead hhead') (ihs hrest cs htail')

/-- A value agrees with itself just if it is built from scalars other than NaN. -/
theorem agrees_self_iff (a : Value) :
    Agrees a a ↔ ∀ leaf ∈ a.leaves, leaf.isScalar = true ∧ leaf.isNaN = false := by
  induction a using induction_items with
  | leaf a ha =>
    rw [agrees_of_leaf ha, scalarsEqual_self_iff, leaves_of_items?_eq_none ha]
    simp only [List.mem_singleton, forall_eq]
  | sequence a as ha ih =>
    have hself : List.Forall₂ Agrees as as ↔ ∀ item ∈ as, Agrees item item := by
      clear ha ih
      induction as with
      | nil => exact iff_of_true .nil fun item h => nomatch h
      | cons item rest ih => rw [List.forall₂_cons, ih, List.forall_mem_cons]
    rw [agrees_of_items? ha, ha, leaves_of_items?_eq_some ha]
    simp only [Option.some.injEq, exists_eq_left', hself, List.mem_flatMap, forall_exists_index,
      and_imp]
    constructor
    · intro h leaf item hi hl
      exact (ih item hi).mp (h item hi) leaf hl
    · intro h item hi
      exact (ih item hi).mpr fun leaf hl => h leaf item hi hl

/-- What agrees is equal in conditions. -/
theorem equal_of_agrees {a b : Value} (h : Agrees a b) : equal a b = .ok true := by
  induction a using induction_items generalizing b with
  | leaf a ha =>
    rw [agrees_of_leaf ha] at h
    rw [equal_of_scalar (isScalar_of_scalarsEqual h).1, h]
  | sequence a as ha ih =>
    obtain ⟨bs, hb, hall⟩ := (agrees_of_items? ha b).mp h
    rw [equal_iff_of_items? ha]
    exact ⟨bs, hb, forall₂_of_mem (fun a h b => ih a h) hall⟩

/-- What is equal in conditions agrees, if it is built from scalars. -/
theorem agrees_of_equal {a b : Value} (hscalars : ∀ leaf ∈ a.leaves, leaf.isScalar = true)
    (h : equal a b = .ok true) : Agrees a b := by
  induction a using induction_items generalizing b with
  | leaf a ha =>
    rw [leaves_of_items?_eq_none ha] at hscalars
    rw [equal_of_scalar (hscalars a (List.mem_singleton.mpr rfl))] at h
    rw [agrees_of_leaf ha]
    exact Except.ok.inj h
  | sequence a as ha ih =>
    rw [leaves_of_items?_eq_some ha] at hscalars
    obtain ⟨bs, hb, hall⟩ := (equal_iff_of_items? ha b).mp h
    have hitem (item : Value) (hi : item ∈ as) : ∀ leaf ∈ item.leaves, leaf.isScalar = true :=
      fun leaf hl => hscalars leaf (List.mem_flatMap.mpr ⟨item, hi, hl⟩)
    rw [agrees_of_items? ha]
    exact ⟨bs, hb, forall₂_of_mem (fun a h b => ih a h (hitem a h)) hall⟩

theorem apply_eq_iff (a b : Value) :
    Expression.apply .eq a b = .ok (.boolean true) ↔ equal a b = .ok true := by
  unfold Expression.apply
  cases equal a b with
  | error fault => exact iff_of_false (fun h => nomatch h) fun h => nomatch h
  | ok answer =>
    cases answer with
    | true => exact iff_of_true rfl rfl
    | false => exact iff_of_false (fun h => nomatch h) fun h => nomatch h

/-- Agreement with a bound value does not depend on the name, and it is a partial equivalence. The
values that agree with themselves are those built from scalars other than NaN by any depth of lists
and tuples. Numbers agree if their exact values are the same, and lists agree as tuples do. What
agrees is equal in conditions, and among values built from scalars what is equal agrees. -/
theorem agrees_partialEquivalence :
    (∀ key existing value, check key existing value = .ok () ↔ Agrees existing value) ∧
    (∀ a b, Agrees a b → Agrees b a) ∧
    (∀ a b c, Agrees a b → Agrees b c → Agrees a c) ∧
    (∀ m n : Number, Agrees (.number m) (.number n) ↔
      ∃ v, m.exactValue? = some v ∧ n.exactValue? = some v) ∧
    (∀ items value, Agrees (.list items) value ↔ Agrees (.tuple items) value) ∧
    (∀ a, Agrees a a ↔ ∀ leaf ∈ a.leaves, leaf.isScalar = true ∧ leaf.isNaN = false) ∧
    (∀ a b, Agrees a b → Expression.apply .eq a b = .ok (.boolean true)) ∧
    ∀ a b, (∀ leaf ∈ a.leaves ++ b.leaves, leaf.isScalar = true) →
      Expression.apply .eq a b = .ok (.boolean true) → Agrees a b := by
  refine ⟨check_iff_agrees, fun a b => agrees_symm, fun a b c => agrees_trans, ?_, ?_,
    agrees_self_iff, ?_, ?_⟩
  · intro m n
    rw [agrees_of_leaf rfl]
    exact Number.eq_iff_exactValue?
  · intro items value
    have hlist : Agrees (.list items) value ↔ _ := agrees_of_items? rfl value
    have htuple : Agrees (.tuple items) value ↔ _ := agrees_of_items? rfl value
    exact hlist.trans htuple.symm
  · intro a b h
    exact (apply_eq_iff a b).mpr (equal_of_agrees h)
  · intro a b hscalars h
    have hfirst := (List.forall_mem_append.mp hscalars).1
    exact agrees_of_equal hfirst ((apply_eq_iff a b).mp h)

/-- A list of the number one agrees with a tuple of it that holds it in another form, either way
round, and so the two are equal in conditions. -/
theorem agrees_partialEquivalence_one :
    let list : Value := .list [.int 1]
    let tuple : Value := .tuple [.number (.float (.ofDecimal false 1 0))]
    check "n" list tuple = .ok () ∧ check "n" tuple list = .ok () ∧
      Expression.apply .eq tuple list = .ok (.boolean true) := by
  intro list tuple
  obtain ⟨hcheck, hsymm, -, -, -, -, hequal, -⟩ := agrees_partialEquivalence
  have hone : scalarsEqual (.int 1) (.number (.float (.ofDecimal false 1 0))) = true := by
    decide +kernel
  have hitems : List.Forall₂ Agrees [.int 1] [.number (.float (.ofDecimal false 1 0))] :=
    .cons ((agrees_of_leaf rfl _).mpr hone) .nil
  have hforth : Agrees list tuple := (agrees_of_items? rfl tuple).mpr ⟨_, rfl, hitems⟩
  have hback : Agrees tuple list := hsymm list tuple hforth
  exact ⟨(hcheck "n" list tuple).mpr hforth, (hcheck "n" tuple list).mpr hback,
    hequal tuple list hback⟩

end Binding

end Destructure
