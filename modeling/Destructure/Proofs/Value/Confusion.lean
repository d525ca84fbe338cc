import Destructure.Proofs.Run
import Destructure.Proofs.Value.Rebinding

/-!
Booleans and numbers in equality of conditions. Equality keeps them apart at every position that indices
of sequences lead to. Below a key of a mapping contents are compared, and there a boolean and a number
are told apart only by what the boolean counts as. An object may take itself for a boolean anywhere.
Main statement: what faces what at corresponding positions of equal values, when mappings are equal, and
when their values may be compared in the same way as by themselves.
-/

namespace Destructure

namespace Value

def isBoolean : Value → Bool
  | .boolean _ => true
  | _ => false

def isList : Value → Bool
  | .list _ => true
  | _ => false

def entries? : Value → Option (List (Value × Value))
  | .mapping entries | .store _ entries _ _ => some entries
  | _ => none

def readAll : Value → Except Fault Unit
  | .store _ _ faults _ => readFaults faults
  | _ => .ok ()

def isSame (a b : Value) : Except Fault Bool :=
  if identical a b then .ok true else contentsEqual a b

inductive Corresponds : (keyed : Bool) → Value → Value → Value → Value → Prop
  | here (a b : Value) : Corresponds false a b a b
  | item {keyed : Bool} {a b x y u v : Value} {as bs : List Value} {i : Nat}
      (ha : a.items? = some as) (hb : b.items? = some bs) (hx : as[i]? = some x)
      (hy : bs[i]? = some y) (h : Corresponds keyed x y u v) : Corresponds keyed a b u v
  | entry {keyed : Bool} {a b key x y u v : Value} {as bs : List (Value × Value)}
      (ha : a.entries? = some as) (hb : b.entries? = some bs) (hapart : identical a b = false)
      (hx : (key, x) ∈ as) (hy : findEntry (isSame key) bs = .ok (some y))
      (h : Corresponds keyed x y u v) : Corresponds true a b u v

inductive Confusable : Value → Value → Prop
  | booleanNumber (p : Bool) (n : Number) : Confusable (.boolean p) (.number n)
  | numberBoolean (n : Number) (p : Bool) : Confusable (.number n) (.boolean p)
  | listTuple (as bs : List Value) : Confusable (.list as) (.tuple bs)
  | tupleList (as bs : List Value) : Confusable (.tuple as) (.list bs)
  | identical {u v : Value} (h : identical u v = true) : Confusable u v
  | claimed {u v : Value} (h : u.scalar?.any v.claims = true) : Confusable u v

section Contents

variable {a b x y : Value} {as bs : List Value} {entries others : List (Value × Value)}

/-- A sequence is the same as what has equal contents. -/
theorem isSame_of_items? (ha : a.items? = some as) (b : Value) : isSame a b = contentsEqual a b := by
  cases a with
  | list _ | tuple _ => cases b <;> rfl
  | _ => cases ha

theorem ite_identical (a b : Value) (rest : Except Fault Bool) :
    (if identical a b then rest else do if ← contentsEqual a b then rest else return false) = do
      if ← isSame a b then rest else return false := by
  unfold isSame
  split
  · rfl
  · rfl

theorem itemsEqual_cons_iff :
    itemsEqual (a :: as) (b :: bs) = .ok true ↔
      isSame a b = .ok true ∧ itemsEqual as bs = .ok true := by
  rw [← guarded_eq_ok_true, itemsEqual, ite_identical]

theorem itemsEqual_iff_forall₂ :
    (if as.length = bs.length then itemsEqual as bs else .ok false) = .ok true ↔
      List.Forall₂ (fun a b => isSame a b = .ok true) as bs := by
  rw [ite_eq_ok_true_iff]
  exact length_eq_and_iff_forall₂ (P := fun as bs => itemsEqual as bs = .ok true) rfl
    fun _ _ _ _ => itemsEqual_cons_iff

/-- Sequences have equal contents just if they are both lists or both tuples, and the same element by
element. -/
theorem contentsEqual_iff_of_items? (ha : a.items? = some as) (b : Value) :
    contentsEqual a b = .ok true ↔
      ∃ bs, b.items? = some bs ∧ b.isList = a.isList ∧
        List.Forall₂ (fun a b => isSame a b = .ok true) as bs := by
  have hmatch {bs : List Value} (hb : b.items? = some bs) (hlist : b.isList = a.isList)
      (h : contentsEqual a b = if as.length = bs.length then itemsEqual as bs else .ok false) :
      contentsEqual a b = .ok true ↔
        ∃ bs, b.items? = some bs ∧ b.isList = a.isList ∧
          List.Forall₂ (fun a b => isSame a b = .ok true) as bs := by
    rw [h, itemsEqual_iff_forall₂]
    constructor
    · intro hall
      exact ⟨bs, hb, hlist, hall⟩
    · rintro ⟨bs', hb', -, hall⟩
      cases hb.symm.trans hb'
      exact hall
  cases a with
  | list _ =>
    obtain rfl := Option.some.inj ha
    cases b with
    | list bs => exact hmatch rfl rfl rfl
    | tuple bs => exact iff_of_false (fun h => nomatch h) fun ⟨_, _, h, _⟩ => nomatch h
    | _ => exact iff_of_false (fun h => nomatch h) fun ⟨_, h, _⟩ => nomatch h
  | tuple _ =>
    obtain rfl := Option.some.inj ha
    cases b with
    | tuple bs => exact hmatch rfl rfl rfl
    | list bs => exact iff_of_false (fun h => nomatch h) fun ⟨_, _, h, _⟩ => nomatch h
    | _ => exact iff_of_false (fun h => nomatch h) fun ⟨_, h, _⟩ => nomatch h
  | _ => cases ha

theorem entriesEqual_cons_iff {key value : Value} :
    entriesEqual ((key, value) :: entries) others = .ok true ↔
      (∃ other, findEntry (isSame key) others = .ok (some other) ∧ isSame value other = .ok true) ∧
        entriesEqual entries others = .ok true := by
  rw [entriesEqual]
  change (findEntry (isSame key) others >>= _) = _ ↔ _
  rw [Run.bind_eq_ok]
  constructor
  · rintro ⟨found, hfound, h⟩
    cases found with
    | none => nomatch h
    | some other =>
      dsimp only at h
      rw [ite_identical] at h
      obtain ⟨hsame, hrest⟩ := guarded_eq_ok_true.mp h
      exact ⟨⟨other, hfound, hsame⟩, hrest⟩
  · rintro ⟨⟨other, hfound, hsame⟩, hrest⟩
    refine ⟨some other, hfound, ?_⟩
    dsimp only
    rw [ite_identical]
    exact guarded_eq_ok_true.mpr ⟨hsame, hrest⟩

theorem contentsEqual_of_entries? (ha : a.entries? = some entries) (hb : b.entries? = some others) :
    contentsEqual a b = (do
      a.readAll
      b.readAll
      if entries.length = others.length then entriesEqual entries others else .ok false) := by
  cases a with
  | mapping _ | store _ _ _ _ =>
    cases ha
    cases b with
    | mapping _ | store _ _ _ _ =>
      cases hb
      rfl
    | _ => cases hb
  | _ => cases ha

/-- Mappings have equal contents just if all entries can be read, they are as long as each other and
each entry of the first has a counterpart in the second. -/
theorem contentsEqual_mapping_iff (ha : a.entries? = some entries)
    (hb : b.entries? = some others) :
    contentsEqual a b = .ok true ↔
      a.readAll = .ok () ∧ b.readAll = .ok () ∧
      entries.length = others.length ∧ ∀ entry ∈ entries, ∃ other,
        findEntry (isSame entry.1) others = .ok (some other) ∧ isSame entry.2 other = .ok true := by
  have hall (rest : List (Value × Value)) : entriesEqual rest others = .ok true ↔
      ∀ entry ∈ rest, ∃ other,
        findEntry (isSame entry.1) others = .ok (some other) ∧ isSame entry.2 other = .ok true := by
    induction rest with
    | nil => exact iff_of_true rfl fun entry hm => nomatch hm
    | cons entry rest ih => rw [entriesEqual_cons_iff, List.forall_mem_cons, ih]
  rw [contentsEqual_of_entries? ha hb, ← hall, ← ite_eq_ok_true_iff]
  cases a.readAll with
  | error fault => exact iff_of_false (fun h => nomatch h) fun h => nomatch h.1
  | ok _ =>
    cases b.readAll with
    | error fault => exact iff_of_false (fun h => nomatch h) fun h => nomatch h.2.1
    | ok _ => exact ⟨fun h => ⟨rfl, rfl, h⟩, fun h => h.2.2⟩

section Claims

variable (type : ObjectType) (attributes inherited : List (String × Value))
  (faults : List (String × Fault))

/-- An object equals a scalar just if it takes itself for the scalar, whichever of the two is first. -/
theorem contentsEqual_object_of_isScalar (hb : b.isScalar = true) :
    contentsEqual (.object type attributes inherited faults) b =
        .ok (b.scalar?.any (Value.object type attributes inherited faults).claims) ∧
      contentsEqual b (.object type attributes inherited faults) =
        .ok (b.scalar?.any (Value.object type attributes inherited faults).claims) := by
  obtain ⟨name, writing, likeness⟩ := type
  cases b with
  | null | boolean _ | number _ | text _ =>
    cases likeness with
    | attributes => exact ⟨rfl, rfl⟩
    | own identity equals => exact ⟨congrArg Except.ok (Bool.or_false _), rfl⟩
  | _ => cases hb

theorem contentsEqual_object_of_items? (hb : b.items? = some bs) :
    contentsEqual (.object type attributes inherited faults) b = .ok false := by
  obtain ⟨name, writing, likeness⟩ := type
  cases b with
  | list _ | tuple _ => cases likeness <;> rfl
  | _ => cases hb

end Claims

end Contents

section Positions

variable {keyed : Bool} {a b u v : Value}

theorem forall₂_getElem? {R : Value → Value → Prop} {as bs : List Value} {i : Nat}
    (h : List.Forall₂ R as bs) (hu : as[i]? = some u) (hv : bs[i]? = some v) : R u v := by
  obtain ⟨hi, rfl⟩ := List.getElem?_eq_some_iff.mp hu
  obtain ⟨hj, rfl⟩ := List.getElem?_eq_some_iff.mp hv
  exact h.get hi hj

/-- What is the same holds the same at every position. -/
theorem isSame_of_corresponds (h : Corresponds keyed a b u v) (hab : isSame a b = .ok true) :
    isSame u v = .ok true := by
  induction h with
  | here a b => exact hab
  | item ha hb hx hy h ih =>
    rw [isSame_of_items? ha] at hab
    obtain ⟨bs, hb', -, hall⟩ := (contentsEqual_iff_of_items? ha _).mp hab
    cases hb.symm.trans hb'
    exact ih (forall₂_getElem? hall hx hy)
  | entry ha hb hapart hx hy h ih =>
    rw [isSame, hapart] at hab
    obtain ⟨-, -, -, hall⟩ := (contentsEqual_mapping_iff ha hb).mp hab
    obtain ⟨other, hother, hsame⟩ := hall _ hx
    cases hother.symm.trans hy
    exact ih hsame

theorem equal_of_entries? {entries : List (Value × Value)} (ha : a.entries? = some entries)
    (hb : b.entries?.isSome = true) : equal a b = contentsEqual a b := by
  cases a with
  | mapping _ | store _ _ _ _ =>
    cases b with
    | mapping _ | store _ _ _ _ => rfl
    | _ => cases hb
  | _ => cases ha

/-- What is equal holds equals at the positions that indices lead to, and the same at all others. -/
theorem equal_of_corresponds (h : Corresponds keyed a b u v) (hab : equal a b = .ok true) :
    (keyed = false → equal u v = .ok true) ∧ (keyed = true → isSame u v = .ok true) := by
  induction h with
  | here a b => exact ⟨fun _ => hab, fun hkeyed => nomatch hkeyed⟩
  | item ha hb hx hy h ih =>
    obtain ⟨bs, hb', hall⟩ := (equal_iff_of_items? ha _).mp hab
    cases hb.symm.trans hb'
    exact ih (forall₂_getElem? hall hx hy)
  | entry ha hb hapart hx hy h ih =>
    refine ⟨fun hkeyed => (nomatch hkeyed), fun _ => ?_⟩
    rw [equal_of_entries? ha (Option.isSome_of_eq_some hb)] at hab
    obtain ⟨-, -, -, hall⟩ := (contentsEqual_mapping_iff ha hb).mp hab
    obtain ⟨other, hother, hsame⟩ := hall _ hx
    cases hother.symm.trans hy
    exact isSame_of_corresponds h hsame

/-- A boolean equals only booleans, and an object that takes itself for it. -/
theorem isBoolean_of_equal (h : equal u v = .ok true) :
    u.isBoolean = v.isBoolean ∨ v.scalar?.any u.claims = true := by
  cases u with
  | boolean p =>
    rw [equal_of_scalar rfl] at h
    cases v with
    | boolean q => exact Or.inl rfl
    | _ => nomatch h
  | _ =>
    cases v with
    | boolean q =>
      rw [equal_of_isScalar _ rfl] at h
      exact Or.inr (Except.ok.inj h)
    | _ => exact Or.inl rfl

/-- By contents, a boolean equals what counts as the same number, and an object that takes itself for
it. -/
theorem asNumber?_of_isSame (h : isSame u v = .ok true)
    (hboolean : u.isBoolean = true ∨ v.isBoolean = true) :
    v.scalar?.any u.claims = true ∨ u.scalar?.any v.claims = true ∨
      ∃ m n, u.asNumber? = some m ∧ v.asNumber? = some n ∧ m.eq n = true := by
  rcases hboolean with hu | hv
  · cases u with
    | boolean p =>
      cases v with
      | boolean _ | number _ => exact Or.inr (Or.inr ⟨_, _, rfl, rfl, Except.ok.inj h⟩)
      | object type attributes inherited faults =>
        exact Or.inr (Or.inl (Except.ok.inj h))
      | _ => nomatch h
    | _ => nomatch hu
  · cases v with
    | boolean q =>
      cases u with
      | boolean _ => exact Or.inr (Or.inr ⟨_, _, rfl, rfl, Except.ok.inj h⟩)
      | number n => cases n <;> exact Or.inr (Or.inr ⟨_, _, rfl, rfl, Except.ok.inj h⟩)
      | object type attributes inherited faults =>
        have hsame : isSame (.object type attributes inherited faults) (.boolean q) =
            contentsEqual (.object type attributes inherited faults) (.boolean q) := rfl
        rw [hsame, (contentsEqual_object_of_isScalar _ _ _ _ rfl).1] at h
        exact Or.inl (Except.ok.inj h)
      | _ => nomatch h
    | _ => nomatch hv

/-- A value that is no sequence is compared by its contents as in conditions, unless it is taken for
something else. -/
theorem contentsEqual_iff_equal (ha : a.items? = none) (h : ¬ Confusable a b) :
    contentsEqual a b = .ok true ↔ equal a b = .ok true := by
  have hclaimed : a.scalar?.any b.claims = false := by
    rw [← Bool.not_eq_true]
    exact fun hb => h (.claimed hb)
  cases a with
  | list _ | tuple _ => cases ha
  | object type attributes inherited faults =>
    cases b with
    | list _ | tuple _ =>
      rw [contentsEqual_object_of_items? _ _ _ _ rfl]
      exact Iff.rfl
    | _ => exact Iff.rfl
  | boolean p =>
    cases b with
    | boolean q => cases p <;> cases q <;> exact Iff.rfl
    | number n => exact absurd (.booleanNumber p n) h
    | object _ _ _ _ =>
      rw [(contentsEqual_object_of_isScalar _ _ _ _ rfl).2, hclaimed]
      exact Iff.rfl
    | _ => exact Iff.rfl
  | number m =>
    cases b with
    | boolean q => exact absurd (.numberBoolean m q) h
    | object _ _ _ _ =>
      rw [(contentsEqual_object_of_isScalar _ _ _ _ rfl).2, hclaimed]
      exact Iff.rfl
    | _ => exact Iff.rfl
  | null | text _ =>
    cases b with
    | object _ _ _ _ =>
      rw [(contentsEqual_object_of_isScalar _ _ _ _ rfl).2, hclaimed]
      exact Iff.rfl
    | _ => exact Iff.rfl
  | _ => cases b <;> exact Iff.rfl

theorem isList_eq {as bs : List Value} (ha : a.items? = some as) (hb : b.items? = some bs)
    (h : ¬ Confusable a b) : b.isList = a.isList := by
  cases a with
  | list _ =>
    cases b with
    | list _ => rfl
    | tuple _ => exact absurd (.listTuple _ _) h
    | _ => cases hb
  | tuple _ =>
    cases b with
    | tuple _ => rfl
    | list _ => exact absurd (.tupleList _ _) h
    | _ => cases hb
  | _ => cases ha

/-- Where nothing is taken for something else, values are the same just if they are equal. -/
theorem isSame_iff_equal (h : ∀ u v, Corresponds false a b u v → ¬ Confusable u v) :
    isSame a b = .ok true ↔ equal a b = .ok true := by
  have hhere := h a b (.here a b)
  -- the induction is on the sequences in the first value; they lead to all positions without a key
  induction a using induction_items generalizing b with
  | leaf a ha =>
    have hcontents : isSame a b = contentsEqual a b :=
      if_neg fun hidentical => hhere (.identical hidentical)
    rw [hcontents]
    exact contentsEqual_iff_equal ha hhere
  | sequence a as ha ih =>
    rw [isSame_of_items? ha, contentsEqual_iff_of_items? ha, equal_iff_of_items? ha]
    refine exists_congr fun bs => and_congr_right fun hb => ?_
    rw [and_iff_right (isList_eq ha hb hhere), List.forall₂_iff_get, List.forall₂_iff_get]
    refine and_congr_right fun hlength => forall₃_congr fun i hi hj => ?_
    have hbelow (u v : Value) (huv : Corresponds false (as.get ⟨i, hi⟩) (bs.get ⟨i, hj⟩) u v) :
        ¬ Confusable u v :=
      h u v (.item ha hb (List.getElem?_eq_getElem hi) (List.getElem?_eq_getElem hj) huv)
    exact ih _ (List.get_mem as ⟨i, hi⟩) hbelow (hbelow _ _ (.here _ _))

/-- A boolean counts as a number below a key. -/
theorem contentsEqual_boolean_number (key : String) (p : Bool) (n : Number) :
    contentsEqual (.mapping [(.text key, .boolean p)]) (.mapping [(.text key, .number n)]) =
      .ok ((Number.integer (if p then 1 else 0)).eq n) := by
  have hkey : contentsEqual (.text key) (.text key) = .ok true :=
    congrArg Except.ok (beq_self_eq_true key)
  have hvalue : contentsEqual (.boolean p) (.number n) =
      .ok ((Number.integer (if p then 1 else 0)).eq n) := rfl
  change entriesEqual [(.text key, .boolean p)] [(.text key, .number n)] = _
  simp only [entriesEqual, findEntry, identical, hkey]
  generalize (Number.integer (if p then 1 else 0)).eq n = answer at hvalue ⊢
  change (contentsEqual (.boolean p) (.number n) >>= fun answer => if answer then _ else _) = _
  rw [hvalue]
  cases answer <;> rfl

end Positions

/-- What equality in conditions tells apart. If two values are equal, a boolean faces a boolean at every
position, unless a key of a mapping is on the way and what is faced counts as the same number, or an
object that takes itself for the boolean is faced. Mappings are equal just if their entries can be read,
they are as long as each other and what they hold under each key is the same by contents. This is to be
equal in conditions as long as no boolean faces a number there, no list a tuple, no scalar an object that
takes itself for it, and nothing what it is identical to without being equal to it. But a mapping that
holds a boolean equals one that holds a number instead just if the boolean counts as that number. -/
theorem apply_eq_positions (a b : Value) :
    (Expression.apply .eq a b = .ok (.boolean true) → ∀ keyed u v, Corresponds keyed a b u v →
      u.isBoolean = v.isBoolean ∨ v.scalar?.any u.claims = true ∨ keyed = true ∧
        (u.scalar?.any v.claims = true ∨
          ∃ m n, u.asNumber? = some m ∧ v.asNumber? = some n ∧ m.eq n = true)) ∧
    (∀ as bs, a.entries? = some as → b.entries? = some bs →
      (Expression.apply .eq a b = .ok (.boolean true) ↔
        a.readAll = .ok () ∧ b.readAll = .ok () ∧
        as.length = bs.length ∧ ∀ entry ∈ as, ∃ other,
          findEntry (isSame entry.1) bs = .ok (some other) ∧ isSame entry.2 other = .ok true)) ∧
    (∀ as bs, a.entries? = some as → b.entries? = some bs →
      (∀ key x y u v, (key, x) ∈ as → findEntry (isSame key) bs = .ok (some y) →
        Corresponds false x y u v → ¬ Confusable u v) →
      (Expression.apply .eq a b = .ok (.boolean true) ↔
        a.readAll = .ok () ∧ b.readAll = .ok () ∧
        as.length = bs.length ∧ ∀ entry ∈ as, ∃ other,
          findEntry (isSame entry.1) bs = .ok (some other) ∧
            Expression.apply .eq entry.2 other = .ok (.boolean true))) ∧
    ∀ key p n, a = .mapping [(.text key, .boolean p)] → b = .mapping [(.text key, .number n)] →
      Expression.apply .eq a b = .ok (.boolean ((Number.integer (if p then 1 else 0)).eq n)) := by
  have hmapping (as bs : List (Value × Value)) (ha : a.entries? = some as)
      (hb : b.entries? = some bs) :
      Expression.apply .eq a b = .ok (.boolean true) ↔
        a.readAll = .ok () ∧ b.readAll = .ok () ∧
        as.length = bs.length ∧ ∀ entry ∈ as, ∃ other,
          findEntry (isSame entry.1) bs = .ok (some other) ∧ isSame entry.2 other = .ok true := by
    rw [Binding.apply_eq_iff, equal_of_entries? ha (Option.isSome_of_eq_some hb),
      contentsEqual_mapping_iff ha hb]
  refine ⟨?_, hmapping, ?_, ?_⟩
  · intro hab keyed u v h
    obtain ⟨hindexed, hkeyed⟩ := equal_of_corresponds h ((Binding.apply_eq_iff a b).mp hab)
    cases keyed with
    | false => exact (isBoolean_of_equal (hindexed rfl)).imp_right Or.inl
    | true =>
      by_cases hboolean : u.isBoolean = true ∨ v.isBoolean = true
      · exact Or.inr ((asNumber?_of_isSame (hkeyed rfl) hboolean).imp_right fun h => ⟨rfl, h⟩)
      · rw [not_or, Bool.not_eq_true, Bool.not_eq_true] at hboolean
        exact Or.inl (hboolean.1.trans hboolean.2.symm)
  · intro as bs ha hb hapart
    rw [hmapping as bs ha hb]
    refine and_congr_right fun _ => and_congr_right fun _ => and_congr_right fun _ =>
      forall₂_congr fun entry hm => exists_congr fun other => and_congr_right fun hfound => ?_
    rw [Binding.apply_eq_iff]
    exact isSame_iff_equal fun u v h => hapart _ _ _ u v hm hfound h
  · intro key p n ha hb
    have hequal : equal a b = .ok ((Number.integer (if p then 1 else 0)).eq n) := by
      subst ha hb
      exact contentsEqual_boolean_number key p n
    rw [Expression.apply, hequal]
    rfl

/-- Below a key the boolean faces the number one. Where both hold the same text, the mappings are equal
since the texts are. -/
theorem apply_eq_positions_one :
    let a : Value := .list [.boolean true, .mapping [(.text "k", .int 1)]]
    let b : Value := .tuple [.boolean true, .mapping [(.text "k", .boolean true)]]
    Expression.apply .eq a b = .ok (.boolean true) ∧ Corresponds true a b (.int 1) (.boolean true) ∧
      (∃ m n, (Value.int 1).asNumber? = some m ∧ (Value.boolean true).asNumber? = some n ∧
        m.eq n = true) ∧
      Expression.apply .eq (.mapping [(.text "k", .text "v")]) (.mapping [(.text "k", .text "v")]) =
        .ok (.boolean true) := by
  intro a b
  have hequal : Expression.apply .eq a b = .ok (.boolean true) := by
    rfl
  have hfound : findEntry (isSame (.text "k")) [(.text "k", .boolean true)] =
      .ok (some (.boolean true)) := by
    rfl
  have hposition : Corresponds true a b (.int 1) (.boolean true) := by
    refine .item (i := 1) rfl rfl rfl rfl ?_
    exact .entry rfl rfl rfl List.mem_cons_self hfound (.here _ _)
  have hnumber := (((apply_eq_positions a b).1 hequal true _ _ hposition).resolve_left
    Bool.false_ne_true).resolve_left Bool.false_ne_true
  refine ⟨hequal, hposition, hnumber.2.resolve_left Bool.false_ne_true, ?_⟩
  obtain ⟨-, -, hmappings, -⟩ := apply_eq_positions (.mapping [(.text "k", .text "v")])
    (.mapping [(.text "k", .text "v")])
  refine (hmappings _ _ rfl rfl ?_).mpr ⟨rfl, rfl, rfl, ?_⟩
  · intro key x y u v hx hy h
    cases List.mem_singleton.mp hx
    have htext : findEntry (isSame (.text "k")) [(.text "k", .text "v")] =
        .ok (some (.text "v")) := by
      rfl
    cases htext.symm.trans hy
    cases h with
    | here =>
      intro hconfusable
      cases hconfusable with
      | identical h => nomatch h
      | claimed h => nomatch h
    | item ha => nomatch ha
  · intro entry hm
    cases List.mem_singleton.mp hm
    exact ⟨.text "v", rfl, rfl⟩

end Value

end Destructure
