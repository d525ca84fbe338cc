import Destructure.Proofs.Conditional
import Destructure.Proofs.Number.Order
import Destructure.Proofs.Value.Fault
import Mathlib.Data.String.Basic

/-!
Comparisons in conditions. Numbers other than NaN have ranks in a linear order, and so have texts, and
a comparison of two of them tells how their ranks compare. Main statement: among such values the
comparisons form one total order. Any other two values have no order, which is a mismatch, but are
either equal or different, unless the comparison of their contents raises an error.
-/

namespace Destructure

namespace Value

def isText : Value → Bool
  | .text _ => true
  | _ => false

def numberRank : Value → WithBot (WithTop Int)
  | .number n => (n.exactValue?.map ExactValue.place).getD ⊥
  | _ => ⊥

def textRank : Value → String
  | .text s => s
  | _ => ""

end Value

namespace Operator

def orderings : List Operator := [.lt, .le, .gt, .ge]

def comparisons : List Operator := .eq :: .ne :: orderings

def decides : Operator → Ordering → Bool
  | .eq, order => order == .eq
  | .ne, order => order != .eq
  | operator, order => operator.accepts order

end Operator

namespace Number

theorem exactValue?_eq_none_iff {n : Number} :
    n.exactValue? = none ↔ (Value.number n).isNaN = true := by
  cases n with
  | integer m => exact iff_of_false (fun h => nomatch h) fun h => nomatch h
  | float x =>
    change x.exactValue? = none ↔ x.isNaN = true
    unfold Binary64.exactValue?
    cases x.isNaN with
    | true => exact iff_of_true rfl rfl
    | false => cases x.isInfinite <;> simp

end Number

namespace Expression

def RankedBy {α : Type} [LinearOrder α] (rank : Value → α) (values : List Value) : Prop :=
  ∀ u ∈ values, ∀ v ∈ values, ∀ operator ∈ Operator.comparisons,
    apply operator u v = .ok (.boolean (operator.decides (compare (rank u) (rank v))))

theorem compareTexts_eq (s t : String) : compareTexts s t = compare s t := by
  unfold compareTexts
  rcases lt_trichotomy s t with hlt | rfl | hgt
  · rw [if_neg hlt.ne, if_pos hlt, compare_lt_iff_lt.mpr hlt]
  · rw [if_pos rfl, compare_eq_iff_eq.mpr rfl]
  · rw [if_neg hgt.ne', if_neg hgt.not_gt, compare_gt_iff_gt.mpr hgt]

/-- Where equality and order go by one comparison, so does every operator that compares. -/
theorem apply_of_order {u v : Value} {found : Ordering}
    (hequal : Value.equal u v = .ok (found == .eq))
    (horder : ∀ operator, order operator u v = .ok (.boolean (operator.accepts found)))
    {operator : Operator} (ho : operator ∈ Operator.comparisons) :
    apply operator u v = .ok (.boolean (operator.decides found)) := by
  simp only [Operator.comparisons, Operator.orderings, List.mem_cons, List.not_mem_nil,
    or_false] at ho
  rcases ho with rfl | rfl | rfl | rfl | rfl | rfl
  · rw [apply, hequal]
    rfl
  · rw [apply, hequal]
    rfl
  all_goals exact horder _

theorem apply_number {m n : Number} {found : Ordering} (h : m.compare? n = some found)
    {operator : Operator} (ho : operator ∈ Operator.comparisons) :
    apply operator (.number m) (.number n) = .ok (.boolean (operator.decides found)) := by
  refine apply_of_order ?_ (fun operator => ?_) ho
  · change Except.ok (m.compare? n == some .eq) = .ok (found == .eq)
    rw [h]
    rfl
  · rw [order, h]
    rfl

theorem apply_text (s t : String) {operator : Operator} (ho : operator ∈ Operator.comparisons) :
    apply operator (.text s) (.text t) = .ok (.boolean (operator.decides (compare s t))) := by
  refine apply_of_order ?_ (fun operator => ?_) ho
  · have hsame : (s == t) = (compare s t == .eq) := by
      rw [Bool.eq_iff_iff, beq_iff_eq, beq_iff_eq, compare_eq_iff_eq]
    exact congrArg Except.ok hsame
  · rw [order, compareTexts_eq]

theorem rankedBy_numberRank {values : List Value}
    (h : ∀ v ∈ values, v.isNumber = true ∧ v.isNaN = false) :
    RankedBy Value.numberRank values := by
  intro u hu v hv operator ho
  have hexact {w : Value} (hw : w ∈ values) :
      ∃ n e, w = .number n ∧ n.exactValue? = some e := by
    obtain ⟨hnumber, hnan⟩ := h w hw
    cases w with
    | number n =>
      cases he : n.exactValue? with
      | some e => exact ⟨n, e, rfl, he⟩
      | none => exact absurd (Number.exactValue?_eq_none_iff.mp he) (Bool.eq_false_iff.mp hnan)
    | _ => cases hnumber
  obtain ⟨m, d, rfl, hd⟩ := hexact hu
  obtain ⟨n, e, rfl, he⟩ := hexact hv
  rw [apply_number (Number.compare?_of_exactValue? hd he) ho, Value.numberRank, Value.numberRank, hd,
    he]
  rfl

theorem rankedBy_textRank {values : List Value} (h : ∀ v ∈ values, v.isText = true) :
    RankedBy Value.textRank values := by
  intro u hu v hv operator ho
  have hu := h u hu
  have hv := h v hv
  cases u with
  | text s =>
    cases v with
    | text t => exact apply_text s t ho
    | _ => cases hv
  | _ => cases hu

/-- Two values that are neither numbers nor texts both have no order. -/
theorem apply_ordering {a b : Value} (hn : ¬ (a.isNumber = true ∧ b.isNumber = true))
    (ht : ¬ (a.isText = true ∧ b.isText = true)) {operator : Operator}
    (ho : operator ∈ Operator.orderings) :
    apply operator a b = .error (wrongOperands operator a b) := by
  have horder : order operator a b = .error (wrongOperands operator a b) := by
    cases a with
    | number m =>
      cases b with
      | number n => exact absurd ⟨rfl, rfl⟩ hn
      | _ => rfl
    | text s =>
      cases b with
      | text t => exact absurd ⟨rfl, rfl⟩ ht
      | _ => rfl
    | _ => rfl
  simp only [Operator.orderings, List.mem_cons, List.not_mem_nil, or_false] at ho
  rcases ho with rfl | rfl | rfl | rfl <;> exact horder

end Expression

namespace Operator

variable {α : Type} [LinearOrder α] {p q r : α}

theorem decides_lt : lt.decides (compare p q) = true ↔ p < q :=
  beq_iff_eq.trans compare_lt_iff_lt

theorem decides_gt : gt.decides (compare p q) = true ↔ q < p :=
  beq_iff_eq.trans compare_gt_iff_gt

theorem decides_eq : eq.decides (compare p q) = true ↔ p = q :=
  beq_iff_eq.trans compare_eq_iff_eq

theorem decides_ne : ne.decides (compare p q) = true ↔ p ≠ q :=
  bne_iff_ne.trans (not_congr compare_eq_iff_eq)

theorem decides_le : le.decides (compare p q) = true ↔ p ≤ q :=
  bne_iff_ne.trans compare_le_iff_le

theorem decides_ge : ge.decides (compare p q) = true ↔ q ≤ p :=
  bne_iff_ne.trans compare_ge_iff_ge

end Operator

namespace Condition

def comparing (operator : Operator) (left right : String) : Condition where
  text := left ++ " " ++ operator.text ++ " " ++ right
  expression := .binary operator (.variable left) (.variable right)

variable {scope : Scope} {x y z : String} {a b c : Value}

theorem evaluate_comparing {operator : Operator} (ho : operator ∈ Operator.comparisons)
    (hx : scope.get? x = some a) (hy : scope.get? y = some b) :
    (comparing operator x y).expression.evaluate scope = Expression.apply operator a b := by
  have hleft : (Expression.variable x).evaluate scope = .ok a := by rw [Expression.evaluate, hx]
  have hright : (Expression.variable y).evaluate scope = .ok b := by rw [Expression.evaluate, hy]
  simp only [Operator.comparisons, Operator.orderings, List.mem_cons, List.not_mem_nil,
    or_false] at ho
  rcases ho with rfl | rfl | rfl | rfl | rfl | rfl
  all_goals
    rw [comparing, Expression.evaluate, hleft, hright]
    · rfl
    all_goals rintro ⟨⟩

structure TotallyOrders (scope : Scope) (x y z : String) : Prop where
  decided : ∀ operator ∈ Operator.comparisons, ∃ answer,
    (comparing operator x y).expression.evaluate scope = .ok (.boolean answer) ∧
      (comparing operator x y).holds scope = .ok answer
  exactlyOne : ∃! operator, operator ∈ [Operator.lt, .eq, .gt] ∧
    (comparing operator x y).holds scope = .ok true
  le_iff : (comparing .le x y).holds scope = .ok true ↔
    (comparing .lt x y).holds scope = .ok true ∨ (comparing .eq x y).holds scope = .ok true
  ge_iff : (comparing .ge x y).holds scope = .ok true ↔ (comparing .le y x).holds scope = .ok true
  ne_iff : (comparing .ne x y).holds scope = .ok true ↔ ¬ (comparing .eq x y).holds scope = .ok true
  trans : ∀ operator ∈ [Operator.lt, .le, .eq], (comparing operator x y).holds scope = .ok true →
    (comparing operator y z).holds scope = .ok true →
      (comparing operator x z).holds scope = .ok true

section Ranked

variable {α : Type} [LinearOrder α] {rank : Value → α} {values : List Value}

theorem evaluate_comparing_ranked (hrank : Expression.RankedBy rank values) (ha : a ∈ values)
    (hb : b ∈ values) (hx : scope.get? x = some a) (hy : scope.get? y = some b)
    {operator : Operator} (ho : operator ∈ Operator.comparisons) :
    (comparing operator x y).expression.evaluate scope =
      .ok (.boolean (operator.decides (compare (rank a) (rank b)))) :=
  (evaluate_comparing ho hx hy).trans (hrank a ha b hb operator ho)

theorem holds_comparing_iff (hrank : Expression.RankedBy rank values) (ha : a ∈ values)
    (hb : b ∈ values) (hx : scope.get? x = some a) (hy : scope.get? y = some b)
    {operator : Operator} (ho : operator ∈ Operator.comparisons) {p : Prop}
    (hp : operator.decides (compare (rank a) (rank b)) = true ↔ p) :
    (comparing operator x y).holds scope = .ok true ↔ p := by
  rw [holds_eq_true_iff, evaluate_comparing_ranked hrank ha hb hx hy ho, ← hp, Except.ok.injEq,
    Value.boolean.injEq]

/-- Exactly one of three comparisons is true, since that is so of the ranks. -/
theorem exactlyOne_of_rankedBy (hrank : Expression.RankedBy rank values) (ha : a ∈ values)
    (hb : b ∈ values) (hx : scope.get? x = some a) (hy : scope.get? y = some b) :
    ∃! operator, operator ∈ [Operator.lt, .eq, .gt] ∧
      (comparing operator x y).holds scope = .ok true := by
  have hlt := holds_comparing_iff hrank ha hb hx hy (by decide) Operator.decides_lt
  have heq := holds_comparing_iff hrank ha hb hx hy (by decide) Operator.decides_eq
  have hgt := holds_comparing_iff hrank ha hb hx hy (by decide) Operator.decides_gt
  have honly {operator : Operator} (hm : operator ∈ [Operator.lt, .eq, .gt])
      (h : (comparing operator x y).holds scope = .ok true) :
      (operator = .lt ∧ rank a < rank b) ∨ (operator = .eq ∧ rank a = rank b) ∨
        (operator = .gt ∧ rank b < rank a) := by
    simp only [List.mem_cons, List.not_mem_nil, or_false] at hm
    rcases hm with rfl | rfl | rfl
    · exact Or.inl ⟨rfl, hlt.mp h⟩
    · exact Or.inr (Or.inl ⟨rfl, heq.mp h⟩)
    · exact Or.inr (Or.inr ⟨rfl, hgt.mp h⟩)
  rcases lt_trichotomy (rank a) (rank b) with h | h | h
  · refine ⟨.lt, ⟨by simp, hlt.mpr h⟩, fun operator ⟨hm, ho⟩ => ?_⟩
    rcases honly hm ho with ⟨rfl, -⟩ | ⟨-, h'⟩ | ⟨-, h'⟩
    · rfl
    · exact absurd h' h.ne
    · exact absurd h' h.not_gt
  · refine ⟨.eq, ⟨by simp, heq.mpr h⟩, fun operator ⟨hm, ho⟩ => ?_⟩
    rcases honly hm ho with ⟨-, h'⟩ | ⟨rfl, -⟩ | ⟨-, h'⟩
    · exact absurd h h'.ne
    · rfl
    · exact absurd h h'.ne'
  · refine ⟨.gt, ⟨by simp, hgt.mpr h⟩, fun operator ⟨hm, ho⟩ => ?_⟩
    rcases honly hm ho with ⟨-, h'⟩ | ⟨-, h'⟩ | ⟨rfl, -⟩
    · exact absurd h' h.not_gt
    · exact absurd h' h.ne'
    · rfl

theorem totallyOrders_of_rankedBy (hrank : Expression.RankedBy rank [a, b, c])
    (hx : scope.get? x = some a) (hy : scope.get? y = some b) (hz : scope.get? z = some c) :
    TotallyOrders scope x y z := by
  have ha : a ∈ [a, b, c] := by simp
  have hb : b ∈ [a, b, c] := by simp
  have hc : c ∈ [a, b, c] := by simp
  have hle := holds_comparing_iff hrank ha hb hx hy (by decide) Operator.decides_le
  have heq := holds_comparing_iff hrank ha hb hx hy (by decide) Operator.decides_eq
  have hlt := holds_comparing_iff hrank ha hb hx hy (by decide) Operator.decides_lt
  constructor
  · intro operator ho
    have he := evaluate_comparing_ranked hrank ha hb hx hy ho
    refine ⟨_, he, ?_⟩
    rw [holds, he]
    rfl
  · exact exactlyOne_of_rankedBy hrank ha hb hx hy
  · rw [hle, hlt, heq]
    exact le_iff_lt_or_eq
  · rw [holds_comparing_iff hrank ha hb hx hy (by decide) Operator.decides_ge,
      holds_comparing_iff hrank hb ha hy hx (by decide) Operator.decides_le]
  · rw [heq, holds_comparing_iff hrank ha hb hx hy (by decide) Operator.decides_ne]
  · intro operator hm
    simp only [List.mem_cons, List.not_mem_nil, or_false] at hm
    rcases hm with rfl | rfl | rfl
    · rw [hlt, holds_comparing_iff hrank hb hc hy hz (by decide) Operator.decides_lt,
        holds_comparing_iff hrank ha hc hx hz (by decide) Operator.decides_lt]
      exact lt_trans
    · rw [hle, holds_comparing_iff hrank hb hc hy hz (by decide) Operator.decides_le,
        holds_comparing_iff hrank ha hc hx hz (by decide) Operator.decides_le]
      exact le_trans
    · rw [heq, holds_comparing_iff hrank hb hc hy hz (by decide) Operator.decides_eq,
        holds_comparing_iff hrank ha hc hx hz (by decide) Operator.decides_eq]
      exact Eq.trans

end Ranked

/-- Comparing two values that have no order is a mismatch, as long as both can be written. -/
theorem holds_comparing_ordering (hx : scope.get? x = some a) (hy : scope.get? y = some b)
    (hn : ¬ (a.isNumber = true ∧ b.isNumber = true)) (ht : ¬ (a.isText = true ∧ b.isText = true))
    (ha : a.isWritable = true) (hb : b.isWritable = true) {operator : Operator}
    (ho : operator ∈ Operator.orderings) :
    ∃ cause, (comparing operator x y).expression.evaluate scope = .error (.mismatch cause) ∧
      ∃ outer, (comparing operator x y).holds scope = .error (.mismatch outer) := by
  have hc : operator ∈ Operator.comparisons := List.mem_cons_of_mem _ (List.mem_cons_of_mem _ ho)
  have hwritable : (Mismatch.operands operator.text a b operator.operandKinds).isWritable = true := by
    rw [Mismatch.isWritable, ha, hb]
    rfl
  have he : (comparing operator x y).expression.evaluate scope =
      .error (.mismatch (.operands operator.text a b operator.operandKinds)) := by
    rw [evaluate_comparing hc hx hy, Expression.apply_ordering hn ht ho, Expression.wrongOperands,
      Failure.ofMismatch, if_pos hwritable]
  refine ⟨_, he, ?_⟩
  rw [holds, he]
  exact ⟨_, rfl⟩

/-- Equality and inequality give opposite answers, unless comparing the two values raises an error. -/
theorem evaluate_comparing_equal (hx : scope.get? x = some a) (hy : scope.get? y = some b) :
    match Value.equal a b with
    | .ok answer =>
      (comparing .eq x y).expression.evaluate scope = .ok (.boolean answer) ∧
        (comparing .ne x y).expression.evaluate scope = .ok (.boolean !answer)
    | .error fault =>
      (comparing .eq x y).expression.evaluate scope = .error (.raised fault) ∧
        (comparing .ne x y).expression.evaluate scope = .error (.raised fault) := by
  rw [evaluate_comparing (by decide) hx hy, evaluate_comparing (by decide) hx hy, Expression.apply,
    Expression.apply]
  cases Value.equal a b <;> exact ⟨rfl, rfl⟩

/-- How conditions compare what three variables are bound to. Numbers other than NaN form one total
order, and so do texts. Any other two values have no order, which is a mismatch as long as both can be
written. They are equal or different, unless comparing them raises an error that reading some part of
them raises; two mappings raise one whenever the entries of either cannot be read. -/
theorem comparing_consistent (hx : scope.get? x = some a) (hy : scope.get? y = some b)
    (hz : scope.get? z = some c) :
    ((∀ v ∈ [a, b, c], v.isNumber = true ∧ v.isNaN = false) ∨ (∀ v ∈ [a, b, c], v.isText = true) →
      TotallyOrders scope x y z) ∧
    (¬ (a.isNumber = true ∧ b.isNumber = true) → ¬ (a.isText = true ∧ b.isText = true) →
      (a.isWritable = true → b.isWritable = true → ∀ operator ∈ Operator.orderings,
        ∃ cause, (comparing operator x y).expression.evaluate scope = .error (.mismatch cause) ∧
          ∃ outer, (comparing operator x y).holds scope = .error (.mismatch outer)) ∧
      ((∃ answer, (comparing .eq x y).expression.evaluate scope = .ok (.boolean answer) ∧
          (comparing .ne x y).expression.evaluate scope = .ok (.boolean !answer)) ∨
        ∃ fault, (a.HasFault fault ∨ b.HasFault fault) ∧
          (comparing .eq x y).expression.evaluate scope = .error (.raised fault) ∧
          (comparing .ne x y).expression.evaluate scope = .error (.raised fault)) ∧
      (a.isMapping = true → b.isMapping = true → ∀ fault,
        (do a.readAll; b.readAll) = .error fault →
          (comparing .eq x y).expression.evaluate scope = .error (.raised fault) ∧
          (comparing .ne x y).expression.evaluate scope = .error (.raised fault))) := by
  have hequal := evaluate_comparing_equal hx hy
  refine ⟨?_, fun hn ht => ⟨fun ha hb operator ho => ?_, ?_, fun ha hb fault hr => ?_⟩⟩
  · rintro (h | h)
    · exact totallyOrders_of_rankedBy (Expression.rankedBy_numberRank h) hx hy hz
    · exact totallyOrders_of_rankedBy (Expression.rankedBy_textRank h) hx hy hz
  · exact holds_comparing_ordering hx hy hn ht ha hb ho
  · cases he : Value.equal a b with
    | ok answer =>
      rw [he] at hequal
      exact Or.inl ⟨answer, hequal⟩
    | error fault =>
      rw [he] at hequal
      exact Or.inr ⟨fault, Value.hasFault_of_equal he, hequal⟩
  · rw [Value.equal_of_readAll ha hb hr] at hequal
    exact hequal

/-- A power of two as a floating-point number, the integer after it and infinity are ordered totally.
A boolean has no order among numbers. A mapping cannot be compared with one that fails at its key. -/
theorem comparing_consistent_mixed :
    let numbers := Scope.ofList [("p", .number (.float (.ofDecimal false 9007199254740992 0))),
      ("q", .int 9007199254740993), ("r", .number (.float (.infinity false)))]
    let kinds := Scope.ofList [("p", .boolean true), ("q", .int 2)]
    let boom : Fault := ⟨.other "ValueError", "boom"⟩
    let faulty : StoreType := ⟨"Faulty", .fixed "Faulty()", 0, ⟨.missingKey, "k"⟩⟩
    let mappings := Scope.ofList [("p", .mapping [(.text "k", .int 1)]),
      ("q", .store faulty [] [(.text "k", boom)] none)]
    TotallyOrders numbers "p" "q" "r" ∧
      (∃ outer, (comparing .lt "p" "q").holds kinds = .error (.mismatch outer)) ∧
      (comparing .eq "p" "q").expression.evaluate mappings = .error (.raised boom) := by
  intro numbers kinds boom faulty mappings
  refine ⟨?_, ?_, ?_⟩
  · refine (comparing_consistent rfl rfl rfl).1 (Or.inl ?_)
    simp only [List.forall_mem_cons]
    exact ⟨⟨rfl, by decide +kernel⟩, ⟨rfl, rfl⟩, ⟨rfl, by decide +kernel⟩, List.forall_mem_nil _⟩
  · have hp : kinds.get? "p" = some (.boolean true) := rfl
    have hq : kinds.get? "q" = some (.int 2) := rfl
    have h := ((comparing_consistent hp hq hp).2 (by decide) (by decide)).1
    obtain ⟨-, -, outer, ho⟩ := h rfl (by decide +kernel) .lt (by decide)
    exact ⟨outer, ho⟩
  · have hp : mappings.get? "p" = some (.mapping [(.text "k", .int 1)]) := rfl
    have hq : mappings.get? "q" = some (.store faulty [] [(.text "k", boom)] none) := rfl
    have h := (comparing_consistent hp hq hp).2 (by decide) (by decide)
    exact (h.2.2 rfl rfl boom rfl).1

end Condition

end Destructure
