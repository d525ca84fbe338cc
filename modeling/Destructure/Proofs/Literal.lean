import Destructure.Proofs.Condition.Literal
import Destructure.Proofs.Conditional
import Destructure.Proofs.Separation
import Destructure.Proofs.Value.Equality

/-!
Patterns that are a single literal. Such a pattern text is the literal as it is written, with blanks
around it, and the same text can stand on one side of a comparison in a condition. Main statement:
matching the literal comes to binding a variable and comparing it with the literal in a condition.
-/

namespace Destructure

open Condition (IsOperand DerivesAt)
open Condition.Token (ReadsAs readsAs_blanks readsAs_blank readsAs_word readsAs_operator)

section Pieces

variable {pieces : List Piece} {number : Nat} {tokens : List Token} {c : Char}

/-- Where all tokens are literals, nothing but blanks stands between them. -/
theorem isBlank_of_scans (h : Scans number 0 pieces tokens)
    (ht : ∀ token ∈ tokens, token.number?.isSome = true) :
    ∀ c position, .plain c position ∈ pieces → Text.isBlank c = true := by
  intro c position hm
  generalize hskip : 0 = skip at h
  induction h with
  | nil => nomatch hm
  | skip h ih => nomatch hskip
  | blank hb h ih =>
    rcases List.mem_cons.mp hm with he | hm
    · cases he
      exact hb
    · exact ih ht hm hskip
  | token hc hl h ih =>
    have hnumber := (List.forall_mem_cons.mp ht).1
    rw [(lexemeAt_of_ne_markerChar hc hl).1] at hnumber
    cases hnumber
  | literal hlexeme hposition hdigits h ih =>
    rcases List.mem_cons.mp hm with he | hm
    · cases he
    · exact ih (List.forall_mem_cons.mp ht).2 hm hskip

theorem isBlank_of_mem_written (hb : ∀ c position, .plain c position ∈ pieces → Text.isBlank c = true)
    (hl : literalsOf pieces = []) : ∀ c ∈ written pieces, Text.isBlank c = true := by
  intro c hc
  obtain ⟨piece, hm, hc⟩ := List.mem_flatMap.mp hc
  cases piece with
  | plain d position =>
    obtain rfl := List.mem_singleton.mp hc
    exact hb c position hm
  | literal l =>
    have hliteral := mem_literalsOf.mpr hm
    rw [hl] at hliteral
    cases hliteral

/-- A row of pieces with one literal is what stands before it, the literal, and what stands behind
it. -/
theorem exists_around_literal {l : Literal} (h : literalsOf pieces = [l]) :
    ∃ before after, pieces = before ++ .literal l :: after ∧ literalsOf before = [] ∧
      literalsOf after = [] := by
  obtain ⟨before, piece, after, hpieces, hbefore, hpiece, hafter⟩ := List.filterMap_eq_cons_iff.mp h
  refine ⟨before, after, ?_, List.filterMap_eq_nil_iff.mpr hbefore, hafter⟩
  cases piece with
  | plain c position => cases hpiece
  | literal other =>
    cases hpiece
    exact hpieces

/-- A text whose only token is a literal is that literal with blanks around it. -/
theorem Template.exists_blanks {text : List Char} {t : Template} {token : Token}
    (h : ofText text = .ok t) (hs : Token.scan t.cells = .ok [token])
    (hn : token.lexeme = .literal number) :
    ∃ before l after, text = before ++ l.raw ++ after ∧ t.literals = [l] ∧
      t.literal? number = some l ∧ (∀ c ∈ before, Text.isBlank c = true) ∧
      ∀ c ∈ after, Text.isBlank c = true := by
  have hsound := isSound_ofText h
  have hnumber : token.number? = some number := Token.number?_eq_some.mpr hn
  have hscans := scans_of_scanFrom hsound (Nat.zero_le _) hs
  have hblank := isBlank_of_scans hscans <| by
    intro other hm
    obtain rfl := List.mem_singleton.mp hm
    rw [hnumber]
    rfl
  obtain ⟨hnumbers, -⟩ := hscans.numbers
  rw [List.filterMap_cons_some hnumber, List.filterMap_nil] at hnumbers
  obtain ⟨l, hl⟩ : ∃ l, t.literals = [l] := by
    have hlength := congrArg List.length hnumbers
    rw [List.length_range'] at hlength
    exact List.length_eq_one_iff.mp hlength.symm
  have hone : number = 1 := by
    have hl : literalsOf t.pieces = [l] := hl
    rw [hl] at hnumbers
    exact List.head_eq_of_cons_eq hnumbers
  obtain ⟨before, after, hpieces, hbefore, hafter⟩ := exists_around_literal hl
  refine ⟨written before, l, written after, ?_, hl, ?_, ?_, ?_⟩
  · rw [← (aligned_ofText h).1, hpieces, written_append, List.append_assoc]
    rfl
  · rw [hone, ← Nat.add_zero 1, literal?_one_add, hl]
    rfl
  · apply isBlank_of_mem_written _ hbefore
    intro c position hm
    apply hblank c position
    rw [hpieces]
    exact List.mem_append_left _ hm
  · apply isBlank_of_mem_written _ hafter
    intro c position hm
    apply hblank c position
    rw [hpieces]
    exact List.mem_append_right _ (List.mem_cons_of_mem _ hm)

end Pieces

def Payload.constant? : Payload → Option Constant
  | .text value => some (.text (String.ofList value))
  | .number value => some (.number value)
  | .regex _ _ => none

def Pattern.constant? : Pattern → Option Constant
  | .text value => some (.text value)
  | .number value => some (.number value)
  | _ => none

section Literal

variable {text : String} {tree : Pattern} {constant : Constant} {value : Value} {t : Template}

theorem isScalar_toValue (constant : Constant) : constant.toValue.isScalar = true := by
  cases constant <;> rfl

/-- A literal matches what is equal to it. -/
theorem Pattern.failure_of_constant? (h : tree.constant? = some constant) (policy : Policy)
    (source : Value) (scope : Scope) :
    (tree.bindAll policy source scope).failure = none ↔
      Value.scalarsEqual constant.toValue source = true := by
  have hmatch {expected : Value} {failure : Failure} :
      (if Value.scalarsEqual expected source then Outcome.matched scope
        else .failed scope failure).failure = none ↔
          Value.scalarsEqual expected source = true := by
    split
    · rename_i heq
      exact ⟨fun _ => heq, fun _ => rfl⟩
    · rename_i heq
      exact ⟨fun hf => (nomatch hf), fun he => absurd he heq⟩
  cases tree with
  | text value =>
    cases h
    exact hmatch
  | number value =>
    cases h
    exact hmatch
  | _ => cases h

/-- A text without a condition has none in its template. -/
theorem patternPieces_of_readPattern (h : readPattern text = .ok (tree, none))
    (ht : Template.ofText text.toList = .ok t) : t.patternPieces = none := by
  obtain ⟨t', tokens, ht', -, -, hcondition⟩ := readPattern_eq_ok h
  obtain rfl : t = t' := Except.ok.inj (ht.symm.trans ht')
  cases hk : t.patternPieces with
  | none => rfl
  | some count =>
    rw [Template.conditionPosition, hk] at hcondition
    obtain ⟨condition, -, hnone⟩ := Run.map_eq_ok.mp hcondition
    cases hnone

/-- A text that is read as a literal is that literal with blanks around it. -/
theorem exists_literal_of_readPattern (h : readPattern text = .ok (tree, none))
    (hc : tree.constant? = some constant) :
    ∃ t before l after, Template.ofText text.toList = .ok t ∧ t.literals = [l] ∧
      text.toList = before ++ l.raw ++ after ∧ l.payload.constant? = some constant ∧
      (∀ c ∈ before, Text.isBlank c = true) ∧ ∀ c ∈ after, Text.isBlank c = true := by
  obtain ⟨t, tokens, ht, hs, hp, -⟩ := readPattern_eq_ok h
  have hcells : t.patternCells = t.cells := by
    rw [Template.patternCells, patternPieces_of_readPattern h ht]
  rw [hcells] at hs
  have hcarries : ∃ token number l, tokens = [token] ∧ token.lexeme = .literal number ∧
      t.literal? number = some l ∧ l.payload.constant? = some constant := by
    cases Reading.ofTokens_eq_ok.mp hp with
    | text hcarries =>
      obtain ⟨number, l, hn, hl, hpayload⟩ := hcarries
      exact ⟨_, number, l, rfl, hn, hl, hpayload ▸ hc⟩
    | number hcarries =>
      obtain ⟨number, l, hn, hl, hpayload⟩ := hcarries
      exact ⟨_, number, l, rfl, hn, hl, hpayload ▸ hc⟩
    | _ => cases hc
  obtain ⟨token, number, l, rfl, hn, hl, hconstant⟩ := hcarries
  obtain ⟨before, other, after, htext, hliterals, hother, hbefore, hafter⟩ :=
    Template.exists_blanks ht hs hn
  obtain rfl : l = other := Option.some.inj (hl.symm.trans hother)
  exact ⟨t, before, l, after, ht, hliterals, htext, hconstant, hbefore, hafter⟩

/-- A literal is an operand of a condition where blanks or nothing follow. -/
theorem isOperand_of_constant? {l : Literal} {after : List Char} (hw : l.IsWritten)
    (hc : l.payload.constant? = some constant)
    (hplus : ∀ n, constant = .number n → l.raw.head? ≠ some '+')
    (ha : ∀ c ∈ after, Text.isBlank c = true) : IsOperand l.raw after constant.toValue := by
  cases hp : l.payload with
  | text value =>
    rw [hp] at hc
    cases hc
    exact Condition.isOperand_text hw hp after
  | number value =>
    rw [hp] at hc
    cases hc
    apply Condition.isOperand_number hw hp (hplus value rfl)
    intro c hm
    exact Lifting.isNumberChar_of_isBlank (ha c (List.mem_of_mem_head? hm))
  | regex source ignoreCase =>
    rw [hp] at hc
    cases hc

/-- What is compared with a variable is read behind it and the sign of equality. -/
theorem exists_ofText_equals {before raw after : List Char} (ho : IsOperand raw after value)
    (hb : ∀ c ∈ before, Text.isBlank c = true) (ha : ∀ c ∈ after, Text.isBlank c = true) :
    ∃ operand, (∀ scope, operand.evaluate scope = .ok value) ∧
      Condition.ofText ["x"] (" x == ".toList ++ (before ++ raw ++ after)) 0 =
        .ok ⟨String.ofList (Text.trim (" x == ".toList ++ (before ++ raw ++ after))),
          .binary .eq (.variable "x") operand⟩ := by
  obtain ⟨operand, lexemes, hreads, hderives, hvalue⟩ := ho
  refine ⟨operand, hvalue, ?_⟩
  have hoperand : ReadsAs (raw ++ after) [] lexemes := by
    rw [← List.append_nil after] at hreads
    have hall := hreads.append (readsAs_blanks ha)
    rwa [List.append_nil lexemes] at hall
  have hright : ReadsAs (before ++ (raw ++ after)) [] lexemes :=
    (readsAs_blanks hb).append hoperand
  have hequals := (readsAs_operator .eq _).append ((readsAs_blank _).append hright)
  have hname (rest : List Char) : ReadsAs ['x'] (' ' :: rest) [.name "x"] := by
    have hword : ∀ d ∈ ([] : List Char), Text.isNameChar d = true := fun d hd => nomatch hd
    apply readsAs_word (by decide) hword
    intro d hd
    cases hd
    decide
  have hleft := (readsAs_blank _).append ((hname _).append ((readsAs_blank _).append hequals))
  obtain ⟨tokens, hscan, hlexemes⟩ := hleft.scan 0
  have htext : " x == ".toList ++ (before ++ raw ++ after) =
      [' '] ++ (['x'] ++ ([' '] ++ (Operator.eq.text.toList ++ ([' '] ++
        (before ++ (raw ++ after)))))) := by
    rw [List.append_assoc before]
    rfl
  refine Condition.ofText_eq_ok.mpr ⟨tokens, _, htext ▸ hscan, ?_, rfl⟩
  rw [Condition.parse_eq_ok, hlexemes]
  have hvariable : DerivesAt ["x"] .primary (.variable "x") [.name "x"] :=
    .variable (List.mem_singleton_self _)
  have hcomparison : DerivesAt ["x"] .comparison (.binary .eq (.variable "x") operand)
      ([.name "x"] ++ .operator .eq :: lexemes) :=
    .join rfl (by decide) (hvariable.loosen (by decide)) ((hderives ["x"]).loosen (by decide))
  exact hcomparison.loosen (by decide)

/-- A condition that compares a variable with a constant holds just when the literal pattern would
match, or when the value is an object that takes itself for the constant. -/
theorem holds_equals {scope : Scope} {operand : Expression} {name : String} {source : Value}
    (hx : scope.get? name = some source) (ho : operand.evaluate scope = .ok constant.toValue)
    (shown : String) :
    Condition.holds ⟨shown, .binary .eq (.variable name) operand⟩ scope =
      .ok (Value.scalarsEqual constant.toValue source ||
        constant.toValue.scalar?.any source.claims) := by
  have hevaluate : (Expression.binary .eq (.variable name) operand).evaluate scope =
      .ok (.boolean (Value.scalarsEqual constant.toValue source ||
        constant.toValue.scalar?.any source.claims)) := by
    unfold Expression.evaluate
    rw [ho]
    unfold Expression.evaluate
    rw [hx]
    change Expression.apply .eq source constant.toValue = _
    unfold Expression.apply
    rw [Value.equal_of_isScalar source (isScalar_toValue constant)]
    rfl
  unfold Condition.holds
  rw [hevaluate]
  rfl

/-- A variable that is compared with a literal compiles to a condition of the literal's value. -/
theorem exists_compile_equals (h : readPattern text = .ok (tree, none))
    (hc : tree.constant? = some constant)
    (hplus : ∀ t, Template.ofText text.toList = .ok t → ∀ l ∈ t.literals,
      ∀ n, constant = .number n → l.raw.head? ≠ some '+') :
    ∃ compiled shown operand, compile ("x when x == " ++ text : String) = .ok compiled ∧
      compiled.tree = .variable "x" false ∧
      compiled.condition = some ⟨shown, .binary .eq (.variable "x") operand⟩ ∧
      ∀ scope, operand.evaluate scope = .ok constant.toValue := by
  obtain ⟨t, before, l, after, ht, hliterals, htext, hconstant, hbefore, hafter⟩ :=
    exists_literal_of_readPattern h hc
  have hl : l ∈ t.literals := by
    rw [hliterals]
    exact List.mem_singleton_self l
  have hoperand := isOperand_of_constant? (Template.isWritten_of_mem_literals ht hl) hconstant
    (hplus t ht l hl) hafter
  obtain ⟨operand, hvalue, hcondition⟩ := exists_ofText_equals hoperand hbefore hafter
  have hfront : Template.IsFront "x ".toList ⟨[.plain 'x' 0, .plain ' ' 1], none⟩ := by
    refine ⟨?_, rfl, ' ', ?_, ?_⟩
    · rfl
    · decide
    · decide
  have hvariable : readPattern "x " = .ok (.variable "x" false, none) := by
    rfl
  have hsecond : ∃ c ∈ (" x == " ++ text).toList.head?, Text.isBlank c = true := by
    refine ⟨' ', ?_, by decide⟩
    rw [String.toList_append]
    rfl
  have hwhole : "x when x == " ++ text = "x " ++ "when" ++ (" x == " ++ text) := by
    rw [← String.append_assoc]
    rfl
  rw [← htext, ← String.toList_append] at hcondition
  have hread := (readPattern_when hfront hsecond).mpr ⟨_, hvariable, hcondition, rfl⟩
  rw [← hwhole] at hread
  exact ⟨_, _, operand, compile_of_readPattern hread, rfl, rfl, hvalue⟩

theorem destructure_of_compile {compiled : Compiled} (h : compile text = .ok compiled)
    (policy : Policy) (source : Value) (scope : Scope) :
    ((Engine.new policy).destructure text source scope).1 =
      compiled.bindIn policy source scope := by
  have hrequest : ((Engine.new policy).request text).1 = .ok compiled := by
    rw [Engine.request_new, h]
  exact Engine.destructure_of_request hrequest source scope

/-- A variable that is compared with a literal is matched by what equals the literal, and by what takes
itself for it. -/
theorem failure_equals_iff (h : readPattern text = .ok (tree, none))
    (hc : tree.constant? = some constant)
    (hplus : ∀ t, Template.ofText text.toList = .ok t → ∀ l ∈ t.literals,
      ∀ n, constant = .number n → l.raw.head? ≠ some '+') (policy : Policy) (source : Value) :
    ((Engine.new policy).destructure ("x when x == " ++ text : String) source .empty).1.failure =
        none ↔
      (Value.scalarsEqual constant.toValue source ||
        constant.toValue.scalar?.any source.claims) = true := by
  obtain ⟨equals, shown, operand, hequals, htree, hcondition, hvalue⟩ :=
    exists_compile_equals h hc hplus
  have hbound : (Pattern.variable "x" false).bindAll policy source .empty =
      .matched (Scope.empty.set "x" source) := by
    cases policy <;> rfl
  have hholds := holds_equals (Scope.get?_set_self .empty "x" source)
    (hvalue (Scope.empty.set "x" source)) shown
  have hnames : ∀ name ∈ (Expression.binary .eq (.variable "x") operand).names,
      name ∈ equals.tree.variableNames :=
    fun _ hm => names_of_compile hequals hcondition hm
  rw [destructure_of_compile hequals,
    Compiled.bindIn_of_condition policy source .empty hcondition hnames, htree, hbound]
  dsimp only [Outcome.matched]
  rw [hholds]
  cases Value.scalarsEqual constant.toValue source ||
      constant.toValue.scalar?.any source.claims with
  | true => exact ⟨fun _ => rfl, fun _ => rfl⟩
  | false => exact ⟨fun hf => (nomatch hf), fun ht => (nomatch ht)⟩

end Literal

end Destructure
