import Destructure.Proofs.Condition.Language
import Destructure.Proofs.Condition.Written
import Destructure.Proofs.Template.Lift

namespace Destructure

open Condition (IsQuote)
open Condition.Token (quoted)

def Literal.IsWritten (l : Literal) : Prop :=
  match l.payload with
  | .text value => ∃ quote inner, IsQuote quote ∧ l.raw = quote :: inner ∧
      quoted quote 0 inner = .ok (value, inner.length)
  | .number value => Lifting.readNumber ⟨l.position, l.raw.reverse⟩ = .ok value
  | .regex _ _ => True

namespace Condition.Token

variable {quote c letter : Char} {read value : List Char}

def Begins (quote : Char) (read value : List Char) : Prop :=
  ∀ more content, quoted quote 0 more = .ok (content, more.length) →
    quoted quote 0 (read ++ more) = .ok (value ++ content, (read ++ more).length)

theorem begins_nil (quote : Char) : Begins quote [] [] :=
  fun _ _ h => h

theorem Begins.plain (h : Begins quote read value) (hq : c ≠ quote) (hb : c ≠ '\\') :
    Begins quote (read ++ [c]) (value ++ [c]) := by
  intro more content hmore
  have hne : more ≠ [] := by
    rintro rfl
    cases hmore
  have hlonger : quoted quote 0 (c :: more) = .ok (c :: content, (c :: more).length) := by
    rw [quoted_plain hq hb 0 hne, quoted_of_ok (0 + 1) hmore]
    rfl
  rw [List.append_assoc, List.append_assoc]
  exact h (c :: more) (c :: content) hlonger

theorem Begins.escape (h : Begins quote read value) (hq : IsQuote quote)
    (he : Lifting.unescape? letter = some c) :
    Begins quote (read ++ ['\\', letter]) (value ++ [c]) := by
  intro more content hmore
  have hlonger : quoted quote 0 ('\\' :: letter :: more) =
      .ok (c :: content, ('\\' :: letter :: more).length) := by
    rw [quoted_escape hq he 0 more, quoted_of_ok (0 + 2) hmore]
    rfl
  rw [List.append_assoc, List.append_assoc]
  exact h ('\\' :: letter :: more) (c :: content) hlonger

/-- The closing quote ends the value. -/
theorem Begins.close (h : Begins quote read value) :
    quoted quote 0 (read ++ [quote]) = .ok (value, (read ++ [quote]).length) := by
  have hend := h [quote] [] (quoted_quote quote 0 [])
  rwa [List.append_nil] at hend

end Condition.Token

open Condition.Token (Begins begins_nil)

def Mode.IsWritten : Mode → Prop
  | .quoted opened quote value escaping => IsQuote quote ∧ ∃ read,
      opened.raw.reverse = quote :: (read ++ if escaping then ['\\'] else []) ∧
        Begins quote read value.reverse
  | _ => True

section Quoted

variable {opened : Opened} {quote c d : Char} {value read : List Char}

theorem Mode.isWritten_escaped (hm : (Mode.quoted opened quote value true).IsWritten)
    (hd : Lifting.unescape? c = some d) :
    (Mode.quoted (opened.push c) quote (d :: value) false).IsWritten := by
  obtain ⟨hq, read, hraw, hbegins⟩ := hm
  refine ⟨hq, read ++ ['\\', c], ?_, ?_⟩
  · rw [Opened.push, List.reverse_cons, hraw]
    simp
  · rw [List.reverse_cons]
    exact hbegins.escape hq hd

theorem Mode.isWritten_backslash (hm : (Mode.quoted opened quote value false).IsWritten) :
    (Mode.quoted (opened.push '\\') quote value true).IsWritten := by
  obtain ⟨hq, read, hraw, hbegins⟩ := hm
  refine ⟨hq, read, ?_, hbegins⟩
  rw [Opened.push, List.reverse_cons, hraw]
  simp

theorem Mode.isWritten_plain (hm : (Mode.quoted opened quote value false).IsWritten)
    (hb : c ≠ '\\') (hc : c ≠ quote) :
    (Mode.quoted (opened.push c) quote (c :: value) false).IsWritten := by
  obtain ⟨hq, read, hraw, hbegins⟩ := hm
  refine ⟨hq, read ++ [c], ?_, ?_⟩
  · rw [Opened.push, List.reverse_cons, hraw]
    simp
  · rw [List.reverse_cons]
    exact hbegins.plain hc hb

theorem Mode.isWritten_quote (hm : (Mode.quoted opened quote value false).IsWritten) :
    (Literal.mk (.text value.reverse) (opened.push quote).raw.reverse opened.start).IsWritten := by
  obtain ⟨hq, read, hraw, hbegins⟩ := hm
  refine ⟨quote, read ++ [quote], hq, ?_, hbegins.close⟩
  rw [Opened.push, List.reverse_cons, hraw]
  simp

end Quoted

/-- The invariant of lifting. -/
theorem isMaintained_isWritten :
    Lifting.IsMaintained (Piece.IfLiteral Literal.IsWritten) Mode.IsWritten where
  outside := trivial
  starts {_ c _} h := by
    cases h with
    | quote hc => exact ⟨hc, [], rfl, begins_nil c⟩
    | _ => trivial
  takes hm h := by
    cases h with
    | escaped opened quote value hd => exact Mode.isWritten_escaped hm hd
    | backslash opened quote value hc =>
      subst hc
      exact Mode.isWritten_backslash hm
    | plain opened value hb hq => exact Mode.isWritten_plain hm hb hq
    | regex opened escaping =>
      unfold Mode.inRegex
      repeat' split
      all_goals trivial
    | _ => trivial
  plain _ _ := trivial
  sign _ _ := trivial
  ends hm h := by
    cases h with
    | quote opened value => exact Mode.isWritten_quote hm
    | flag opened => trivial
  completes hm h := by
    cases h with
    | regex opened => trivial
    | number opened hvalue =>
      exact Lifting.readNumber_of_raw hvalue _ (List.reverse_reverse _).symm

/-- The literals of a template can be read again from the way they are written. -/
theorem Template.isWritten_of_mem_literals {text : List Char} {t : Template}
    (h : ofText text = .ok t) {l : Literal} (hl : l ∈ t.literals) : l.IsWritten :=
  isMaintained_isWritten.forall_literals h l hl

open Condition.Token (ReadsAs readsAs_quoted readsAs_numeral readsAs_minus ofNumeral)

namespace Condition

variable {l : Literal} {rest : List Char}

def IsOperand (text rest : List Char) (value : Value) : Prop :=
  ∃ operand lexemes, ReadsAs text rest lexemes ∧
    (∀ names, DerivesAt names .signed operand lexemes) ∧
    ∀ scope, operand.evaluate scope = .ok value

theorem isOperand_text {value : List Char} (hw : l.IsWritten) (hp : l.payload = .text value)
    (rest : List Char) : IsOperand l.raw rest (.text (String.ofList value)) := by
  unfold Literal.IsWritten at hw
  rw [hp] at hw
  obtain ⟨quote, inner, hq, hraw, hquoted⟩ := hw
  rw [hraw]
  let constant : Constant := .text (String.ofList value)
  have hderives (names : List String) :
      DerivesAt names .signed (.constant constant) [.constant constant] :=
    (DerivesAt.constant constant).loosen (by decide)
  exact ⟨.constant constant, _, readsAs_quoted hq hquoted rest, hderives, fun _ => rfl⟩

/-- A number with a sign is the number that the digits stand for in a condition, or its negative. -/
theorem exists_numeral_of_readNumber {opened : Opened} {value : Number}
    (h : Lifting.readNumber opened = .ok value) :
    ∃ n other, Numeral.split? (Numeral.splitSign opened.raw.reverse).2 = some (n, []) ∧
      ofNumeral n = .ok (.constant (.number other)) ∧
      value = if (Numeral.splitSign opened.raw.reverse).1 then other.neg else other := by
  unfold Lifting.readNumber at h
  dsimp only at h
  split at h
  · rename_i n hs
    unfold ofNumeral
    split at h
    · rename_i hwhole
      split at h
      · cases h
      · rename_i hlength
        cases h
        refine ⟨n, .integer n.toNat, hs, ?_, ?_⟩
        · rw [if_pos hwhole, if_neg hlength]
        · rw [apply_ite Number.integer]
          rfl
    · rename_i hwhole
      cases h
      refine ⟨n, .float (n.toBinary64 false), hs, if_neg hwhole, ?_⟩
      have hsigned (negative : Bool) : n.toBinary64 negative =
          ⟨negative, (n.toBinary64 false).magnitude⟩ := Binary64.ofDecimal_negative ..
      have hpositive : (n.toBinary64 false).negative = false :=
        congrArg Binary64.negative (hsigned false)
      cases (Numeral.splitSign opened.raw.reverse).1 with
      | true =>
        rw [if_pos rfl, Number.neg, Binary64.neg, hpositive, hsigned true]
        rfl
      | false => rfl
  · cases h

/-- A number without a plus sign is an operand, unless more of a number follows. -/
theorem isOperand_number {value : Number} (hw : l.IsWritten) (hp : l.payload = .number value)
    (hplus : l.raw.head? ≠ some '+') (hr : ∀ c ∈ rest.head?, Lifting.isNumberChar c = false) :
    IsOperand l.raw rest (.number value) := by
  unfold Literal.IsWritten at hw
  rw [hp] at hw
  obtain ⟨n, other, hs, hl, hvalue⟩ := exists_numeral_of_readNumber hw
  rw [List.reverse_reverse] at hs hvalue
  have hconstant (names : List String) :
      DerivesAt names .signed (.constant (.number other)) [.constant (.number other)] :=
    (DerivesAt.constant _).loosen (by decide)
  by_cases hminus : ∃ digits, l.raw = '-' :: digits
  · obtain ⟨digits, hraw⟩ := hminus
    rw [hraw] at hs hvalue ⊢
    have hreads := (readsAs_minus (digits ++ rest)).append (readsAs_numeral hs hr hl)
    refine ⟨.minus (.constant (.number other)), _, hreads, fun names => .minus (hconstant names), ?_⟩
    intro scope
    rw [hvalue]
    rfl
  · have hunsigned : Numeral.splitSign l.raw = (false, l.raw) := by
      unfold Numeral.splitSign
      split
      · rename_i digits hraw
        exact absurd ⟨digits, hraw⟩ hminus
      · rename_i digits hraw
        rw [hraw] at hplus
        exact absurd rfl hplus
      · rfl
    rw [hunsigned] at hs hvalue
    refine ⟨.constant (.number other), _, readsAs_numeral hs hr hl, hconstant, ?_⟩
    intro scope
    rw [hvalue]
    rfl

end Condition

end Destructure
