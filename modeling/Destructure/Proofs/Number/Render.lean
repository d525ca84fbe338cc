import Mathlib.Data.List.TakeWhile
import Destructure.Proofs.Number.Numeral
import Destructure.Template.Lift

namespace Destructure

open Numeral (valueOfDigits)

namespace Binary64

theorem dropTrailingZeros_append (digits : List Char) :
    ∃ k, digits = dropTrailingZeros digits ++ List.replicate k '0' := by
  have hz : digits.reverse.takeWhile (· == '0') =
      List.replicate (digits.reverse.takeWhile (· == '0')).length '0' := by
    refine List.eq_replicate_iff.mpr ⟨rfl, fun c hc => ?_⟩
    have h := List.mem_takeWhile_imp (p := (· == '0')) hc
    exact eq_of_beq h
  refine ⟨(digits.reverse.takeWhile (· == '0')).length, ?_⟩
  rw [dropTrailingZeros, ← List.reverse_replicate, ← hz, ← List.reverse_append,
    List.takeWhile_append_dropWhile, List.reverse_reverse]

theorem eq_zero_of_units {x : Binary64} (h : x.units = 0) : x = zero x.negative := by
  refine eq_of_magnitude rfl ?_
  have hz : x.magnitude.val = 0 := by
    unfold units unitsOf at h
    dsimp only at h
    split at h
    · rename_i he
      have hb := twoTo_pos fractionBits
      have hd := Nat.div_add_mod x.magnitude.val (twoTo fractionBits)
      rw [he, h] at hd
      omega
    · have hb := twoTo_pos fractionBits
      rcases Nat.mul_eq_zero.mp h with h | h
      · omega
      · exact absurd h (Nat.ne_of_gt (twoTo_pos _))
  exact hz

theorem units_zero (negative : Bool) : (zero negative).units = 0 := by
  have h : unitsOf 0 = 0 := by decide
  exact h

/-- The digits of a decimal are written without the zeros at their end. -/
theorem spells_trimmed {x : Binary64} (hz : x.units ≠ 0) {digits : Nat} {exponent : Int}
    (h : ofDecimal x.negative digits exponent = x) :
    ∃ d e, Numeral.Spells (renderDecimal (dropTrailingZeros (digitsOf digits))
      ((digitsOf digits).length + exponent)) d e ∧ ofDecimal x.negative d e = x := by
  obtain ⟨k, hk⟩ := dropTrailingZeros_append (digitsOf digits)
  have hd : ∀ c ∈ dropTrailingZeros (digitsOf digits), c.isDigit = true := by
    intro c hc
    apply Numeral.isDigit_digitsOf digits
    rw [hk]
    exact List.mem_append_left _ hc
  have hv : valueOfDigits (dropTrailingZeros (digitsOf digits)) * tenTo k = digits := by
    rw [← Numeral.valueOfDigits_append_zeros, ← hk, digitsOf, Numeral.valueOfDigits_toDigits]
  have hne : dropTrailingZeros (digitsOf digits) ≠ [] := by
    intro he
    rw [he, valueOfDigits, List.foldl_nil, Nat.zero_mul] at hv
    rw [← hv, ofDecimal_zero] at h
    exact hz (h ▸ units_zero x.negative)
  have he : ((digitsOf digits).length + exponent -
      (dropTrailingZeros (digitsOf digits)).length : Int) = exponent + k := by
    have hl := congrArg List.length hk
    rw [List.length_append, List.length_replicate] at hl
    omega
  refine ⟨_, _, Numeral.spells_renderDecimal hd hne, ?_⟩
  rw [he, ← ofDecimal_mul_tenTo, hv, h]

/-- The written form of a finite number stands for a decimal that reads back as the number. -/
theorem spells_renderFinite {x : Binary64} (hx : x.isFinite = true) :
    ∃ digits exponent, Numeral.Spells x.renderFinite digits exponent ∧
      ofDecimal x.negative digits exponent = x := by
  unfold renderFinite
  by_cases hz : x.units = 0
  · rw [if_pos hz]
    have hzero : ∀ c ∈ ['0'], c.isDigit = true := List.forall_mem_singleton.mpr rfl
    have h := Numeral.spells_point hzero (List.cons_ne_nil _ _) hzero
    exact ⟨_, _, h, (ofDecimal_zero _ _).trans (eq_zero_of_units hz).symm⟩
  · rw [if_neg hz]
    exact spells_trimmed hz (ofDecimal_shortest hx hz)

end Binary64

namespace Numeral

open Lifting (isNumberChar)

variable {text : List Char} {n : Numeral}

theorem isNumberChar_of_isDigit {c : Char} (h : c.isDigit = true) : isNumberChar c = true := by
  unfold isNumberChar
  rw [h]
  rfl

theorem splitSign_append (cs : List Char) :
    ∃ front, cs = front ++ (splitSign cs).2 ∧ ∀ c ∈ front, isNumberChar c = true := by
  unfold splitSign
  split
  · exact ⟨['-'], rfl, List.forall_mem_singleton.mpr rfl⟩
  · exact ⟨['+'], rfl, List.forall_mem_singleton.mpr rfl⟩
  · exact ⟨[], rfl, fun c hc => nomatch hc⟩

theorem splitExponent_append (cs : List Char) :
    ∃ front, cs = front ++ (splitExponent cs).2 ∧ ∀ c ∈ front, isNumberChar c = true := by
  rcases splitExponent_cases cs with h | ⟨mark, rest, rfl, hmark, -, h⟩
  · rw [h]
    exact ⟨[], rfl, fun c hc => nomatch hc⟩
  · obtain ⟨sign, hsign, hchars⟩ := splitSign_append rest
    rw [h]
    refine ⟨mark :: sign ++ (splitSign rest).2.takeWhile Char.isDigit, ?_, ?_⟩
    · dsimp only
      rw [List.append_assoc, List.takeWhile_append_dropWhile, List.cons_append, ← hsign]
    · have hfirst : isNumberChar mark = true := by
        rcases hmark with rfl | rfl <;> rfl
      refine List.forall_mem_append.mpr ⟨List.forall_mem_cons.mpr ⟨hfirst, hchars⟩, ?_⟩
      exact fun c hc => isNumberChar_of_isDigit (List.mem_takeWhile_imp hc)

/-- A numeral is read off the start of a text. -/
theorem split?_append {cs after : List Char} (h : split? cs = some (n, after)) :
    ∃ front, cs = front ++ after ∧ ∀ c ∈ front, isNumberChar c = true := by
  have hdigits (cs : List Char) : ∀ c ∈ cs.takeWhile Char.isDigit, isNumberChar c = true :=
    fun c hc => isNumberChar_of_isDigit (List.mem_takeWhile_imp hc)
  have hwhole := List.takeWhile_append_dropWhile (p := Char.isDigit) (l := cs)
  obtain ⟨more, hmore, -, -, rfl⟩ | ⟨-, -, -, rfl⟩ := split?_cases h
  · obtain ⟨front, hfront, hchars⟩ := splitExponent_append (more.dropWhile Char.isDigit)
    refine ⟨cs.takeWhile Char.isDigit ++ '.' :: (more.takeWhile Char.isDigit ++ front), ?_, ?_⟩
    · rw [List.append_assoc, List.cons_append, List.append_assoc, ← hfront,
        List.takeWhile_append_dropWhile, ← hmore, hwhole]
    · refine List.forall_mem_append.mpr ⟨hdigits _, List.forall_mem_cons.mpr ⟨rfl, ?_⟩⟩
      exact List.forall_mem_append.mpr ⟨hdigits _, hchars⟩
  · obtain ⟨front, hfront, hchars⟩ := splitExponent_append (cs.dropWhile Char.isDigit)
    refine ⟨cs.takeWhile Char.isDigit ++ front, ?_, ?_⟩
    · rw [List.append_assoc, ← hfront, hwhole]
    · exact List.forall_mem_append.mpr ⟨hdigits _, hchars⟩

/-- The parts of a text that is read as a numeral. -/
theorem split?_eq_some (h : split? text = some (n, [])) :
    n.whole = text.takeWhile Char.isDigit ∧
      ∃ after, splitExponent after = (n.exponent, []) ∧
        (text.dropWhile Char.isDigit = after ∨
          ∃ rest, text.dropWhile Char.isDigit = '.' :: rest ∧ rest.dropWhile Char.isDigit = after) := by
  obtain ⟨more, hmore, -, rfl, hend⟩ | ⟨-, -, rfl, hend⟩ := split?_cases h
  · exact ⟨rfl, _, Prod.ext rfl hend.symm, Or.inr ⟨more, hmore, rfl⟩⟩
  · exact ⟨rfl, _, Prod.ext rfl hend.symm, Or.inl rfl⟩

/-- A numeral is written in characters of numbers. -/
theorem isNumberChar_of_split? (h : split? text = some (n, [])) :
    ∀ c ∈ text, isNumberChar c = true := by
  obtain ⟨front, hfront, hchars⟩ := split?_append h
  rw [List.append_nil] at hfront
  exact hfront ▸ hchars

/-- A numeral with digits before its point begins with a digit. -/
theorem isDigit_of_split? (h : split? text = some (n, [])) (hw : n.whole ≠ []) :
    ∃ first rest, text = first :: rest ∧ first.isDigit = true := by
  rw [(split?_eq_some h).1] at hw
  cases text with
  | nil => exact absurd rfl hw
  | cons first rest =>
    by_cases hf : first.isDigit = true
    · exact ⟨first, rest, rfl, hf⟩
    · exact absurd (List.takeWhile_cons_of_neg hf) hw

end Numeral

def signed (negative : Bool) (text : List Char) : List Char :=
  if negative then '-' :: text else text

theorem Numeral.splitSign_signed (negative : Bool) {first : Char} (hf : first.isDigit = true)
    (rest : List Char) : splitSign (signed negative (first :: rest)) = (negative, first :: rest) := by
  cases negative with
  | true => rfl
  | false =>
    unfold signed splitSign
    split
    · rename_i h
      cases h
      cases hf
    · rename_i h
      cases h
      cases hf
    · rfl

namespace Number

def isFinite : Number → Bool
  | .integer _ => true
  | .float x => x.isFinite

open Lifting (isNumberChar readNumber)

/-- What a number is read from, if its text is a numeral. -/
theorem readNumber_signed {text : List Char} {n : Numeral} (hs : Numeral.split? text = some (n, []))
    (hw : n.whole ≠ []) (negative : Bool) (start : Nat) :
    readNumber ⟨start, (signed negative text).reverse⟩ =
      if n.isWhole then
        if maxDigits < n.whole.length then .error (.numeralTooLong n.whole.length)
        else .ok (.integer (if negative then -(n.toNat : Int) else n.toNat))
      else .ok (.float (n.toBinary64 negative)) := by
  obtain ⟨first, rest, rfl, hf⟩ := Numeral.isDigit_of_split? hs hw
  unfold readNumber
  dsimp only
  rw [List.reverse_reverse, Numeral.splitSign_signed negative hf]
  dsimp only
  rw [hs]

theorem isWritable_integer {k : Int} :
    (integer k).isWritable = true ↔ k.natAbs < Binary64.tenTo maxDigits := by
  rw [isWritable, decide_eq_true_eq]

theorem length_digitsOf_le {k width : Nat} (h : k < Binary64.tenTo width) (hw : 0 < width) :
    (Binary64.digitsOf k).length ≤ width :=
  (Nat.length_toDigits_le_iff (by decide) hw).mpr h

/-- The digits of an integer are a numeral that stands for it. -/
theorem split?_digitsOf (k : Nat) :
    Numeral.split? (Binary64.digitsOf k) = some (⟨Binary64.digitsOf k, false, [], none⟩, []) := by
  have h := Numeral.split?_whole (r := []) (Numeral.isDigit_digitsOf k) Nat.toDigits_ne_nil
    (fun c hc => nomatch hc) rfl
  rwa [List.append_nil] at h

theorem render_integer (k : Int) :
    render (.integer k) = signed (decide (k < 0)) (Binary64.digitsOf k.natAbs) := by
  unfold render renderInt signed
  simp only [decide_eq_true_eq]

theorem render_float {x : Binary64} (hx : x.isFinite = true) :
    render (.float x) = signed x.negative x.renderFinite := by
  obtain ⟨hn, hi⟩ := Binary64.isFinite_iff.mp hx
  change x.render = _
  unfold Binary64.render signed
  rw [hn, hi]
  rfl

/-- A finite number is read back from what is written for it. -/
theorem readNumber_render {number : Number} (hw : number.isWritable = true)
    (hf : number.isFinite = true) :
    ∃ negative first rest, number.render = signed negative (first :: rest) ∧
      first.isDigit = true ∧ (∀ c ∈ rest, isNumberChar c = true) ∧
      ∀ start, readNumber ⟨start, number.render.reverse⟩ = .ok number := by
  obtain ⟨negative, text, n, hr, hs, hne, hread⟩ : ∃ negative text n,
      number.render = signed negative text ∧ Numeral.split? text = some (n, []) ∧ n.whole ≠ [] ∧
        ∀ start, readNumber ⟨start, number.render.reverse⟩ = .ok number := by
    cases number with
    | integer k =>
      have hs := split?_digitsOf k.natAbs
      have hlength : ¬ maxDigits < (Binary64.digitsOf k.natAbs).length :=
        Nat.not_lt_of_le (length_digitsOf_le (isWritable_integer.mp hw) (by decide))
      have hwhole : (⟨Binary64.digitsOf k.natAbs, false, [], none⟩ : Numeral).isWhole = true := rfl
      refine ⟨_, _, _, render_integer k, hs, Nat.toDigits_ne_nil, fun start => ?_⟩
      rw [render_integer, readNumber_signed hs Nat.toDigits_ne_nil, hwhole, if_pos rfl,
        if_neg hlength, Numeral.toNat, Binary64.digitsOf, Numeral.valueOfDigits_toDigits]
      simp only [decide_eq_true_eq, Numeral.ite_neg_natAbs]
    | float x =>
      obtain ⟨digits, exponent, ⟨n, hs, hne, hwhole, hv⟩, hx⟩ := Binary64.spells_renderFinite hf
      refine ⟨_, _, _, render_float hf, hs, hne, fun start => ?_⟩
      rw [render_float hf, readNumber_signed hs hne, hwhole, hv, hx]
      rfl
  obtain ⟨first, rest, rfl, hfirst⟩ := Numeral.isDigit_of_split? hs hne
  exact ⟨negative, first, rest, hr, hfirst,
    fun c hc => Numeral.isNumberChar_of_split? hs c (List.mem_cons_of_mem _ hc), hread⟩

end Number

end Destructure
