import Destructure.Proofs.Pattern.Words
import Destructure.Proofs.Template.Lift

namespace Destructure

/-- Numbers are read within the bounds of what can be written. -/
theorem isLifted_of_readNumber {opened : Opened} {number : Number}
    (h : Lifting.readNumber opened = .ok number) : (Payload.number number).IsLifted := by
  unfold Lifting.readNumber at h
  dsimp only at h
  split at h
  · rename_i numeral hs
    split at h
    · split at h
      · cases h
      · rename_i hlength
        cases h
        refine ⟨Number.isWritable_integer.mpr ?_, fun x hx => nomatch hx⟩
        have hdigits : ∀ c ∈ numeral.whole, c.isDigit = true := by
          intro c hc
          rw [(Numeral.split?_eq_some hs).1] at hc
          exact List.mem_takeWhile_imp hc
        have habs (negative : Bool) (k : Nat) :
            (if negative then -(k : Int) else k).natAbs = k := by
          split <;> omega
        rw [habs]
        exact (Numeral.valueOfDigits_lt hdigits).trans_le
          (Binary64.tenTo_le_tenTo (Nat.not_lt.mp hlength))
    · cases h
      refine ⟨rfl, fun x hx => ?_⟩
      cases hx
      exact Binary64.isNaN_ofDecimal ..
  · cases h

def Piece.IsSound : Piece → Prop
  | .plain c _ => c ≠ markerChar
  | .literal l => l.payload.IsLifted

def Mode.IsSound : Mode → Prop
  | .sign c => c ≠ markerChar
  | .regex opened escaping => ∃ body, opened.raw = body ++ ['/'] ∧
      ∀ more, fitsSlashes false (body.reverse ++ more) = fitsSlashes escaping more
  | .regexEnd opened => ∃ body, opened.raw = '/' :: (body ++ ['/']) ∧
      fitsSlashes false body.reverse = true
  | _ => True

/-- A character between slashes. -/
theorem Mode.isSound_inRegex {opened : Opened} {escaping : Bool} {c : Char}
    (hm : (Mode.regex opened escaping).IsSound) : (Mode.inRegex opened escaping c).IsSound := by
  obtain ⟨body, hraw, hfits⟩ := hm
  have hpush : (opened.push c).raw = (c :: body) ++ ['/'] := congrArg (c :: ·) hraw
  have hmore (more : List Char) :
      fitsSlashes false ((c :: body).reverse ++ more) = fitsSlashes escaping (c :: more) := by
    rw [List.reverse_cons, List.append_assoc]
    exact hfits _
  unfold inRegex
  cases escaping with
  | true => exact ⟨_, hpush, hmore⟩
  | false =>
    rw [if_neg Bool.false_ne_true]
    split
    · rename_i hb
      subst hb
      exact ⟨_, hpush, hmore⟩
    · rename_i hb
      split
      · rename_i hq
        subst hq
        have hclosed := hfits []
        rw [List.append_nil] at hclosed
        exact ⟨body, hpush, hclosed⟩
      · rename_i hq
        refine ⟨_, hpush, fun more => ?_⟩
        rw [hmore, fitsSlashes, if_neg hb, bne_iff_ne.mpr hq, Bool.true_and]

/-- A regular expression that has ended stands between its slashes. -/
theorem Mode.isLifted_of_regexEnd {opened : Opened} (hm : (Mode.regexEnd opened).IsSound)
    (ignoreCase : Bool) : (Payload.regex ((opened.raw.drop 1).reverse.drop 1) ignoreCase).IsLifted := by
  obtain ⟨body, hraw, hfits⟩ := hm
  have hsource : (opened.raw.drop 1).reverse.drop 1 = body.reverse := by
    rw [hraw, List.drop_succ_cons, List.drop_zero, List.reverse_concat]
    rfl
  rw [hsource]
  exact hfits

/-- The invariant of lifting. -/
theorem isMaintained_isSound : Lifting.IsMaintained Piece.IsSound Mode.IsSound where
  outside := trivial
  starts {_ c _} h := by
    cases h with
    | slash hc =>
      subst hc
      exact ⟨[], rfl, fun more => rfl⟩
    | sign hc =>
      have hne : c ≠ markerChar := by
        rcases hc with rfl | rfl <;> decide
      exact hne
    | _ => trivial
  takes hm h := by
    cases h with
    | regex opened escaping => exact Mode.isSound_inRegex hm
    | _ => trivial
  plain _ hc := hc
  sign _ hm := hm
  ends hm h := by
    cases h with
    | quote opened value => trivial
    | flag opened => exact Mode.isLifted_of_regexEnd hm true
  completes hm h := by
    cases h with
    | regex opened => exact Mode.isLifted_of_regexEnd hm false
    | number opened hvalue => exact isLifted_of_readNumber hvalue

/-- The pieces of a template are sound. -/
theorem Template.isSound_ofText {text : List Char} {t : Template} (h : ofText text = .ok t) :
    ∀ piece ∈ t.pieces, piece.IsSound :=
  isMaintained_isSound.forall_pieces h

/-- The literals of a template have been lifted out. -/
theorem Template.isLifted_of_mem_literals {text : List Char} {t : Template}
    (h : ofText text = .ok t) {l : Literal} (hl : l ∈ t.literals) : l.payload.IsLifted :=
  isSound_ofText h _ (mem_literalsOf.mp hl)

end Destructure
