import Destructure.Proofs.Template.Split

namespace Destructure

open Condition (IsQuote)

def Opens (c : Char) : Prop :=
  IsQuote c ∨ c = '/' ∨ c.isDigit = true ∨ IsSign c

theorem isDigit_of_opens {c : Char} (h : Opens c) (hc : Text.isNameChar c = true) :
    c.isDigit = true := by
  have hneither : ¬ IsQuote c ∧ c ≠ '/' ∧ c ≠ '+' ∧ c ≠ '-' :=
    Text.forall_nameChar (Q := fun c => ¬ IsQuote c ∧ c ≠ '/' ∧ c ≠ '+' ∧ c ≠ '-') (by decide) hc
  obtain ⟨hquote, hslash, hplus, hminus⟩ := hneither
  rcases h with h | h | h | h | h
  · exact absurd h hquote
  · exact absurd h hslash
  · exact h
  · exact absurd h hplus
  · exact absurd h hminus

theorem isBlank_of_opens {c : Char} (h : Opens c) : Text.isBlank c = false := by
  rcases h with (rfl | rfl) | rfl | h | rfl | rfl
  · decide
  · decide
  · decide
  · exact Text.isBlank_of_isNameChar (Text.isNameChar_of_isDigit h)
  · decide
  · decide

structure Literal.IsDelimited (l : Literal) : Prop where
  first : ∃ c rest, l.raw = c :: rest ∧ Opens c
  last : ∃ front c, l.raw = front ++ [c] ∧ Text.isBlank c = false

namespace Opened

variable {o : Opened} {c : Char}

def IsBegun (o : Opened) : Prop :=
  ∃ read first, o.raw = read ++ [first] ∧ Opens first

def IsEnded (o : Opened) : Prop :=
  ∃ last read, o.raw = last :: read ∧ Text.isBlank last = false

theorem IsBegun.push (h : o.IsBegun) (c : Char) : (o.push c).IsBegun := by
  obtain ⟨read, first, hraw, hfirst⟩ := h
  exact ⟨c :: read, first, congrArg (c :: ·) hraw, hfirst⟩

theorem isEnded_push (o : Opened) (hc : Text.isBlank c = false) : (o.push c).IsEnded :=
  ⟨c, o.raw, rfl, hc⟩

theorem isBegun_singleton (start : Nat) (hc : Opens c) : IsBegun ⟨start, [c]⟩ :=
  ⟨[], c, rfl, hc⟩

theorem IsBegun.isDelimited (hbegun : o.IsBegun) (hended : o.IsEnded) (payload : Payload) :
    (Literal.mk payload o.raw.reverse o.start).IsDelimited := by
  constructor
  · obtain ⟨read, first, hraw, hfirst⟩ := hbegun
    exact ⟨first, read.reverse, by rw [hraw, List.reverse_concat], hfirst⟩
  · obtain ⟨last, read, hraw, hlast⟩ := hended
    exact ⟨read.reverse, last, by rw [hraw, List.reverse_cons], hlast⟩

end Opened

theorem Lifting.isBlank_of_isNumberChar {c : Char} (h : isNumberChar c = true) :
    Text.isBlank c = false := by
  rw [← Bool.not_eq_true]
  intro hb
  cases (isNumberChar_of_isBlank hb).symm.trans h

def Mode.IsDelimited : Mode → Prop
  | .outside => True
  | .sign c => IsSign c
  | .quoted opened quote _ _ => IsQuote quote ∧ opened.IsBegun
  | .regex opened _ => opened.IsBegun
  | .regexEnd opened | .number opened => opened.IsBegun ∧ opened.IsEnded

/-- A character of a regular expression, up to its closing slash. -/
theorem Mode.isDelimited_inRegex {opened : Opened} {escaping : Bool} {c : Char}
    (hbegun : opened.IsBegun) : (Mode.inRegex opened escaping c).IsDelimited := by
  unfold inRegex
  split
  · exact hbegun.push c
  · split
    · exact hbegun.push c
    · split
      · rename_i hslash
        subst hslash
        exact ⟨hbegun.push '/', opened.isEnded_push (by decide)⟩
      · exact hbegun.push c

/-- The invariant of lifting. -/
theorem isMaintained_isDelimited :
    Lifting.IsMaintained (Piece.IfLiteral Literal.IsDelimited) Mode.IsDelimited where
  outside := trivial
  starts {position c _} h := by
    cases h with
    | quote hc => exact ⟨hc, Opened.isBegun_singleton _ (.inl hc)⟩
    | slash hc => exact Opened.isBegun_singleton _ (.inr (.inl hc))
    | digit hc =>
      have hblank := Text.isBlank_of_isNameChar (Text.isNameChar_of_isDigit hc)
      exact ⟨Opened.isBegun_singleton _ (.inr (.inr (.inl hc))),
        Opened.isEnded_push ⟨position, []⟩ hblank⟩
    | sign hc => exact hc
  takes {position c _ _} hm h := by
    cases h with
    | digit sign hc =>
      have hsign := Opened.isBegun_singleton (position - 1) (.inr (.inr (.inr hm)))
      have hblank := Text.isBlank_of_isNameChar (Text.isNameChar_of_isDigit hc)
      exact ⟨hsign.push c, Opened.isEnded_push ⟨position - 1, [sign]⟩ hblank⟩
    | regex opened escaping => exact Mode.isDelimited_inRegex hm
    | number opened hc =>
      exact ⟨hm.1.push c, opened.isEnded_push (Lifting.isBlank_of_isNumberChar hc)⟩
    | _ => exact ⟨hm.1, hm.2.push c⟩
  plain _ _ := trivial
  sign _ _ := trivial
  ends {c _ _ _} hm h := by
    cases h with
    | quote opened value =>
      have hblank : Text.isBlank c = false := isBlank_of_opens (.inl hm.1)
      exact (hm.2.push c).isDelimited (opened.isEnded_push hblank) _
    | flag opened hc =>
      subst hc
      exact (hm.1.push 'i').isDelimited (opened.isEnded_push (by decide)) _
  completes hm h := by
    cases h with
    | regex opened => exact hm.1.isDelimited hm.2 _
    | number opened => exact hm.1.isDelimited hm.2 _

/-- The literals of a template begin and end in this way. -/
theorem Template.isDelimited_of_mem_literals {text : List Char} {t : Template}
    (h : ofText text = .ok t) {l : Literal} (hl : l ∈ t.literals) : l.IsDelimited :=
  isMaintained_isDelimited.forall_literals h l hl

theorem Template.raw_ne_nil {text : List Char} {t : Template} (h : ofText text = .ok t) {l : Literal}
    (hl : l ∈ t.literals) : l.raw ≠ [] := by
  obtain ⟨c, rest, hfirst, -⟩ := (isDelimited_of_mem_literals h hl).first
  rw [hfirst]
  exact List.cons_ne_nil c rest

end Destructure
