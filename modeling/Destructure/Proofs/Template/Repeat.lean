import Destructure.Proofs.Template.Search

/-!
Literals are lifted again wherever they may stand. What lifting does within a literal depends on nothing
before it, so that what has been read of one leads to the same mode from every state in which a literal
may begin, only with another place. Main statements: every literal of a pattern text is lifted out of
whatever text has it behind a ready state and before a character that ends literals, and a row of such
literals and of characters that begin none is the template of what it is written as.
-/

namespace Destructure

def Mode.movedTo (start : Nat) : Mode → Mode
  | .outside => .outside
  | .sign c => .sign c
  | .quoted opened quote value escaping => .quoted ⟨start, opened.raw⟩ quote value escaping
  | .regex opened escaping => .regex ⟨start, opened.raw⟩ escaping
  | .regexEnd opened => .regexEnd ⟨start, opened.raw⟩
  | .number opened => .number ⟨start, opened.raw⟩

theorem Mode.movedTo_inRegex (opened : Opened) (escaping : Bool) (c : Char) (start : Nat) :
    (inRegex opened escaping c).movedTo start = inRegex ⟨start, opened.raw⟩ escaping c := by
  unfold inRegex
  simp only [apply_ite (movedTo start)]
  rfl

namespace Lifting

def IsReady (s : Lifting) : Prop :=
  s.IsIdle ∧ s.endsInName = false

def put (s : Lifting) (l : Literal) : Lifting :=
  state (s.position + l.raw.length) (.literal ⟨l.payload, l.raw, s.position⟩ :: s.pieces)
    s.patternPieces s.mode

def Separates (c : Char) : Prop :=
  isNumberChar c = false ∧ c ≠ 'i'

def reading (s : Lifting) (mode : Mode) : Lifting :=
  { s with position := s.position + mode.raw.length, mode := mode.movedTo s.position }

end Lifting

open Condition (IsQuote)
open Lifting (IsReady Separates)

def Mode.Repeats (mode : Mode) : Prop :=
  ∀ s : Lifting, s.IsReady → mode.raw.foldlM Lifting.step s = .ok (s.reading mode)

def Literal.Repeats (l : Literal) : Prop :=
  ∀ (s : Lifting) (rest : List Char), s.IsReady → (∀ c ∈ rest.head?, Separates c) →
    s.run (l.raw ++ rest) = (s.put l).run rest

namespace Lifting

variable {s : Lifting} {c : Char}

theorem IsReady.not_isSome (hs : s.IsReady) : ¬ s.patternPieces.isSome = true := by
  rw [hs.1.2]
  exact Bool.false_ne_true

theorem IsReady.not_endsInName (hs : s.IsReady) : ¬ s.endsInName = true := by
  rw [hs.2]
  exact Bool.false_ne_true

theorem IsReady.enter_slash (hs : s.IsReady) :
    s.enter '/' = { s with mode := .regex ⟨s.position, ['/']⟩ false } := by
  unfold enter
  rw [if_neg (by decide), if_neg hs.not_isSome, if_pos rfl]

theorem IsReady.enter_digit (hs : s.IsReady) (hc : c.isDigit = true) :
    s.enter c = { s with mode := .number ⟨s.position, [c]⟩ } := by
  have hq : ¬(c = '\'' ∨ c = '"') ∧ c ≠ '/' :=
    Text.forall_nameChar (Q := fun c => ¬(c = '\'' ∨ c = '"') ∧ c ≠ '/') (by decide)
      (Text.isNameChar_of_isDigit hc)
  unfold enter
  rw [if_neg hq.1, if_neg hs.not_isSome, if_neg hq.2, if_neg hs.not_endsInName, if_pos hc]

theorem IsReady.enter_sign (hs : s.IsReady) (hc : c = '+' ∨ c = '-') :
    s.enter c = { s with mode := .sign c } := by
  have hother : ¬(c = '\'' ∨ c = '"') ∧ c ≠ '/' ∧ ¬ c.isDigit = true := by
    rcases hc with rfl | rfl <;> decide
  obtain ⟨hq, hslash, hdigit⟩ := hother
  unfold enter
  rw [if_neg hq, if_neg hs.not_isSome, if_neg hslash, if_neg hs.not_endsInName,
    if_neg hdigit, if_pos hc]

end Lifting

namespace Mode

variable {position : Nat} {c : Char} {mode next : Mode} {opened : Opened} {payload : Payload}

/-- A character goes on with a literal wherever the literal begins. -/
theorem Takes.movedTo (h : mode.Takes position c next) (start : Nat) :
    (mode.movedTo start).Takes (start + mode.raw.length) c (next.movedTo start) := by
  cases h with
  | digit sign hc => exact .digit sign hc
  | escaped opened quote value hd => exact .escaped ⟨start, opened.raw⟩ quote value hd
  | backslash opened quote value hc => exact .backslash ⟨start, opened.raw⟩ quote value hc
  | plain opened value hb hq => exact .plain ⟨start, opened.raw⟩ value hb hq
  | regex opened escaping =>
    rw [movedTo_inRegex]
    exact .regex ⟨start, opened.raw⟩ escaping
  | number opened hc => exact .number ⟨start, opened.raw⟩ hc

theorem Ends.movedTo (h : mode.Ends c opened payload) (start : Nat) :
    (mode.movedTo start).Ends c ⟨start, opened.raw⟩ payload := by
  cases h with
  | quote opened value hb => exact .quote ⟨start, opened.raw⟩ value hb
  | flag opened hc => exact .flag ⟨start, opened.raw⟩ hc

theorem Completes.movedTo (h : mode.Completes opened payload) (start : Nat) :
    (mode.movedTo start).Completes ⟨start, opened.raw⟩ payload := by
  cases h with
  | regex opened => exact .regex ⟨start, opened.raw⟩
  | number opened hvalue =>
    exact .number ⟨start, opened.raw⟩ (Lifting.readNumber_of_raw hvalue _ rfl)

theorem Completes.stops_movedTo (h : mode.Completes opened payload) (hc : Separates c) (start : Nat) :
    (mode.movedTo start).Stops c := by
  cases h with
  | regex opened => exact hc.2
  | number opened => exact Bool.eq_false_iff.mp hc.1

/-- A character that begins a literal begins one from every state that is ready. -/
theorem StartsAt.enter_eq (h : mode.StartsAt position c) {s : Lifting} (hs : s.IsReady) :
    s.enter c = { s with mode := mode.movedTo s.position } := by
  cases h with
  | quote hc => exact if_pos hc
  | slash hc =>
    subst hc
    exact hs.enter_slash
  | digit hc => exact hs.enter_digit hc
  | sign hc => exact hs.enter_sign hc

theorem StartsAt.ne_markerChar (h : mode.StartsAt position c) :
    c ≠ markerChar ∧ Text.isBlank c = false := by
  cases h with
  | quote hc => rcases hc with rfl | rfl <;> decide
  | slash hc =>
    subst hc
    decide
  | digit hc =>
    have hname := Text.isNameChar_of_isDigit hc
    exact ⟨Text.ne_markerChar_of_isNameChar hname, Text.isBlank_of_isNameChar hname⟩
  | sign hc => rcases hc with rfl | rfl <;> decide

theorem repeats_outside : Mode.outside.Repeats := by
  intro s hs
  have hsame : s.reading .outside = s := by
    exact Lifting.eq_of_fields rfl rfl rfl hs.1.1.symm
  rw [hsame]
  rfl

theorem StartsAt.repeats (h : mode.StartsAt position c) : mode.Repeats := by
  intro s hs
  obtain ⟨hmarker, hblank⟩ := h.ne_markerChar
  have hstep : s.step c = .ok (s.reading mode) := by
    rw [Lifting.step_enter hs.1.1 hmarker (Or.inl hblank), h.enter_eq hs, Lifting.reading, h.raw_eq]
    rfl
  rw [h.raw_eq, Run.foldlM_cons_of_ok hstep]
  rfl

theorem Repeats.takes (hm : mode.Repeats) (h : mode.Takes position c next) : next.Repeats := by
  intro s hs
  have hadvance : (s.reading mode).advance c =
      .ok { s.reading mode with mode := next.movedTo s.position } :=
    Lifting.advance_eq_ok.mpr (.takes _ (h.movedTo s.position))
  have hstep : (s.reading mode).step c = .ok (s.reading next) := by
    rw [Lifting.step, hadvance, Lifting.reading, Lifting.reading, h.raw_eq, List.length_append]
    rfl
  rw [h.raw_eq, Run.foldlM_append_of_ok (hm s hs), Run.foldlM_cons_of_ok hstep]
  rfl

/-- A literal that a character has ended which belongs to it. -/
theorem Repeats.ends (hm : mode.Repeats) (h : mode.Ends c opened payload) :
    (Literal.mk payload opened.raw.reverse opened.start).Repeats := by
  rw [h.raw_eq]
  intro s rest hs _
  have hadvance : (s.reading mode).advance c =
      .ok ((s.reading mode).close ⟨s.position, opened.raw⟩ payload) :=
    Lifting.advance_eq_ok.mpr (.ends _ _ (h.movedTo s.position))
  have hstep : (s.reading mode).step c = .ok (s.put ⟨payload, mode.raw ++ [c], opened.start⟩) := by
    rw [Lifting.step, hadvance, Lifting.close_eq_state, h.raw_eq, Lifting.put, List.length_append,
      hs.1.1]
    rfl
  rw [List.append_assoc, Lifting.run_append_of_ok (hm s hs)]
  exact Lifting.run_cons_of_ok hstep

/-- A literal that is at its end when something else follows, or nothing. -/
theorem Repeats.completes (hm : mode.Repeats) (h : mode.Completes opened payload) :
    (Literal.mk payload opened.raw.reverse opened.start).Repeats := by
  rw [h.raw_eq]
  intro s rest hs hrest
  have hput : (s.reading mode).Releases (s.put ⟨payload, mode.raw, opened.start⟩) := by
    have hclose : (s.reading mode).close ⟨s.position, opened.raw⟩ payload =
        s.put ⟨payload, mode.raw, opened.start⟩ := by
      rw [Lifting.close_eq_state, h.raw_eq, Lifting.put, hs.1.1]
      rfl
    rw [← hclose]
    exact .literal _ payload (h.movedTo s.position)
  rw [Lifting.run_append_of_ok (hm s hs)]
  refine Lifting.run_of_pending hs.1.1 (Lifting.finish_eq_ok.mpr hput) fun c hc => ?_
  exact Lifting.advance_eq_outside hput (h.stops_movedTo (hrest c hc) s.position)

end Mode

/-- What is being read leads to the same mode again, and a literal that it ends is lifted again. -/
theorem isMaintained_repeats :
    Lifting.IsMaintained (Piece.IfLiteral Literal.Repeats) Mode.Repeats where
  outside := Mode.repeats_outside
  starts h := h.repeats
  takes hm h := hm.takes h
  plain _ _ := trivial
  sign _ _ := trivial
  ends hm h := hm.ends h
  completes hm h := hm.completes h

/-- Every literal of a pattern text is lifted again, from wherever a literal may begin. -/
theorem Template.repeats_of_mem_literals {text : List Char} {t : Template} (h : ofText text = .ok t)
    {l : Literal} (hl : l ∈ t.literals) : l.Repeats :=
  isMaintained_repeats.forall_literals h l hl

def Piece.Relifts (inName : Bool) (rest : List Piece) : Piece → Prop
  | .plain c _ => c ≠ markerChar ∧ ¬ IsQuote c ∧ c ≠ '/' ∧
      (inName = false → c.isDigit = false ∧ ¬ IsSign c)
  | .literal l => l.Repeats ∧ inName = false ∧ ∀ c ∈ (written rest).head?, Separates c

def Relifts : (inName : Bool) → List Piece → Prop
  | _, [] => True
  | inName, piece :: rest => piece.Relifts inName rest ∧ Relifts piece.isNamed rest

namespace Lifting

variable {s : Lifting} {c : Char} {p i : Nat} {first second pieces : List Piece}

theorem whenAmong_append (h : WhenAmong first i) (second : List Piece) :
    WhenAmong (first ++ second) i := by
  obtain ⟨before, b, c, after, hb, hc, hpieces, hlength⟩ := h
  refine ⟨before, b, c, after ++ second.map Piece.char?, hb, hc, ?_, hlength⟩
  rw [List.map_append, hpieces]
  simp

/-- A character that is kept begins no condition where the word stands nowhere between blanks. -/
theorem step_relifts (hs : s.IsIdle) (h : (Piece.plain c s.position).Relifts s.endsInName second)
    (hwhen : ∀ i, ¬ WhenAmong (s.pieces.reverse ++ .plain c s.position :: second) i) :
    s.step c = .ok (state (s.position + 1) (.plain c s.position :: s.pieces) none .outside) := by
  obtain ⟨hmarker, hquote, hslash, hname⟩ := h
  have hbegin : Text.isBlank c = false ∨ s.endsInWhen = false := by
    by_contra hboth
    rw [not_or, Bool.not_eq_false, Bool.not_eq_false] at hboth
    have hpush : WhenAmong (.plain c s.position :: s.pieces).reverse (s.pieces.length - 4) :=
      whenAmong_push.mpr (Or.inr ⟨⟨hboth.2, c, rfl, hboth.1⟩, rfl⟩)
    rw [List.reverse_cons] at hpush
    apply hwhen (s.pieces.length - 4)
    rw [List.append_cons]
    exact whenAmong_append hpush second
  have hkept : s.endsInName = true ∨ c.isDigit = false ∧ c ≠ '+' ∧ c ≠ '-' := by
    cases hn : s.endsInName with
    | true => exact Or.inl rfl
    | false =>
      obtain ⟨hdigit, hsign⟩ := hname hn
      exact Or.inr ⟨hdigit, fun h => hsign (Or.inl h), fun h => hsign (Or.inr h)⟩
  have hquotes : c ≠ '\'' ∧ c ≠ '"' :=
    ⟨fun h => hquote (Or.inl h), fun h => hquote (Or.inr h)⟩
  have henter := enter_eq_emit hs.2 ⟨hquotes.1, hquotes.2, hslash⟩ hkept
  rw [step_enter hs.1 hmarker hbegin, henter, emit_eq_state, hs.2]
  rfl

/-- A row of pieces is lifted again from the way it is written. -/
theorem run_written (hs : s.IsIdle) (h : Relifts s.endsInName pieces)
    (ha : Aligned s.position pieces)
    (hwhen : ∀ i, ¬ WhenAmong (s.pieces.reverse ++ pieces) i) :
    ∃ position, s.run (written pieces) =
      .ok (state position (pieces.reverse ++ s.pieces) none .outside) := by
  -- the state holds the pieces that have been lifted, and the row those that are to come
  induction pieces generalizing s with
  | nil =>
    have hstate : s = state s.position ([].reverse ++ s.pieces) none .outside :=
      eq_of_fields rfl rfl hs.2 hs.1
    exact ⟨s.position, (run_nil hs.1).trans (congrArg Except.ok hstate)⟩
  | cons piece rest ih =>
    obtain ⟨hpiece, hrest⟩ := h
    obtain ⟨hposition, ha⟩ := ha
    have hreverse : (piece :: rest).reverse ++ s.pieces = rest.reverse ++ (piece :: s.pieces) := by
      rw [List.reverse_cons, List.append_assoc]
      rfl
    have hbehind : ∀ i, ¬ WhenAmong ((piece :: s.pieces).reverse ++ rest) i := by
      rwa [List.reverse_cons, ← List.append_cons]
    rw [hreverse]
    cases piece with
    | plain c p =>
      obtain rfl : p = s.position := hposition
      have hstep := step_relifts hs hpiece hwhen
      let t : Lifting := state (s.position + 1) (.plain c s.position :: s.pieces) none .outside
      have hnamed : t.endsInName = Text.isNameChar c := congrArg Text.isNameChar (Trail.last_emit _ c)
      obtain ⟨position, hrun⟩ := ih (s := t) ⟨rfl, rfl⟩ (by rwa [hnamed]) ha hbehind
      exact ⟨position, (run_cons_of_ok hstep).trans hrun⟩
    | literal l =>
      obtain ⟨hrepeats, hname, hseparates⟩ := hpiece
      have hput : (s.put l).pieces = .literal l :: s.pieces := by
        obtain ⟨payload, raw, place⟩ := l
        obtain rfl : place = s.position := hposition
        rfl
      obtain ⟨position, hrun⟩ := ih (s := s.put l) hs hrest ha (by rwa [hput])
      rw [hput] at hrun
      exact ⟨position, (hrepeats s (written rest) ⟨hs, hname⟩ hseparates).trans hrun⟩

end Lifting

/-- A row of pieces is the template of what it is written as, if each of them is lifted again and the
word `when` stands nowhere between blanks. -/
theorem Template.ofText_written {pieces : List Piece} (h : Relifts false pieces)
    (ha : Aligned 0 pieces) (hwhen : ∀ i, ¬ WhenAmong pieces i) :
    ofText (written pieces) = .ok ⟨pieces, none⟩ := by
  obtain ⟨position, hrun⟩ := Lifting.run_written (s := .start) ⟨rfl, rfl⟩ h ha hwhen
  obtain ⟨s, hs, hfinish⟩ := Run.bind_eq_ok.mp hrun
  refine ofText_eq_ok.mpr ⟨s, _, hs, hfinish, ?_⟩
  have hpieces : (pieces.reverse ++ Lifting.start.pieces).reverse = pieces := by
    rw [List.reverse_append, List.reverse_reverse]
    rfl
  rw [Lifting.pieces_state, hpieces, Lifting.patternPieces_state]

end Destructure
