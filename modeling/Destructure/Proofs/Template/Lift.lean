import Destructure.Pattern.Describe
import Destructure.Proofs.Template.Reading

namespace Destructure

open Pattern (quoteText escapeChar)

def Piece.position : Piece → Nat
  | .plain _ position => position
  | .literal l => l.position

@[simp]
theorem literalsOf_plain (c : Char) (position : Nat) (rest : List Piece) :
    literalsOf (.plain c position :: rest) = literalsOf rest :=
  rfl

@[simp]
theorem literalsOf_literal (l : Literal) (rest : List Piece) :
    literalsOf (.literal l :: rest) = l :: literalsOf rest :=
  rfl

theorem literalsOf_reverse (pieces : List Piece) :
    literalsOf pieces.reverse = (literalsOf pieces).reverse :=
  List.filterMap_reverse

theorem mem_literalsOf {pieces : List Piece} {l : Literal} :
    l ∈ literalsOf pieces ↔ .literal l ∈ pieces := by
  unfold literalsOf
  rw [List.mem_filterMap]
  constructor
  · rintro ⟨piece, hm, h⟩
    cases piece with
    | plain c position => cases h
    | literal other =>
      cases h
      exact hm
  · exact fun h => ⟨_, h, rfl⟩

def Piece.IfLiteral (Q : Literal → Prop) : Piece → Prop
  | .plain _ _ => True
  | .literal l => Q l

theorem forall_mem_literalsOf {Q : Literal → Prop} {pieces : List Piece} :
    (∀ l ∈ literalsOf pieces, Q l) ↔ ∀ piece ∈ pieces, piece.IfLiteral Q := by
  constructor
  · intro h piece hm
    cases piece with
    | plain c position => trivial
    | literal l => exact h l (mem_literalsOf.mpr hm)
  · exact fun h l hl => h _ (mem_literalsOf.mp hl)

namespace Lifting

theorem position_emit (s : Lifting) (c : Char) (position : Nat) :
    (s.emit c position).position = s.position :=
  rfl

theorem position_beginCondition (s : Lifting) (c : Char) :
    (s.beginCondition c).position = s.position := by
  unfold beginCondition
  split <;> rfl

theorem position_enter (s : Lifting) (c : Char) : (s.enter c).position = s.position := by
  simp only [enter, apply_ite Lifting.position, position_emit, ite_self]

inductive Settles (s : Lifting) : Lifting → Prop
  | outside (h : s.mode = .outside) : Settles s s
  | sign (c : Char) (h : s.mode = .sign c) : Settles s (s.emit c (s.position - 1))
  | close (opened : Opened) (payload : Payload)
      (h : s.mode.start? s.position = some opened.start) : Settles s (s.close opened payload)

section Cases

variable {s t : Lifting} {c : Char}

theorem Releases.settles (h : s.Releases t) : s.Settles t := by
  cases h with
  | outside hm => exact .outside hm
  | sign c hm => exact .sign c hm
  | literal opened payload hl => exact .close opened payload hl.start_eq

theorem settles_closeNumber {opened : Opened} (hm : s.mode = .number opened)
    (h : s.closeNumber opened = .ok t) : s.Settles t := by
  obtain ⟨value, -, rfl⟩ := closeNumber_eq_ok.mp h
  exact .close opened _ (by rw [hm]; rfl)

/-- A character either continues what is being read, or ends it, or comes after its end. -/
theorem advance_cases (h : s.advance c = .ok t) :
    (∃ mode, mode.start? (s.position + 1) = s.mode.start? s.position ∧ t = { s with mode := mode }) ∨
      s.Settles t ∨ ∃ u, s.Settles u ∧ u.outside c = .ok t := by
  cases advance_eq_ok.mp h with
  | takes mode hmode => exact Or.inl ⟨mode, hmode.start_eq, rfl⟩
  | ends opened payload hl => exact Or.inr (Or.inl (.close opened payload hl.start_eq))
  | outside hu _ h => exact Or.inr (Or.inr ⟨_, hu.settles, h⟩)

theorem finish_settles (h : s.finish = .ok t) : s.Settles t :=
  (finish_eq_ok.mp h).settles

theorem Settles.position_eq (h : s.Settles t) : t.position = s.position := by
  cases h <;> rfl

theorem position_advance (h : s.advance c = .ok t) : t.position = s.position := by
  rcases advance_cases h with ⟨mode, -, rfl⟩ | h | ⟨u, hu, h⟩
  · rfl
  · exact h.position_eq
  · obtain ⟨-, rfl⟩ := outside_eq_ok.mp h
    rw [position_enter, position_beginCondition, hu.position_eq]

theorem position_step (h : s.step c = .ok t) :
    t.position = s.position + 1 := by
  obtain ⟨u, hu, rfl⟩ := step_eq_ok.mp h
  exact congrArg (· + 1) (position_advance hu)

theorem position_foldlM_step {cs : List Char} (h : cs.foldlM step s = .ok t) :
    t.position = s.position + cs.length := by
  induction cs generalizing s with
  | nil =>
    cases h
    rfl
  | cons c cs ih =>
    obtain ⟨u, hu, hr⟩ := Run.foldlM_cons_eq_ok.mp h
    rw [ih hr, position_step hu, List.length_cons]
    omega

theorem Settles.mode_eq (h : s.Settles t) : t.mode = .outside := by
  cases h with
  | outside hm => exact hm
  | sign c hm => rfl
  | close opened payload hm => rfl

/-- What is read behind a character began with it, or takes it, unless nothing is read there. -/
theorem mode_step (h : s.step c = .ok t) :
    t.mode = .outside ∨ t.mode.StartsAt s.position c ∨ s.mode.Takes s.position c t.mode := by
  obtain ⟨u, hu, rfl⟩ := step_eq_ok.mp h
  cases advance_eq_ok.mp hu with
  | takes mode hmode => exact Or.inr (Or.inr hmode)
  | ends opened payload hl => exact Or.inl rfl
  | @outside v _ hv _ h =>
    obtain ⟨-, rfl⟩ := outside_eq_ok.mp h
    have hposition : (v.beginCondition c).position = s.position := by
      rw [position_beginCondition, hv.settles.position_eq]
    rcases enter_cases (v.beginCondition c) c with h | ⟨mode, hmode, h⟩
    · rw [h]
      exact Or.inl rfl
    · rw [h]
      exact Or.inr (Or.inl (hposition ▸ hmode))

/-- A literal that is being read has been begun here or before. -/
theorem start_step {p : Nat} (h : s.step c = .ok t) (hp : p ∈ t.mode.start? t.position) :
    p ∈ s.mode.start? s.position ∨ p = s.position := by
  rw [position_step h] at hp
  rcases mode_step h with hm | hm | hm
  · rw [hm] at hp
    cases hp
  · rw [hm.start_eq] at hp
    exact Or.inr (Option.some.inj hp).symm
  · exact Or.inl (hm.start_eq ▸ hp)

def Keeps (P : Piece → Prop) (s : Lifting) : Prop :=
  (∀ piece ∈ s.pieces, P piece) ∧
    ∀ piece : Piece, piece.position ∈ s.mode.start? s.position → P piece

variable {P : Piece → Prop}

theorem pieces_beginCondition (s : Lifting) (c : Char) :
    (s.beginCondition c).pieces = s.pieces := by
  unfold beginCondition
  split <;> rfl

theorem forall_pieces_enter (hs : ∀ piece ∈ s.pieces, P piece)
    (hp : ∀ piece : Piece, piece.position = s.position → P piece) :
    ∀ piece ∈ (s.enter c).pieces, P piece := by
  have hemit : ∀ piece ∈ (s.emit c s.position).pieces, P piece :=
    List.forall_mem_cons.mpr ⟨hp _ rfl, hs⟩
  rcases enter_cases s c with h | ⟨mode, -, h⟩
  · rw [h]
    exact hemit
  · rw [h]
    exact hs

theorem Settles.forall_pieces (h : s.Settles t) (hs : s.Keeps P) : ∀ piece ∈ t.pieces, P piece := by
  obtain ⟨hpieces, hstart⟩ := hs
  cases h with
  | outside hm => exact hpieces
  | sign c hm => exact List.forall_mem_cons.mpr ⟨hstart _ (by rw [hm]; rfl), hpieces⟩
  | close opened payload hm => exact List.forall_mem_cons.mpr ⟨hstart _ hm, hpieces⟩

/-- A new piece is at the next place, or where a literal was being read. -/
theorem keeps_step (hs : s.Keeps P) (hp : ∀ piece : Piece, piece.position = s.position → P piece)
    (h : s.step c = .ok t) : t.Keeps P := by
  have hstart (piece : Piece) (hm : piece.position ∈ t.mode.start? t.position) : P piece := by
    rcases start_step h hm with hm | hm
    · exact hs.2 piece hm
    · exact hp piece hm
  refine ⟨?_, hstart⟩
  obtain ⟨u, hu, rfl⟩ := step_eq_ok.mp h
  rcases advance_cases hu with ⟨mode, hm, rfl⟩ | h | ⟨v, hv, h⟩
  · exact hs.1
  · exact h.forall_pieces hs
  · obtain ⟨-, rfl⟩ := outside_eq_ok.mp h
    have hpos : (v.beginCondition c).position = s.position := by
      rw [position_beginCondition, hv.position_eq]
    refine forall_pieces_enter ?_ (hpos ▸ hp)
    rw [pieces_beginCondition]
    exact hv.forall_pieces hs

/-- What has been read lies behind. -/
theorem keeps_foldlM_start {cs : List Char} (h : cs.foldlM step .start = .ok s) :
    s.Keeps (·.position < s.position) := by
  have hstart : start.Keeps (·.position < start.position) :=
    ⟨fun piece hm => (nomatch hm), fun piece hm => (nomatch hm)⟩
  refine Run.invariant (P := fun s => s.Keeps (·.position < s.position)) ?_ hstart h
  intro s t c _ hs h
  have hp := position_step h
  have hlt : s.Keeps (·.position < t.position) :=
    ⟨fun piece hm => by have := hs.1 piece hm; omega,
      fun piece hm => by have := hs.2 piece hm; omega⟩
  exact keeps_step hlt (fun piece he => by omega) h

/-- What all pieces behind a position have, all pieces have, if they had it there. -/
theorem keeps_foldlM {cs : List Char} {n : Nat} (hs : s.Keeps P) (hn : n < s.position)
    (hp : ∀ piece : Piece, n < piece.position → P piece) (h : cs.foldlM step s = .ok t) :
    t.Keeps P := by
  have hinv := Run.invariant (P := fun s => n < s.position ∧ s.Keeps P) ?_ ⟨hn, hs⟩ h
  · exact hinv.2
  · intro s t c _ hs h
    have hpos := position_step h
    exact ⟨by omega, keeps_step hs.2 (fun piece he => hp piece (by omega)) h⟩

end Cases

def Holds (P : Piece → Prop) (M : Mode → Prop) (s : Lifting) : Prop :=
  (∀ piece ∈ s.pieces, P piece) ∧ M s.mode

structure IsMaintained (P : Piece → Prop) (M : Mode → Prop) : Prop where
  outside : M .outside
  starts : ∀ {position : Nat} {c : Char} {mode : Mode}, mode.StartsAt position c → M mode
  takes : ∀ {position : Nat} {c : Char} {mode next : Mode},
    M mode → mode.Takes position c next → M next
  plain : ∀ {c : Char} (position : Nat), c ≠ markerChar → P (.plain c position)
  sign : ∀ {c : Char} (position : Nat), M (.sign c) → P (.plain c position)
  ends : ∀ {c : Char} {mode : Mode} {opened : Opened} {payload : Payload},
    M mode → mode.Ends c opened payload → P (.literal ⟨payload, opened.raw.reverse, opened.start⟩)
  completes : ∀ {mode : Mode} {opened : Opened} {payload : Payload},
    M mode → mode.Completes opened payload → P (.literal ⟨payload, opened.raw.reverse, opened.start⟩)

namespace IsMaintained

variable {P : Piece → Prop} {M : Mode → Prop} {s t : Lifting} {c : Char} {cs : List Char}

theorem holds_emit (h : IsMaintained P M) (hs : s.Holds P M) {position : Nat}
    (hp : P (.plain c position)) : (s.emit c position).Holds P M :=
  ⟨List.forall_mem_cons.mpr ⟨hp, hs.1⟩, h.outside⟩

theorem holds_close (h : IsMaintained P M) (hs : s.Holds P M) {opened : Opened} {payload : Payload}
    (hp : P (.literal ⟨payload, opened.raw.reverse, opened.start⟩)) :
    (s.close opened payload).Holds P M :=
  ⟨List.forall_mem_cons.mpr ⟨hp, hs.1⟩, h.outside⟩

theorem holds_releases (h : IsMaintained P M) (hs : s.Holds P M) (ht : s.Releases t) :
    t.Holds P M := by
  have hmode := hs.2
  cases ht with
  | outside hm => exact hs
  | sign c hm =>
    rw [hm] at hmode
    exact h.holds_emit hs (h.sign _ hmode)
  | literal opened payload hl => exact h.holds_close hs (h.completes hmode hl)

theorem holds_outside (h : IsMaintained P M) (hs : s.Holds P M) (ht : s.outside c = .ok t) :
    t.Holds P M := by
  obtain ⟨hc, rfl⟩ := outside_eq_ok.mp ht
  have hbegin : (s.beginCondition c).Holds P M := by
    unfold beginCondition
    split <;> exact hs
  rcases enter_cases (s.beginCondition c) c with he | ⟨mode, hmode, he⟩
  · rw [he]
    exact h.holds_emit hbegin (h.plain _ hc)
  · rw [he]
    exact ⟨hbegin.1, h.starts hmode⟩

theorem holds_step (h : IsMaintained P M) (hs : s.Holds P M) (ht : s.step c = .ok t) :
    t.Holds P M := by
  obtain ⟨u, hu, rfl⟩ := step_eq_ok.mp ht
  have hadvance : u.Holds P M := by
    cases advance_eq_ok.mp hu with
    | takes mode hnext => exact ⟨hs.1, h.takes hs.2 hnext⟩
    | ends opened payload hl => exact h.holds_close hs (h.ends hs.2 hl)
    | outside hv _ hout => exact h.holds_outside (h.holds_releases hs hv) hout
  exact hadvance

theorem holds_foldlM (h : IsMaintained P M) (hs : cs.foldlM step start = .ok s) : s.Holds P M := by
  have hstart : start.Holds P M := ⟨fun piece hm => (nomatch hm), h.outside⟩
  exact Run.invariant (P := Holds P M) (fun _ _ _ _ hs ht => h.holds_step hs ht) hstart hs

end IsMaintained

/-- What number is read does not depend on where it begins. -/
theorem readNumber_of_raw {opened : Opened} {number : Number}
    (hr : readNumber opened = .ok number) (other : Opened) (h : opened.raw = other.raw) :
    readNumber other = .ok number := by
  unfold readNumber at hr ⊢
  rw [h] at hr
  dsimp only at hr ⊢
  split at hr
  · exact hr
  · cases hr

/-- Reading a character of a text that has been escaped for single quotes. -/
theorem foldlM_step_escapeChar (position : Nat) (pieces : List Piece) (patternPieces : Option Nat)
    (opened : Opened) (value : List Char) (c : Char) :
    (escapeChar c).foldlM step
        (state position pieces patternPieces (.quoted opened '\'' value false)) =
      .ok (state (position + (escapeChar c).length) pieces patternPieces
        (.quoted ⟨opened.start, (escapeChar c).reverse ++ opened.raw⟩ '\'' (c :: value) false)) := by
  by_cases hb : c = '\\'
  · subst hb
    rfl
  · by_cases hq : c = '\''
    · subst hq
      rfl
    · have he : escapeChar c = [c] := if_neg fun h => h.elim hb hq
      rw [he, List.foldlM_cons]
      simp only [step, advance, state, inQuotes, Bool.false_eq_true, if_false, if_neg hb, if_neg hq]
      rfl

/-- Reading the inside of a quoted text. -/
theorem foldlM_step_escaped (position : Nat) (pieces : List Piece) (patternPieces : Option Nat)
    (opened : Opened) (value more : List Char) :
    (more.flatMap escapeChar).foldlM step
        (state position pieces patternPieces (.quoted opened '\'' value false)) =
      .ok (state (position + (more.flatMap escapeChar).length) pieces patternPieces
        (.quoted ⟨opened.start, (more.flatMap escapeChar).reverse ++ opened.raw⟩ '\''
          (more.reverse ++ value) false)) := by
  induction more generalizing position opened value with
  | nil => rfl
  | cons c more ih =>
    rw [List.flatMap_cons, Run.foldlM_append_of_ok (foldlM_step_escapeChar ..), ih]
    simp only [List.length_append, List.reverse_append, List.append_assoc, List.reverse_cons,
      Nat.add_assoc, List.cons_append, List.nil_append]

theorem step_closingQuote (position : Nat) (pieces : List Piece) (patternPieces : Option Nat)
    (opened : Opened) (value : List Char) :
    step (state position pieces patternPieces (.quoted opened '\'' value false)) '\'' =
      .ok (state (position + 1)
        (.literal ⟨.text value.reverse, ('\'' :: opened.raw).reverse, opened.start⟩ :: pieces)
        patternPieces .outside) :=
  rfl

/-- Reading a quoted text from its opening quote on. -/
theorem foldlM_step_quoted (position : Nat) (pieces : List Piece) (patternPieces : Option Nat)
    (start : Nat) (value : List Char) :
    (value.flatMap escapeChar ++ ['\'']).foldlM step
        (state position pieces patternPieces (.quoted ⟨start, ['\'']⟩ '\'' [] false)) =
      .ok (state (position + (value.flatMap escapeChar).length + 1)
        (.literal ⟨.text value, quoteText value, start⟩ :: pieces) patternPieces .outside) := by
  have hraw : ('\'' :: ((value.flatMap escapeChar).reverse ++ ['\''])).reverse = quoteText value := by
    simp [quoteText]
  rw [Run.foldlM_append_of_ok (foldlM_step_escaped ..), Run.foldlM_cons_of_ok (step_closingQuote ..),
    hraw, List.append_nil, List.reverse_reverse]
  rfl

end Lifting

theorem Template.ofText_eq_ok {source : List Char} {t : Template} :
    Template.ofText source = .ok t ↔
      ∃ s u, source.foldlM Lifting.step .start = .ok s ∧ s.finish = .ok u ∧
        ⟨u.pieces.reverse, u.patternPieces⟩ = t := by
  unfold Template.ofText
  constructor
  · intro h
    obtain ⟨s, hs, h⟩ := Run.bind_eq_ok.mp h
    obtain ⟨u, hu, h⟩ := Run.bind_eq_ok.mp h
    exact ⟨s, u, hs, hu, Except.ok.inj h⟩
  · rintro ⟨s, u, hs, hu, rfl⟩
    exact Run.bind_eq_ok.mpr ⟨s, hs, Run.bind_eq_ok.mpr ⟨u, hu, rfl⟩⟩

namespace Lifting.IsMaintained

variable {P : Piece → Prop} {Q : Literal → Prop} {M : Mode → Prop} {source : List Char} {t : Template}

/-- What goes on from one character to the next, all pieces of a template have. -/
theorem forall_pieces (h : IsMaintained P M) (ht : Template.ofText source = .ok t) :
    ∀ piece ∈ t.pieces, P piece := by
  obtain ⟨s, u, hs, hu, rfl⟩ := Template.ofText_eq_ok.mp ht
  have hholds := h.holds_releases (h.holds_foldlM hs) (finish_eq_ok.mp hu)
  exact fun piece hm => hholds.1 piece (List.mem_reverse.mp hm)

theorem forall_literals (h : IsMaintained (Piece.IfLiteral Q) M)
    (ht : Template.ofText source = .ok t) : ∀ l ∈ t.literals, Q l :=
  forall_mem_literalsOf.mpr (h.forall_pieces ht)

end Lifting.IsMaintained

end Destructure
