import Destructure.Proofs.Template.Lift

/-!
A quoted text inside a pattern text. Main statement: where an empty quoted text is lifted out of a
pattern text, any quoted text may stand instead. Its content reaches no further than its closing
quote: everything else that is lifted is the same, and what comes after it moves by as much as the
text has grown.
-/

namespace Destructure

open Pattern (quoteText escapeChar)

def growth (value : List Char) : Nat :=
  (quoteText value).length - 2

def shifted (n d p : Nat) : Nat :=
  if p ≤ n then p else p + d

theorem length_quoteText (value : List Char) :
    (quoteText value).length = (value.flatMap escapeChar).length + 2 := by
  simp [quoteText]

theorem growth_eq (value : List Char) : growth value = (value.flatMap escapeChar).length := by
  rw [growth, length_quoteText, Nat.add_sub_cancel]

theorem shifted_of_lt {n p : Nat} (h : n < p) (d : Nat) : shifted n d p = p + d :=
  if_neg (by omega)

theorem shifted_of_le {n p : Nat} (h : p ≤ n) (d : Nat) : shifted n d p = p :=
  if_pos h

def Literal.refill (n : Nat) (value : List Char) (l : Literal) : Literal :=
  if l.position = n then ⟨.text value, quoteText value, n⟩
  else { l with position := shifted n (growth value) l.position }

def emptyQuotes (n : Nat) : Literal :=
  ⟨.text [], ['\'', '\''], n⟩

theorem refill_emptyQuotes (n : Nat) (value : List Char) :
    (emptyQuotes n).refill n value = ⟨.text value, quoteText value, n⟩ :=
  if_pos rfl

def Piece.refill (n : Nat) (value : List Char) : Piece → Piece
  | .plain c position => .plain c (shifted n (growth value) position)
  | .literal l => .literal (l.refill n value)

@[simp]
theorem Piece.refill_plain (n : Nat) (value : List Char) (c : Char) (position : Nat) :
    (Piece.plain c position).refill n value = .plain c (shifted n (growth value) position) :=
  rfl

@[simp]
theorem Piece.refill_literal (n : Nat) (value : List Char) (l : Literal) :
    (Piece.literal l).refill n value = .literal (l.refill n value) :=
  rfl

def Template.refill (n : Nat) (value : List Char) (t : Template) : Template :=
  ⟨t.pieces.map (·.refill n value), t.patternPieces⟩

variable (n : Nat) (value : List Char)

theorem literalsOf_refill (pieces : List Piece) :
    literalsOf (pieces.map (·.refill n value)) = (literalsOf pieces).map (·.refill n value) := by
  induction pieces with
  | nil => rfl
  | cons piece rest ih =>
    cases piece with
    | plain c position => exact ih
    | literal l => exact congrArg (l.refill n value :: ·) ih

def Opened.shift (d : Nat) (o : Opened) : Opened :=
  { o with start := o.start + d }

namespace Mode

def shift (d : Nat) : Mode → Mode
  | .outside => .outside
  | .sign c => .sign c
  | .quoted opened quote content escaping => .quoted (opened.shift d) quote content escaping
  | .regex opened escaping => .regex (opened.shift d) escaping
  | .regexEnd opened => .regexEnd (opened.shift d)
  | .number opened => .number (opened.shift d)

variable {d position : Nat} {c : Char} {mode next : Mode} {opened : Opened} {payload : Payload}

theorem shift_inRegex (d : Nat) (opened : Opened) (escaping : Bool) (c : Char) :
    (inRegex opened escaping c).shift d = inRegex (opened.shift d) escaping c := by
  unfold inRegex
  simp only [apply_ite (shift d)]
  rfl

theorem Takes.shift (h : mode.Takes position c next) (hp : 0 < position) :
    (mode.shift d).Takes (position + d) c (next.shift d) := by
  cases h with
  | digit sign hc =>
    have hstart : position - 1 + d = position + d - 1 := by omega
    rw [Mode.shift, Mode.shift, Opened.shift, hstart]
    exact .digit sign hc
  | escaped opened quote value hd => exact .escaped (opened.shift d) quote value hd
  | backslash opened quote value hc => exact .backslash (opened.shift d) quote value hc
  | plain opened value hb hq => exact .plain (opened.shift d) value hb hq
  | regex opened escaping =>
    rw [shift_inRegex]
    exact .regex (opened.shift d) escaping
  | number opened hc => exact .number (opened.shift d) hc

theorem Ends.shift (h : mode.Ends c opened payload) :
    (mode.shift d).Ends c (opened.shift d) payload := by
  cases h with
  | quote opened value hb => exact .quote (opened.shift d) value hb
  | flag opened hc => exact .flag (opened.shift d) hc

theorem Completes.shift (h : mode.Completes opened payload) :
    (mode.shift d).Completes (opened.shift d) payload := by
  cases h with
  | regex opened => exact .regex (opened.shift d)
  | number opened hvalue =>
    exact .number (opened.shift d) (Lifting.readNumber_of_raw hvalue (opened.shift d) rfl)

theorem stops_shift : (mode.shift d).Stops c ↔ mode.Stops c := by
  cases mode <;> rfl

end Mode

namespace Lifting

def refill (s : Lifting) : Lifting :=
  state (s.position + growth value) (s.pieces.map (·.refill n value)) s.patternPieces
    (s.mode.shift (growth value))

def IsPast (s : Lifting) : Prop :=
  n < s.position ∧ ∀ p ∈ s.mode.start? s.position, n < p

variable {n} {s t : Lifting} {c : Char}

theorem map_char?_refill (pieces : List Piece) :
    (pieces.map (·.refill n value)).map Piece.char? = pieces.map Piece.char? := by
  rw [List.map_map]
  apply List.map_congr_left
  intro piece _
  cases piece <;> rfl

theorem endsInName_refill : (s.refill n value).endsInName = s.endsInName := by
  rw [Bool.eq_iff_iff, endsInName_iff, endsInName_iff]
  simp only [refill, state, map_char?_refill]

theorem endsInWhen_refill : (s.refill n value).endsInWhen = s.endsInWhen := by
  rw [Bool.eq_iff_iff, endsInWhen_iff, endsInWhen_iff]
  simp only [refill, state, map_char?_refill]

theorem emit_refill {position : Nat} (h : n < position) :
    (s.refill n value).emit c (position + growth value) = (s.emit c position).refill n value := by
  refine eq_of_fields rfl ?_ rfl rfl
  simp only [emit, refill, state, List.map_cons, Piece.refill, shifted_of_lt h]

theorem close_refill {opened : Opened} {payload : Payload} (h : n < opened.start) :
    (s.refill n value).close (opened.shift (growth value)) payload =
      (s.close opened payload).refill n value := by
  have hn : opened.start ≠ n := by omega
  refine eq_of_fields rfl ?_ rfl rfl
  simp only [close, refill, state, List.map_cons, Piece.refill, Literal.refill, if_neg hn,
    shifted_of_lt h, Opened.shift]

theorem beginCondition_refill :
    (s.refill n value).beginCondition c = (s.beginCondition c).refill n value := by
  unfold beginCondition
  rw [endsInWhen_refill, apply_ite (refill n value)]
  simp only [refill, state, List.length_map]

theorem enter_refill (hs : n < s.position) :
    (s.refill n value).enter c = (s.enter c).refill n value := by
  have he : (s.refill n value).emit c (s.refill n value).position =
      (s.emit c s.position).refill n value := emit_refill value hs
  unfold enter
  rw [endsInName_refill, he]
  simp only [apply_ite (refill n value)]
  rfl

theorem outside_refill (hs : n < s.position) (h : s.outside c = .ok t) :
    (s.refill n value).outside c = .ok (t.refill n value) := by
  obtain ⟨hc, rfl⟩ := outside_eq_ok.mp h
  have hp : n < (s.beginCondition c).position := by rwa [position_beginCondition]
  rw [outside_eq _ hc, beginCondition_refill, enter_refill value hp]

theorem releases_refill (hs : s.IsPast n) (h : s.Releases t) :
    (s.refill n value).Releases (t.refill n value) := by
  obtain ⟨hp, hstart⟩ := hs
  cases h with
  | outside hm => exact .outside (by rw [refill, hm]; rfl)
  | sign sign hm =>
    have hlt : n < s.position - 1 := hstart _ (by rw [hm]; rfl)
    have hposition : (s.refill n value).position - 1 = s.position - 1 + growth value := by
      dsimp only [refill, state]
      omega
    rw [← emit_refill value hlt, ← hposition]
    exact .sign sign (by rw [refill, hm]; rfl)
  | literal opened payload hl =>
    rw [← close_refill value (hstart _ hl.start_eq)]
    exact .literal _ payload hl.shift

theorem advance_refill (hs : s.IsPast n) (h : s.advance c = .ok t) :
    (s.refill n value).advance c = .ok (t.refill n value) := by
  obtain ⟨hp, hstart⟩ := hs
  rw [advance_eq_ok] at h ⊢
  cases h with
  | takes mode hm => exact .takes (mode.shift (growth value)) (hm.shift (Nat.zero_lt_of_lt hp))
  | ends opened payload hl =>
    rw [← close_refill value (hstart _ hl.start_eq)]
    exact .ends _ payload hl.shift
  | outside hu hc hout =>
    refine .outside (releases_refill value ⟨hp, hstart⟩ hu) (Mode.stops_shift.mpr hc) ?_
    exact outside_refill value (hu.settles.position_eq ▸ hp) hout

theorem finish_refill (hs : s.IsPast n) (h : s.finish = .ok t) :
    (s.refill n value).finish = .ok (t.refill n value) :=
  finish_eq_ok.mpr (releases_refill value hs (finish_eq_ok.mp h))

theorem step_refill (hs : s.IsPast n) (h : s.step c = .ok t) :
    (s.refill n value).step c = .ok (t.refill n value) := by
  obtain ⟨u, hu, rfl⟩ := step_eq_ok.mp h
  refine step_eq_ok.mpr ⟨_, advance_refill value hs hu, eq_of_fields ?_ rfl rfl rfl⟩
  exact Nat.add_right_comm ..

theorem isPast_step (hs : s.IsPast n) (h : s.step c = .ok t) : t.IsPast n := by
  have hp := position_step h
  obtain ⟨hlt, hstart⟩ := hs
  refine ⟨by omega, fun p hm => ?_⟩
  rcases start_step h hm with hm | rfl
  · exact hstart p hm
  · exact hlt

theorem foldlM_refill {cs : List Char} (hs : s.IsPast n) (h : cs.foldlM step s = .ok t) :
    cs.foldlM step (s.refill n value) = .ok (t.refill n value) ∧ t.IsPast n := by
  induction cs generalizing s with
  | nil =>
    cases h
    exact ⟨rfl, hs⟩
  | cons c cs ih =>
    obtain ⟨u, hu, hr⟩ := Run.foldlM_cons_eq_ok.mp h
    rw [Run.foldlM_cons_of_ok (step_refill value hs hu)]
    exact ih (isPast_step hs hu) hr

/-- A quote either opens a text, or does nothing at its place. -/
theorem step_quote (hs : s.Keeps (·.position < s.position)) (h : s.step '\'' = .ok t) :
    (∃ pieces patternPieces, (∀ piece ∈ pieces, piece.position < s.position) ∧
      t = state (s.position + 1) pieces patternPieces
        (.quoted ⟨s.position, ['\'']⟩ '\'' [] false)) ∨
    t.Keeps (·.position ≠ s.position) := by
  have hne (piece : Piece) (hm : piece ∈ s.pieces) : piece.position ≠ s.position :=
    Nat.ne_of_lt (hs.1 piece hm)
  have hkeeps : s.Keeps (·.position ≠ s.position) :=
    ⟨hne, fun piece hm => Nat.ne_of_lt (hs.2 piece hm)⟩
  obtain ⟨u, hu, rfl⟩ := step_eq_ok.mp h
  rcases advance_cases hu with ⟨mode, hm, rfl⟩ | h | ⟨v, hv, h⟩
  · refine Or.inr ⟨hne, fun piece hp => hkeeps.2 piece ?_⟩
    rwa [← hm]
  · refine Or.inr ⟨h.forall_pieces hkeeps, fun piece hp => ?_⟩
    simp only [h.mode_eq] at hp
    cases hp
  · obtain ⟨-, rfl⟩ := outside_eq_ok.mp h
    refine Or.inl ⟨v.pieces, (v.beginCondition '\'').patternPieces, hv.forall_pieces hs, ?_⟩
    have hpos : (v.beginCondition '\'').position = s.position := by
      rw [position_beginCondition, hv.position_eq]
    unfold enter
    rw [if_pos (Or.inl rfl), hpos]
    exact eq_of_fields rfl (pieces_beginCondition v _) rfl rfl

/-- Filling in changes nothing before the quoted text. -/
theorem map_refill_of_lt {pieces : List Piece} (h : ∀ piece ∈ pieces, piece.position < n) :
    pieces.map (·.refill n value) = pieces := by
  refine (List.map_congr_left fun piece hm => ?_).trans (List.map_id pieces)
  have hlt := h piece hm
  cases piece with
  | plain c position => exact congrArg (Piece.plain c) (shifted_of_le (Nat.le_of_lt hlt) _)
  | literal l =>
    have hlt : l.position < n := hlt
    have hne : l.position ≠ n := by omega
    simp only [Piece.refill, Literal.refill, if_neg hne, shifted_of_le (Nat.le_of_lt hlt), id]

def behindQuotes (n : Nat) (pieces : List Piece) (patternPieces : Option Nat) : Lifting :=
  state (n + 2) (.literal (emptyQuotes n) :: pieces) patternPieces .outside

variable {pieces : List Piece} {patternPieces : Option Nat}

theorem isPast_behindQuotes : (behindQuotes n pieces patternPieces).IsPast n :=
  ⟨Nat.lt_add_of_pos_right (Nat.succ_pos 1), fun _ hm => nomatch hm⟩

/-- The empty text is the only literal at its position. -/
theorem keeps_behindQuotes (h : ∀ piece ∈ pieces, piece.position < n) :
    (behindQuotes n pieces patternPieces).Keeps fun piece =>
      ∀ l, piece = .literal l → l.position = n → l = emptyQuotes n := by
  refine ⟨List.forall_mem_cons.mpr ⟨?_, ?_⟩, fun piece hm => nomatch hm⟩
  · intro l hl _
    cases hl
    rfl
  · rintro piece hm l rfl hp
    have hlt : l.position < n := h _ hm
    omega

theorem refill_behindQuotes (h : ∀ piece ∈ pieces, piece.position < n) :
    (behindQuotes n pieces patternPieces).refill n value =
      state (n + 1 + (value.flatMap escapeChar).length + 1)
        (.literal ⟨.text value, quoteText value, n⟩ :: pieces) patternPieces .outside := by
  have hp : n + 2 + growth value = n + 1 + (value.flatMap escapeChar).length + 1 := by
    rw [growth_eq]
    omega
  simp only [behindQuotes, refill, state, List.map_cons, map_refill_of_lt value h, hp,
    Piece.refill_literal, refill_emptyQuotes, Mode.shift]

/-- A run over two quotes opens and closes a text with them, or lifts nothing out at their place. -/
theorem foldlM_quotes {pre post : List Char}
    (h : (pre ++ '\'' :: '\'' :: post).foldlM step start = .ok s) :
    (∃ a pieces patternPieces, (∀ piece ∈ pieces, piece.position < pre.length) ∧
      pre.foldlM step start = .ok a ∧
      a.step '\'' = .ok (state (pre.length + 1) pieces patternPieces
        (.quoted ⟨pre.length, ['\'']⟩ '\'' [] false)) ∧
      post.foldlM step (behindQuotes pre.length pieces patternPieces) = .ok s) ∨
    s.Keeps (·.position ≠ pre.length) := by
  obtain ⟨a, ha, h⟩ := Run.foldlM_append_eq_ok.mp h
  obtain ⟨b, hb, h⟩ := Run.foldlM_cons_eq_ok.mp h
  have hpos : a.position = pre.length := by
    rw [position_foldlM_step ha]
    exact Nat.zero_add _
  have hposb := position_step hb
  rcases step_quote (keeps_foldlM_start ha) hb with ⟨pieces, patternPieces, hlt, rfl⟩ | hk
  · rw [hpos] at hb hlt h
    rw [Run.foldlM_cons_of_ok (step_closingQuote ..)] at h
    exact Or.inl ⟨a, pieces, patternPieces, hlt, ha, hb, h⟩
  · rw [hpos] at hk hposb
    exact Or.inr (keeps_foldlM (n := pre.length) hk (by omega) (fun piece hp => by omega) h)

end Lifting

namespace Template

variable {n} {pre post : List Char} {t : Template}

/-- Another text may be quoted where an empty one is lifted out. -/
theorem ofText_refill (h : ofText (pre ++ '\'' :: '\'' :: post) = .ok t)
    (hl : ∃ l ∈ t.literals, l.position = pre.length) :
    (∀ l ∈ t.literals, l.position = pre.length → l = emptyQuotes pre.length) ∧
      ofText (pre ++ quoteText value ++ post) = .ok (t.refill pre.length value) := by
  obtain ⟨s, u, hs, hu, rfl⟩ := ofText_eq_ok.mp h
  have hpieces {l : Literal} (hm : l ∈ literals ⟨u.pieces.reverse, u.patternPieces⟩) :
      .literal l ∈ u.pieces :=
    List.mem_reverse.mp (mem_literalsOf.mp hm)
  rcases Lifting.foldlM_quotes hs with ⟨a, pieces, patternPieces, hlt, ha, hb, hs⟩ | hk
  · constructor
    · intro l hm hp
      have hk := Lifting.keeps_foldlM (n := pre.length) (Lifting.keeps_behindQuotes hlt)
        Lifting.isPast_behindQuotes.1 (fun piece hn l he hp => by
          subst he
          have hn : pre.length < l.position := hn
          omega) hs
      exact (Lifting.finish_settles hu).forall_pieces hk _ (hpieces hm) l rfl hp
    · obtain ⟨hrun, hpast⟩ := Lifting.foldlM_refill value Lifting.isPast_behindQuotes hs
      refine ofText_eq_ok.mpr ⟨_, _, ?_, Lifting.finish_refill value hpast hu, ?_⟩
      · have hquote : quoteText value = '\'' :: (value.flatMap escapeChar ++ ['\'']) := rfl
        rw [List.append_assoc, Run.foldlM_append_of_ok ha, hquote, List.cons_append,
          Run.foldlM_cons_of_ok hb, Run.foldlM_append_of_ok (Lifting.foldlM_step_quoted ..),
          ← Lifting.refill_behindQuotes value hlt]
        exact hrun
      · simp only [Lifting.refill, Lifting.state, refill, List.map_reverse]
  · obtain ⟨l, hm, hp⟩ := hl
    exact absurd hp ((Lifting.finish_settles hu).forall_pieces hk _ (hpieces hm))

theorem literals_refill (t : Template) :
    (t.refill n value).literals = t.literals.map (·.refill n value) :=
  literalsOf_refill n value t.pieces

def shiftCell (n d : Nat) (cell : Char × Int) : Char × Int :=
  (cell.1, if cell.2 ≤ n then cell.2 else cell.2 + d)

theorem shiftCell_natCast (d : Nat) (c : Char) (p : Nat) :
    shiftCell n d (c, p) = (c, ((shifted n d p : Nat) : Int)) := by
  unfold shiftCell shifted
  dsimp only
  by_cases h : p ≤ n
  · rw [if_pos h, if_pos (Int.ofNat_le.mpr h)]
  · rw [if_neg h, if_neg fun hn => h (Int.ofNat_le.mp hn), Int.natCast_add]

theorem position_refill (l : Literal) :
    (l.refill n value).position = shifted n (growth value) l.position := by
  unfold Literal.refill
  split
  · rename_i h
    exact (shifted_of_le (Nat.le_of_eq h) _).symm ▸ h.symm
  · rfl

/-- Filling in moves the cells of a template, if it keeps the kinds of the literals. -/
theorem cells_refill {pieces : List Piece}
    (h : ∀ l ∈ literalsOf pieces, (l.refill n value).letter = l.letter) (number : Nat) :
    Destructure.cells number (pieces.map (·.refill n value)) =
      (Destructure.cells number pieces).map (shiftCell n (growth value)) := by
  induction pieces generalizing number with
  | nil => rfl
  | cons piece rest ih =>
    cases piece with
    | plain c position =>
      rw [literalsOf_plain] at h
      simp only [List.map_cons, Piece.refill_plain, Destructure.cells, shiftCell_natCast, ih h]
    | literal l =>
      rw [literalsOf_literal, List.forall_mem_cons] at h
      obtain ⟨hl, h⟩ := h
      have hm : marker number (l.refill n value) = marker number l := by
        unfold marker
        rw [hl]
      simp only [List.map_cons, Piece.refill_literal, Destructure.cells, List.map_append, List.map_map,
        hm, position_refill, ih h, Function.comp_def, shiftCell_natCast]

theorem conditionOffset_refill
    (h : ∀ l ∈ t.literals, (l.refill n value).letter = l.letter) :
    (t.refill n value).conditionOffset = t.conditionOffset := by
  have hlength (count : Nat) :
      (Destructure.cells 1 ((t.refill n value).pieces.take count)).length =
        (Destructure.cells 1 (t.pieces.take count)).length := by
    have htake : ∀ l ∈ literalsOf (t.pieces.take count), (l.refill n value).letter = l.letter :=
      fun l hm => h l (mem_literalsOf.mpr (List.mem_of_mem_take (mem_literalsOf.mp hm)))
    rw [refill, ← List.map_take, cells_refill value htake, List.length_map]
  simp only [conditionOffset, hlength]
  rfl

/-- Quoting a text keeps it apart from what surrounds it. Where an empty text is lifted out, any
text may be quoted instead: the template and the place of the condition in it stay as they are, the
literal there has the text as its value, and other literals keep all but their positions. -/
theorem ofText_quoteText (h : ofText (pre ++ ['\'', '\''] ++ post) = .ok t)
    (hl : ∃ l ∈ t.literals, l.position = pre.length) (s : String) :
    ∃ filled, ofText (pre ++ (Pattern.text s).describe ++ post) = .ok filled ∧
      filled.text = t.text ∧ filled.conditionOffset = t.conditionOffset ∧
      filled.literals.map Literal.letter = t.literals.map Literal.letter ∧
      filled.literals = t.literals.map (fun l =>
        if l.position = pre.length then ⟨.text s.toList, (Pattern.text s).describe, pre.length⟩
        else { l with position := shifted pre.length (growth s.toList) l.position }) ∧
      filled.cells = t.cells.map (shiftCell pre.length (growth s.toList)) := by
  rw [List.append_assoc] at h
  obtain ⟨hempty, hfilled⟩ := ofText_refill s.toList h hl
  have hletter (l : Literal) (hm : l ∈ t.literals) :
      (l.refill pre.length s.toList).letter = l.letter := by
    by_cases hp : l.position = pre.length
    · rw [hempty l hm hp, refill_emptyQuotes]
      rfl
    · rw [Literal.refill, if_neg hp]
      rfl
  have hcells : (t.refill pre.length s.toList).cells =
      t.cells.map (shiftCell pre.length (growth s.toList)) :=
    cells_refill s.toList hletter 1
  refine ⟨_, hfilled, ?_, ?_, ?_, literals_refill s.toList t, hcells⟩
  · rw [text, hcells, List.map_map]
    rfl
  · exact conditionOffset_refill s.toList hletter
  · rw [literals_refill, List.map_map]
    exact List.map_congr_left hletter

/-- A quoted text may hold an apostrophe, a slash and the word that introduces a condition. -/
theorem ofText_quoteText_apostrophe :
    ∃ filled,
      ofText ("[".toList ++ (Pattern.text "it's / when").describe ++ ", a] when a".toList) =
        .ok filled ∧
      filled.text = "[\x00S1\x00, a] when a".toList ∧ filled.conditionOffset = some 10 ∧
      filled.literals.map Literal.payload = [.text "it's / when".toList] := by
  have h : ofText ("[".toList ++ ['\'', '\''] ++ ", a] when a".toList) =
      .ok ⟨[.plain '[' 0, .literal ⟨.text [], ['\'', '\''], 1⟩, .plain ',' 3, .plain ' ' 4,
        .plain 'a' 5, .plain ']' 6, .plain ' ' 7, .plain 'w' 8, .plain 'h' 9, .plain 'e' 10,
        .plain 'n' 11, .plain ' ' 12, .plain 'a' 13], some 7⟩ := by
    rfl
  have hl : ∃ l ∈ [(⟨.text [], ['\'', '\''], 1⟩ : Literal)], l.position = "[".toList.length :=
    ⟨_, List.mem_singleton_self _, rfl⟩
  obtain ⟨filled, hf, ht, hc, -, hl, -⟩ := ofText_quoteText h hl "it's / when"
  exact ⟨filled, hf, ht, hc, by rw [hl]; rfl⟩

end Template

end Destructure
