import Destructure.Proofs.Template.Alignment
import Destructure.Proofs.Template.Markers

namespace Destructure

inductive Segment
  | plain (c : Char) (position : Int)
  | marker (letter : Char) (number : Nat) (cells : List (Char × Int))

namespace Segment

def cells : Segment → List (Char × Int)
  | .plain c position => [(c, position)]
  | .marker _ _ cells => cells

def filled (literal? : Nat → Option Literal) : Segment → List Char
  | .plain c _ => [c]
  | .marker _ number _ => (literal? number).elim [] Literal.raw

def shown? : Segment → Option (Char × Nat)
  | .plain _ _ => none
  | .marker letter number _ => some (letter, number)

end Segment

def segmentsFrom : (skip : Nat) → List (Char × Int) → Option (List Segment)
  | _, [] => some []
  | skip + 1, _ :: rest => segmentsFrom skip rest
  | 0, (c, position) :: rest =>
    if c = markerChar then do
      let (letter, _) ← rest.head?
      let digits ← Token.markerDigits? rest
      let behind ← segmentsFrom (digits.length + 2) rest
      return .marker letter (Numeral.valueOfDigits digits)
        ((c, position) :: rest.take (digits.length + 2)) :: behind
    else (segmentsFrom 0 rest).map (.plain c position :: ·)

namespace Template

def segments? (t : Template) : Option (List Segment) :=
  segmentsFrom 0 t.cells

def offsets (t : Template) : List Int :=
  t.cells.map (·.2)

end Template

section Order

def Increasing (pieces : List Piece) : Prop :=
  pieces.Pairwise fun first second => first.position < second.position

namespace Lifting

variable {s t : Lifting} {c : Char}

structure IsIncreasing (s : Lifting) : Prop where
  pieces : s.pieces.Pairwise fun later earlier => earlier.position < later.position
  start : ∀ p ∈ s.mode.start? s.position, ∀ piece ∈ s.pieces, piece.position < p

theorem isIncreasing_start : start.IsIncreasing where
  pieces := .nil
  start _ hp := nomatch hp

theorem IsIncreasing.settles (hs : s.IsIncreasing) (h : s.Settles t) :
    t.pieces.Pairwise fun later earlier => earlier.position < later.position := by
  cases h with
  | outside hm => exact hs.pieces
  | sign d hm =>
    apply List.pairwise_cons.mpr
    refine ⟨fun piece hpiece => ?_, hs.pieces⟩
    exact hs.start (s.position - 1) (by rw [hm]; rfl) piece hpiece
  | close opened payload hm =>
    apply List.pairwise_cons.mpr
    refine ⟨fun piece hpiece => ?_, hs.pieces⟩
    exact hs.start opened.start hm piece hpiece

/-- A new piece stands where a literal was begun, or at the next place. -/
theorem isIncreasing_step (hs : s.IsIncreasing) (hk : s.Keeps (·.position < s.position))
    (h : s.step c = .ok t) : t.IsIncreasing := by
  obtain ⟨u, hu, rfl⟩ := step_eq_ok.mp h
  rcases advance_cases hu with ⟨mode, hm, rfl⟩ | hsettles | ⟨v, hv, h⟩
  · exact ⟨hs.pieces, fun p hp => hs.start p (hm ▸ hp)⟩
  · have hpieces := hs.settles hsettles
    refine ⟨hpieces, fun p hp => ?_⟩
    rw [hsettles.mode_eq] at hp
    nomatch hp
  · obtain ⟨-, rfl⟩ := outside_eq_ok.mp h
    have hpieces := hs.settles hv
    have hbehind := hv.forall_pieces hk
    have hposition : (v.beginCondition c).position = s.position := by
      rw [position_beginCondition, hv.position_eq]
    rw [← pieces_beginCondition v c] at hpieces hbehind
    rw [← hposition] at hbehind
    generalize v.beginCondition c = w at hpieces hbehind
    rw [position_enter]
    rcases enter_cases w c with henter | ⟨mode, hmode, henter⟩
    · rw [henter]
      exact ⟨List.pairwise_cons.mpr ⟨hbehind, hpieces⟩, fun p hp => nomatch hp⟩
    · rw [henter]
      refine ⟨hpieces, fun p hp => ?_⟩
      obtain rfl := Option.some.inj (hmode.start_eq.symm.trans hp)
      exact hbehind

theorem isIncreasing_foldlM {cs : List Char} (h : cs.foldlM step start = .ok s) : s.IsIncreasing := by
  induction cs using List.reverseRecOn generalizing s with
  | nil =>
    cases h
    exact isIncreasing_start
  | append_singleton cs c ih =>
    obtain ⟨u, hu, hc⟩ := Run.foldlM_append_eq_ok.mp h
    obtain ⟨v, hv, hs⟩ := Run.foldlM_cons_eq_ok.mp hc
    cases hs
    exact isIncreasing_step (ih hu) (keeps_foldlM_start hu) hv

end Lifting

theorem Template.increasing_ofText {text : List Char} {t : Template} (h : ofText text = .ok t) :
    Increasing t.pieces := by
  obtain ⟨s, u, hs, hu, rfl⟩ := ofText_eq_ok.mp h
  apply List.pairwise_reverse.mpr
  exact (Lifting.isIncreasing_foldlM hs).settles (Lifting.finish_settles hu)

variable {pieces : List Piece}

/-- A cell has the position of its piece. -/
theorem exists_piece_of_mem_cells {number : Nat} {cell : Char × Int}
    (h : cell ∈ cells number pieces) : ∃ piece ∈ pieces, cell.2 = (piece.position : Int) := by
  induction pieces generalizing number with
  | nil => nomatch h
  | cons piece rest ih =>
    have hlater {number : Nat} (h : cell ∈ cells number rest) :
        ∃ other ∈ piece :: rest, cell.2 = (other.position : Int) := by
      obtain ⟨other, hm, he⟩ := ih h
      exact ⟨other, List.mem_cons_of_mem _ hm, he⟩
    cases piece with
    | plain c position =>
      rcases List.mem_cons.mp h with rfl | h
      · exact ⟨_, List.mem_cons_self, rfl⟩
      · exact hlater h
    | literal l =>
      rcases List.mem_append.mp h with h | h
      · obtain ⟨c, -, rfl⟩ := List.mem_map.mp h
        exact ⟨_, List.mem_cons_self, rfl⟩
      · exact hlater h

/-- The positions of a template text do not decrease. -/
theorem pairwise_cells (h : Increasing pieces) (number : Nat) :
    ((cells number pieces).map (·.2)).Pairwise (· ≤ ·) := by
  induction pieces generalizing number with
  | nil => exact .nil
  | cons piece rest ih =>
    obtain ⟨hfirst, hrest⟩ := List.pairwise_cons.mp h
    have hlater (number : Nat) : ∀ p ∈ (cells number rest).map (·.2), (piece.position : Int) ≤ p := by
      intro p hp
      obtain ⟨cell, hcell, rfl⟩ := List.mem_map.mp hp
      obtain ⟨other, hm, he⟩ := exists_piece_of_mem_cells hcell
      have := hfirst other hm
      omega
    cases piece with
    | plain c position => exact List.pairwise_cons.mpr ⟨hlater number, ih hrest number⟩
    | literal l =>
      rw [cells, List.map_append, List.map_map, List.pairwise_append]
      refine ⟨?_, ih hrest (number + 1), fun p hp => ?_⟩
      · apply List.pairwise_of_forall_mem_list
        intro p hp q hq
        obtain ⟨c, -, rfl⟩ := List.mem_map.mp hp
        obtain ⟨d, -, rfl⟩ := List.mem_map.mp hq
        exact Int.le_refl _
      · obtain ⟨c, -, rfl⟩ := List.mem_map.mp hp
        exact hlater (number + 1)

/-- A piece is what stands at its position. -/
theorem Aligned.isPrefix_drop {piece : Piece} (h : Aligned 0 pieces) (hm : piece ∈ pieces) :
    piece.raw <+: (written pieces).drop piece.position := by
  obtain ⟨before, after, rfl⟩ := List.append_of_mem hm
  obtain ⟨-, hposition, -⟩ := aligned_append.mp h
  have hposition : piece.position = (written before).length := by
    rw [hposition, Nat.zero_add]
  have hwritten : written (before ++ piece :: after) =
      written before ++ (piece.raw ++ written after) := by
    rw [written_append]
    rfl
  rw [hwritten, hposition, List.drop_left]
  exact List.prefix_append _ _

end Order

section Segments

variable {pieces : List Piece} {number : Nat}

def segmentsOf : Nat → List Piece → List Segment
  | _, [] => []
  | number, .plain c position :: rest => .plain c position :: segmentsOf number rest
  | number, .literal l :: rest =>
    .marker l.letter number ((marker number l).map fun c => (c, (l.position : Int))) ::
      segmentsOf (number + 1) rest

theorem segmentsFrom_append (skipped cells : List (Char × Int)) :
    segmentsFrom skipped.length (skipped ++ cells) = segmentsFrom 0 cells := by
  induction skipped with
  | nil => rfl
  | cons cell rest ih => exact ih

/-- The marker of a literal is read as it was written. -/
theorem segmentsFrom_literal (l : Literal) (rest : List Piece) :
    segmentsFrom 0 (cells number (.literal l :: rest)) =
      (segmentsFrom 0 (cells (number + 1) rest)).map
        (.marker l.letter number ((marker number l).map fun c => (c, (l.position : Int))) :: ·) := by
  have hlength : (Nat.toDigits 10 number).length + 2 = (Token.markerRest number l).length := by
    have := Token.length_markerRest number l
    omega
  have hdigits : Token.markerDigits? (Token.markerRest number l ++ cells (number + 1) rest) =
      some (Nat.toDigits 10 number) := Token.markerDigits?_markerRest number l
  rw [Token.cells_literal, segmentsFrom, if_pos rfl, hdigits]
  change ((segmentsFrom ((Nat.toDigits 10 number).length + 2) _).bind _) = _
  rw [hlength, segmentsFrom_append, List.take_left, Numeral.valueOfDigits_toDigits]
  cases segmentsFrom 0 (cells (number + 1) rest) with
  | none => rfl
  | some behind => rfl

theorem segmentsFrom_cells (hp : ∀ piece ∈ pieces, piece.IsSound) :
    segmentsFrom 0 (cells number pieces) = some (segmentsOf number pieces) := by
  induction pieces generalizing number with
  | nil => rfl
  | cons piece rest ih =>
    obtain ⟨hpiece, hrest⟩ := List.forall_mem_cons.mp hp
    cases piece with
    | plain c position =>
      have hc : c ≠ markerChar := hpiece
      rw [cells, segmentsFrom, if_neg hc, ih hrest]
      rfl
    | literal l =>
      rw [segmentsFrom_literal, ih hrest]
      rfl

theorem flatMap_cells_segmentsOf (number : Nat) (pieces : List Piece) :
    (segmentsOf number pieces).flatMap Segment.cells = cells number pieces := by
  induction pieces generalizing number with
  | nil => rfl
  | cons piece rest ih =>
    cases piece with
    | plain c position => rw [segmentsOf, List.flatMap_cons, ih, cells, Segment.cells]; rfl
    | literal l => rw [segmentsOf, List.flatMap_cons, ih, cells, Segment.cells]

theorem flatMap_filled_segmentsOf {literal? : Nat → Option Literal}
    (hl : ∀ i, literal? (number + i) = (literalsOf pieces)[i]?) :
    (segmentsOf number pieces).flatMap (Segment.filled literal?) = written pieces := by
  induction pieces generalizing number with
  | nil => rfl
  | cons piece rest ih =>
    cases piece with
    | plain c position =>
      rw [segmentsOf, List.flatMap_cons, ih hl]
      rfl
    | literal l =>
      have hfirst : literal? number = some l := hl 0
      have hrest (i : Nat) : literal? (number + 1 + i) = (literalsOf rest)[i]? := by
        have := hl (i + 1)
        rwa [← Nat.add_assoc, Nat.add_right_comm] at this
      rw [segmentsOf, List.flatMap_cons, ih hrest, Segment.filled, hfirst]
      rfl

theorem filterMap_shown_segmentsOf (number : Nat) (pieces : List Piece) :
    (segmentsOf number pieces).filterMap Segment.shown? =
      ((literalsOf pieces).zipIdx number).map fun (l, k) => (l.letter, k) := by
  induction pieces generalizing number with
  | nil => rfl
  | cons piece rest ih =>
    cases piece with
    | plain c position => exact ih number
    | literal l =>
      change (l.letter, number) :: (segmentsOf (number + 1) rest).filterMap Segment.shown? = _
      rw [ih, literalsOf_literal, List.zipIdx_cons, List.map_cons]

theorem exists_of_mem_segmentsOf {segment : Segment} (h : segment ∈ segmentsOf number pieces) :
    (∃ (c : Char) (position : Nat),
      Piece.plain c position ∈ pieces ∧ segment = .plain c (position : Int)) ∨
      ∃ i l, (literalsOf pieces)[i]? = some l ∧
        segment = .marker l.letter (number + i)
          ((marker (number + i) l).map fun c => (c, (l.position : Int))) := by
  induction pieces generalizing number with
  | nil => nomatch h
  | cons piece rest ih =>
    cases piece with
    | plain c position =>
      rcases List.mem_cons.mp h with rfl | h
      · exact Or.inl ⟨c, position, List.mem_cons_self, rfl⟩
      · rcases ih h with ⟨d, p, hm, he⟩ | hmarker
        · exact Or.inl ⟨d, p, List.mem_cons_of_mem _ hm, he⟩
        · exact Or.inr hmarker
    | literal l =>
      rcases List.mem_cons.mp h with rfl | h
      · exact Or.inr ⟨0, l, rfl, rfl⟩
      · rcases ih h with ⟨d, p, hm, he⟩ | ⟨i, other, hi, he⟩
        · exact Or.inl ⟨d, p, List.mem_cons_of_mem _ hm, he⟩
        · rw [Nat.add_right_comm, Nat.add_assoc] at he
          exact Or.inr ⟨i + 1, other, hi, he⟩

end Segments

namespace Template

variable {text : List Char} {t : Template}

/-- Lifting the literals out of a pattern text loses nothing. The template text is a row of characters
and markers, and with each marker replaced by what its literal is written as it is the pattern text.
The markers are numbered from one on in the order of the literals, with their letters. The positions
do not decrease; a character outside markers is found in the pattern text at its position, and those
of a marker have the position of the literal. Literals stand one behind the other, each written as
the pattern text is from its position on. -/
theorem ofText_lossless (h : ofText text = .ok t) :
    (∃ segments, t.segments? = some segments ∧ segments.flatMap Segment.cells = t.cells ∧
      segments.flatMap (Segment.filled t.literal?) = text ∧
      segments.filterMap Segment.shown? = (t.literals.zipIdx 1).map (fun (l, k) => (l.letter, k)) ∧
      ∀ segment ∈ segments, match segment with
        | .plain c p => ∃ position : Nat, p = position ∧ text[position]? = some c
        | .marker _ number cells =>
          ∃ l, t.literal? number = some l ∧ ∀ cell ∈ cells, cell.2 = (l.position : Int)) ∧
    t.offsets.length = t.text.length ∧ t.offsets.Pairwise (· ≤ ·) ∧
    t.literals.Pairwise (fun first second => first.position < second.position) ∧
    ∀ l ∈ t.literals, l.raw <+: text.drop l.position := by
  obtain ⟨hwritten, haligned⟩ := aligned_ofText h
  have hincreasing := increasing_ofText h
  have hslice {piece : Piece} (hm : piece ∈ t.pieces) : piece.raw <+: text.drop piece.position :=
    hwritten ▸ haligned.isPrefix_drop hm
  refine ⟨⟨segmentsOf 1 t.pieces, ?_, ?_, ?_, ?_, ?_⟩, ?_, ?_, ?_, ?_⟩
  · exact segmentsFrom_cells (isSound_ofText h)
  · exact flatMap_cells_segmentsOf 1 t.pieces
  · rw [← hwritten]
    exact flatMap_filled_segmentsOf t.literal?_one_add
  · exact filterMap_shown_segmentsOf 1 t.pieces
  · intro segment hm
    rcases exists_of_mem_segmentsOf hm with ⟨c, position, hpiece, rfl⟩ | ⟨i, l, hl, rfl⟩
    · refine ⟨position, rfl, ?_⟩
      obtain ⟨more, hmore⟩ := hslice hpiece
      have hc : (text.drop position)[0]? = some c := by
        change (text.drop (Piece.plain c position).position)[0]? = some c
        rw [← hmore]
        rfl
      rwa [List.getElem?_drop] at hc
    · refine ⟨l, (t.literal?_one_add i).trans hl, fun cell hcell => ?_⟩
      obtain ⟨c, -, rfl⟩ := List.mem_map.mp hcell
      rfl
  · rw [offsets, Template.text, List.length_map, List.length_map]
  · exact pairwise_cells hincreasing 1
  · apply List.Pairwise.filterMap _ _ hincreasing
    rintro (⟨c, p⟩ | l) (⟨d, q⟩ | other) hlt first hfirst second hsecond
    all_goals cases hfirst
    all_goals cases hsecond
    exact hlt
  · exact fun l hl => hslice (mem_literalsOf.mp hl)

/-- What a literal holds may look like the marker of another one. -/
theorem ofText_lossless_markerInside :
    ∃ t segments, ofText "['\x00N2\x00', 7]".toList = .ok t ∧
      t.text = "[\x00S1\x00, \x00N2\x00]".toList ∧ t.segments? = some segments ∧
      segments.filterMap Segment.shown? = [('S', 1), ('N', 2)] ∧
      segments.flatMap (Segment.filled t.literal?) = "['\x00N2\x00', 7]".toList := by
  have h : ofText "['\x00N2\x00', 7]".toList =
      .ok ⟨[.plain '[' 0, .literal ⟨.text "\x00N2\x00".toList, "'\x00N2\x00'".toList, 1⟩,
        .plain ',' 7, .plain ' ' 8, .literal ⟨.number (.integer 7), ['7'], 9⟩,
        .plain ']' 10], none⟩ := by
    rfl
  obtain ⟨⟨segments, hsegments, -, hfilled, hshown, -⟩, -⟩ := ofText_lossless h
  exact ⟨_, segments, h, by decide, hsegments, hshown, hfilled⟩

end Template

end Destructure
