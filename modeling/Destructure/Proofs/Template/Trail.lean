import Destructure.Proofs.Text.Letter
import Destructure.Template.Lift

namespace Destructure

def Piece.char? : Piece → Option Char
  | .plain c _ => some c
  | .literal _ => none

theorem Piece.map_char?_eq_cons {pieces : List Piece} {c : Char} {cs : List (Option Char)} :
    pieces.map char? = some c :: cs ↔
      ∃ position rest, pieces = .plain c position :: rest ∧ rest.map char? = cs := by
  cases pieces with
  | nil => simp
  | cons piece rest => cases piece <;> simp [char?, and_assoc]

namespace Trail

theorem after_cons (piece : Piece) (pieces : List Piece) :
    after (piece :: pieces) = (after pieces).add piece :=
  rfl

theorem count_after (pieces : List Piece) : (after pieces).count = pieces.length := by
  induction pieces with
  | nil => rfl
  | cons piece rest ih =>
    rw [after_cons, List.length_cons, ← ih]
    cases piece with
    | literal l => rfl
    | plain c position =>
      unfold add emit
      dsimp only
      split
      · split <;> rfl
      · rfl

theorem last_emit (t : Trail) (c : Char) : (t.emit c).last = c := by
  unfold emit
  split
  · split <;> rfl
  · rfl

theorem word_emit_of_not_isNameChar {t : Trail} {c : Char} (hc : ¬ Text.isNameChar c = true) :
    (t.emit c).word = [] := by
  rw [emit, if_neg hc]

theorem emit_of_isNameChar {t : Trail} {c : Char} (hc : Text.isNameChar c = true) :
    t.emit c = if t.word.isEmpty then ⟨t.count + 1, c, [c], t.count, Text.isBlank t.last⟩
      else { t with count := t.count + 1, last := c, word := c :: t.word } :=
  if_pos hc

theorem emit_when {t : Trail} (h : t.word = []) :
    (((t.emit 'w').emit 'h').emit 'e').emit 'n' =
      ⟨t.count + 4, 'n', ['n', 'e', 'h', 'w'], t.count, Text.isBlank t.last⟩ := by
  have hfirst : t.emit 'w' = ⟨t.count + 1, 'w', ['w'], t.count, Text.isBlank t.last⟩ :=
    (emit_of_isNameChar rfl).trans (if_pos (List.isEmpty_iff.mpr h))
  rw [hfirst]
  rfl

theorem isNameChar_last_after {pieces : List Piece} :
    Text.isNameChar (after pieces).last = true ↔
      ∃ c, Text.isNameChar c = true ∧ [some c] <+: pieces.map Piece.char? := by
  cases pieces with
  | nil => simp [after, empty]; decide
  | cons piece rest =>
    cases piece with
    | literal l => simp [after_cons, add, close, Piece.char?]; decide
    | plain c position => simp [after_cons, add, last_emit, Piece.char?]

structure Follows (t : Trail) (name before : List Piece) : Prop where
  word : name.map Piece.char? = t.word.map some
  notName : ¬ Text.isNameChar (after before).last = true
  start : t.word ≠ [] → t.start = before.length
  afterBlank : t.word ≠ [] → t.afterBlank = Text.isBlank (after before).last

theorem follows_after_of_word_eq_nil {pieces : List Piece} (hw : (after pieces).word = [])
    (hn : ¬ Text.isNameChar (after pieces).last = true) : (after pieces).Follows [] pieces where
  word := by rw [hw]; rfl
  notName := hn
  start h := absurd hw h
  afterBlank h := absurd hw h

theorem exists_follows (pieces : List Piece) :
    ∃ name before, pieces = name ++ before ∧ (after pieces).Follows name before := by
  induction pieces with
  | nil => exact ⟨[], [], rfl, follows_after_of_word_eq_nil rfl (by decide)⟩
  | cons piece rest ih =>
    cases piece with
    | literal l =>
      refine ⟨[], _, rfl, follows_after_of_word_eq_nil rfl ?_⟩
      change ¬ Text.isNameChar markerChar = true
      decide
    | plain c position =>
      by_cases hc : Text.isNameChar c = true
      · obtain ⟨name, before, hrest, hfollows⟩ := ih
        have hemit := emit_of_isNameChar (t := after rest) hc
        cases hw : (after rest).word with
        | nil =>
          have hname : name = [] := by
            have hmap := hfollows.word
            rw [hw] at hmap
            exact List.map_eq_nil_iff.mp hmap
          subst hname
          obtain rfl : rest = before := hrest
          refine ⟨[.plain c position], rest, rfl, ?_⟩
          rw [if_pos (List.isEmpty_iff.mpr hw)] at hemit
          rw [after_cons, add, hemit]
          exact ⟨rfl, hfollows.notName, fun _ => count_after rest, fun _ => rfl⟩
        | cons d ds =>
          have hne : (after rest).word ≠ [] := by
            rw [hw]
            exact List.cons_ne_nil d ds
          refine ⟨.plain c position :: name, before, by rw [hrest]; rfl, ?_⟩
          rw [if_neg fun h => hne (List.isEmpty_iff.mp h)] at hemit
          rw [after_cons, add, hemit]
          refine ⟨?_, hfollows.notName, fun _ => hfollows.start hne, fun _ => hfollows.afterBlank hne⟩
          rw [List.map_cons, hfollows.word, hw]
          rfl
      · refine ⟨[], _, rfl, follows_after_of_word_eq_nil (word_emit_of_not_isNameChar hc) ?_⟩
        rw [after_cons, add, last_emit]
        exact hc

theorem isBlank_last_after {pieces : List Piece} (hne : pieces ≠ [])
    (hb : Text.isBlank (after pieces).last = true) :
    ∃ b position before, pieces = .plain b position :: before ∧ Text.isBlank b = true := by
  match pieces with
  | [] => exact absurd rfl hne
  | .literal l :: before => cases (show Text.isBlank markerChar = true from hb)
  | .plain b position :: before =>
    rw [after_cons, add, last_emit] at hb
    exact ⟨b, position, before, rfl, hb⟩

end Trail

namespace Lifting

/-- A state is known from all but its trail. -/
theorem eq_of_fields {s t : Lifting} (hposition : s.position = t.position)
    (hpieces : s.pieces = t.pieces) (hpatternPieces : s.patternPieces = t.patternPieces)
    (hmode : s.mode = t.mode) : s = t := by
  obtain ⟨position, pieces, patternPieces, mode, _, rfl⟩ := s
  obtain ⟨position', pieces', patternPieces', mode', _, rfl⟩ := t
  cases hposition
  cases hpieces
  cases hpatternPieces
  cases hmode
  rfl

@[simp] theorem position_state (position : Nat) (pieces : List Piece) (patternPieces : Option Nat)
    (mode : Mode) : (state position pieces patternPieces mode).position = position :=
  rfl

@[simp] theorem pieces_state (position : Nat) (pieces : List Piece) (patternPieces : Option Nat)
    (mode : Mode) : (state position pieces patternPieces mode).pieces = pieces :=
  rfl

@[simp] theorem patternPieces_state (position : Nat) (pieces : List Piece)
    (patternPieces : Option Nat) (mode : Mode) :
    (state position pieces patternPieces mode).patternPieces = patternPieces :=
  rfl

@[simp] theorem mode_state (position : Nat) (pieces : List Piece) (patternPieces : Option Nat)
    (mode : Mode) : (state position pieces patternPieces mode).mode = mode :=
  rfl

theorem emit_eq_state (s : Lifting) (c : Char) (position : Nat) :
    s.emit c position =
      state s.position (.plain c position :: s.pieces) s.patternPieces .outside :=
  eq_of_fields rfl rfl rfl rfl

theorem close_eq_state (s : Lifting) (opened : Opened) (payload : Payload) :
    s.close opened payload = state s.position
      (.literal ⟨payload, opened.raw.reverse, opened.start⟩ :: s.pieces) s.patternPieces .outside :=
  eq_of_fields rfl rfl rfl rfl

variable {s : Lifting}

theorem endsInName_iff :
    s.endsInName = true ↔
      ∃ c, Text.isNameChar c = true ∧ [some c] <+: s.pieces.map Piece.char? := by
  unfold endsInName
  rw [s.tracks]
  exact Trail.isNameChar_last_after

/-- Behind the word `when` the pieces end in its letters, and a blank stands before them. -/
theorem exists_of_endsInWhen (h : s.endsInWhen = true) :
    ∃ name b position before, s.pieces = name ++ .plain b position :: before ∧
      name.map Piece.char? = [some 'n', some 'e', some 'h', some 'w'] ∧ Text.isBlank b = true ∧
      s.trail.start = before.length + 1 := by
  unfold endsInWhen at h
  rw [s.tracks] at h ⊢
  rw [Bool.and_eq_true, Bool.and_eq_true, beq_iff_eq, decide_eq_true_iff] at h
  obtain ⟨⟨hword, hblank⟩, hstart⟩ := h
  have hne : (Trail.after s.pieces).word ≠ [] := by
    rw [hword]
    exact List.cons_ne_nil _ _
  obtain ⟨name, rest, hpieces, hfollows⟩ := Trail.exists_follows s.pieces
  have hname := hfollows.word
  rw [hfollows.start hne] at hstart ⊢
  rw [hfollows.afterBlank hne] at hblank
  rw [hword] at hname
  obtain ⟨b, position, before, rfl, hb⟩ :=
    Trail.isBlank_last_after (List.length_pos_iff.mp hstart) hblank
  exact ⟨name, b, position, before, hpieces, hname, hb, rfl⟩

/-- The last pieces, from the last one back, when they are the word `when` after a blank. -/
theorem endsInWhen_iff :
    s.endsInWhen = true ↔
      ∃ b, Text.isBlank b = true ∧
        [some 'n', some 'e', some 'h', some 'w', some b] <+: s.pieces.map Piece.char? := by
  constructor
  · intro h
    obtain ⟨name, b, position, before, hpieces, hname, hb, -⟩ := exists_of_endsInWhen h
    refine ⟨b, hb, before.map Piece.char?, ?_⟩
    rw [hpieces, List.map_append, hname]
    rfl
  · rintro ⟨b, hb, rest, h⟩
    obtain ⟨_, afterN, hpieces, hn⟩ := Piece.map_char?_eq_cons.mp h.symm
    obtain ⟨_, afterE, rfl, he⟩ := Piece.map_char?_eq_cons.mp hn
    obtain ⟨_, afterH, rfl, hh⟩ := Piece.map_char?_eq_cons.mp he
    obtain ⟨_, afterW, rfl, hw⟩ := Piece.map_char?_eq_cons.mp hh
    obtain ⟨position, before, rfl, -⟩ := Piece.map_char?_eq_cons.mp hw
    have hword : (Trail.after (.plain b position :: before)).word = [] :=
      Trail.word_emit_of_not_isNameChar (by rw [Text.isNameChar_of_isBlank hb]; decide)
    have hcount := Trail.count_after (.plain b position :: before)
    have hlast : (Trail.after (.plain b position :: before)).last = b := Trail.last_emit _ b
    have hafter : Trail.after s.pieces =
        ((((Trail.after (.plain b position :: before)).emit 'w').emit 'h').emit 'e').emit 'n' := by
      rw [hpieces]
      rfl
    unfold endsInWhen
    rw [s.tracks, hafter, Trail.emit_when hword, hlast, hb, hcount]
    rfl

theorem start_eq_of_endsInWhen (h : s.endsInWhen = true) : s.trail.start = s.pieces.length - 4 := by
  obtain ⟨name, b, position, before, hpieces, hname, -, hstart⟩ := exists_of_endsInWhen h
  have hlength : name.length = 4 := by
    rw [← List.length_map Piece.char?, hname]
    rfl
  rw [hstart, hpieces, List.length_append, List.length_cons]
  omega

end Lifting

end Destructure
