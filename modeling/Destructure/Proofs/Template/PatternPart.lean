import Destructure.Proofs.Condition.Quotes
import Destructure.Proofs.Template.Segments

namespace Destructure

open Condition (IsQuote Quotes)
open Token (charsWhile lexemeAt scanFrom)

section Row

variable {first second : List Piece} {inName : Bool}

def Piece.isNamed : Piece → Bool
  | .plain c _ => Text.isNameChar c
  | .literal _ => false

def Piece.IsOrdinary (inName : Bool) : Piece → Prop
  | .plain c _ => c ≠ markerChar ∧ ¬ IsQuote c ∧ c ≠ '/' ∧ (c.isDigit = true → inName = true)
  | .literal _ => True

def Ordinary : (inName : Bool) → List Piece → Prop
  | _, [] => True
  | inName, piece :: rest => piece.IsOrdinary inName ∧ Ordinary piece.isNamed rest

def endsNamed (inName : Bool) (pieces : List Piece) : Bool :=
  pieces.foldl (fun _ piece => piece.isNamed) inName

theorem ordinary_append :
    Ordinary inName (first ++ second) ↔
      Ordinary inName first ∧ Ordinary (endsNamed inName first) second := by
  induction first generalizing inName with
  | nil => exact (true_and _).symm ▸ Iff.rfl
  | cons piece rest ih =>
    rw [List.cons_append, Ordinary, Ordinary, ih, endsNamed, endsNamed, List.foldl_cons, and_assoc]

theorem endsNamed_reverse (s : Lifting) : endsNamed false s.pieces.reverse = s.endsInName := by
  rw [endsNamed, List.foldl_reverse, Lifting.endsInName, s.tracks]
  cases s.pieces with
  | nil => rfl
  | cons piece rest =>
    cases piece with
    | literal l => rfl
    | plain c position => exact (congrArg Text.isNameChar (Trail.last_emit _ c)).symm

theorem literalsOf_append (first second : List Piece) :
    literalsOf (first ++ second) = literalsOf first ++ literalsOf second :=
  List.filterMap_append

theorem cells_append (number : Nat) (first second : List Piece) :
    cells number (first ++ second) =
      cells number first ++ cells (number + (literalsOf first).length) second := by
  induction first generalizing number with
  | nil => rfl
  | cons piece rest ih =>
    cases piece with
    | plain c position => exact congrArg _ (ih number)
    | literal l =>
      have hnumber : number + (literalsOf (.literal l :: rest)).length =
          number + 1 + (literalsOf rest).length := by
        rw [literalsOf_literal, List.length_cons]
        omega
      rw [List.cons_append, cells, cells, ih, hnumber, List.append_assoc]

end Row

namespace Lifting

variable {s t : Lifting} {c : Char} {cs : List Char}

def IsOrdinary (s : Lifting) : Prop :=
  Ordinary false s.pieces.reverse

/-- A piece is added that can stand where it does. -/
theorem isOrdinary_push (hs : s.IsOrdinary) {piece : Piece} (ht : t.pieces = piece :: s.pieces)
    (hpiece : piece.IsOrdinary s.endsInName) : t.IsOrdinary := by
  rw [IsOrdinary, ht, List.reverse_cons, ordinary_append, endsNamed_reverse]
  exact ⟨hs, hpiece, trivial⟩

theorem Settles.isOrdinary (h : s.Settles t) (hsign : s.HoldsSign) (hs : s.IsOrdinary) :
    t.IsOrdinary := by
  cases h with
  | outside hm => exact hs
  | sign d hm =>
    have hd : (Piece.plain d (s.position - 1)).IsOrdinary s.endsInName := by
      rcases hsign d hm with rfl | rfl
      · exact ⟨by decide, by decide, by decide, fun h => nomatch h⟩
      · exact ⟨by decide, by decide, by decide, fun h => nomatch h⟩
    exact isOrdinary_push hs rfl hd
  | close opened payload hm =>
    refine isOrdinary_push hs (t := s.close opened payload) rfl ?_
    exact trivial

/-- A character that is kept begins no literal, unless it is in the middle of a name. -/
theorem isOrdinary_enter (hs : s.IsOrdinary) (hk : s.patternPieces = none) (hc : c ≠ markerChar) :
    (s.enter c).IsOrdinary := by
  have hemit (hq : ¬ IsQuote c) (hslash : c ≠ '/')
      (hd : c.isDigit = true → s.endsInName = true) : (s.emit c s.position).IsOrdinary :=
    isOrdinary_push hs rfl ⟨hc, hq, hslash, hd⟩
  unfold enter
  split
  · exact hs
  · rename_i hq
    rw [if_neg (by rw [hk]; exact Bool.false_ne_true)]
    split
    · exact hs
    · rename_i hslash
      split
      · rename_i hn
        exact hemit hq hslash fun _ => hn
      · split
        · exact hs
        · rename_i hd
          split
          · exact hs
          · exact hemit hq hslash fun h => absurd h hd

theorem isOrdinary_step (hs : s.IsOrdinary) (hsign : s.HoldsSign) (h : s.step c = .ok t)
    (hk : t.patternPieces = none) : t.IsOrdinary := by
  obtain ⟨u, hu, rfl⟩ := step_eq_ok.mp h
  rcases advance_cases hu with ⟨mode, -, rfl⟩ | hsettles | ⟨v, hv, h⟩
  · exact hs
  · exact hsettles.isOrdinary hsign hs
  · obtain ⟨hc, rfl⟩ := outside_eq_ok.mp h
    have hv := hv.isOrdinary hsign hs
    have hbegin : (v.beginCondition c).IsOrdinary := by
      rw [IsOrdinary, pieces_beginCondition]
      exact hv
    have hnone : (v.beginCondition c).patternPieces = none := by
      rw [← patternPieces_enter _ c]
      exact hk
    exact isOrdinary_enter hbegin hnone hc

/-- As long as no condition has begun, what has been lifted out can stand before one. -/
theorem isOrdinary_foldlM (h : cs.foldlM step start = .ok s) (hk : s.patternPieces = none) :
    s.IsOrdinary := by
  induction cs using List.reverseRecOn generalizing s with
  | nil =>
    cases h
    exact trivial
  | append_singleton cs c ih =>
    obtain ⟨u, hu, hc⟩ := Run.foldlM_append_eq_ok.mp h
    obtain ⟨v, hv, hs⟩ := Run.foldlM_cons_eq_ok.mp hc
    cases hs
    exact isOrdinary_step (ih hu (patternPieces_of_step hv hk)) (holdsSign_foldlM hu) hv hk

end Lifting

namespace Token

variable {pieces : List Piece} {number : Nat} {inName : Bool} {failure : Failure}

def named (inName : Bool) (cells : List (Char × Int)) : Nat :=
  if inName then (charsWhile Text.isNameChar cells).length else 0

theorem named_cons {c : Char} (position : Int) (cells : List (Char × Int))
    (hc : Text.isNameChar c = true) :
    named true ((c, position) :: cells) = named true cells + 1 := by
  simp [named, charsWhile, hc]

theorem named_cons_eq_zero {c : Char} (position : Int) (cells : List (Char × Int))
    (h : ¬ (inName = true ∧ Text.isNameChar c = true)) :
    named inName ((c, position) :: cells) = 0 := by
  cases inName with
  | false => rfl
  | true =>
    have hc : ¬ Text.isNameChar c = true := fun hc => h ⟨rfl, hc⟩
    simp [named, charsWhile, hc]

/-- What can be wrong with a character that begins no literal. -/
theorem lexemeAt_ordinary {c : Char} (hc : c ≠ markerChar) (position : Int)
    (cells : List (Char × Int)) :
    lexemeAt c position cells = .error (.ofError (.strayCharacter c position)) ∨
      ∃ lexeme length, lexemeAt c position cells = .ok (lexeme, length) ∧
        length - 1 = named (Text.isNameChar c) cells := by
  unfold lexemeAt
  rw [if_neg hc]
  cases hp : Lexeme.punctuation? c with
  | some lexeme =>
    have hname := Lexeme.forall_punctuation (Q := fun c => Text.isNameChar c = false) (by decide)
      (Option.isSome_iff_exists.mpr ⟨lexeme, hp⟩)
    refine Or.inr ⟨lexeme, 1, rfl, ?_⟩
    rw [hname]
    rfl
  | none =>
    dsimp only
    split
    · rename_i hstart
      refine Or.inr ⟨_, _, rfl, ?_⟩
      rw [Text.isNameChar_of_isNameStart hstart]
      rfl
    · exact Or.inl rfl

/-- Behind a character that begins no literal, scanning goes on, within a name or not. -/
theorem scanFrom_plain_eq_error {c : Char} {position : Int} {cells : List (Char × Int)}
    (hc : c ≠ markerChar) (hd : c.isDigit = true → inName = true)
    (h : scanFrom (named inName ((c, position) :: cells)) ((c, position) :: cells) =
      .error failure) :
    scanFrom (named (Text.isNameChar c) cells) cells = .error failure ∨
      failure = .ofError (.strayCharacter c position) ∧ c.isDigit = false := by
  by_cases hname : inName = true ∧ Text.isNameChar c = true
  · obtain ⟨rfl, hchar⟩ := hname
    rw [named_cons _ _ hchar] at h
    rw [hchar]
    exact Or.inl h
  · rw [named_cons_eq_zero _ _ hname] at h
    rcases scanFrom_zero_eq_error h with ⟨hb, hmore⟩ | ⟨-, hl⟩
    · rw [Text.isNameChar_of_isBlank hb]
      exact Or.inl hmore
    · rcases lexemeAt_ordinary hc position cells with hstray | ⟨lexeme, length, hok, hlength⟩
      · have hdigit : c.isDigit = false := by
          rw [← Bool.not_eq_true]
          exact fun h => hname ⟨hd h, Text.isNameChar_of_isDigit h⟩
        rw [hstray] at hl
        rcases hl with hl | ⟨found, n, hl, -⟩
        · cases hl
          exact Or.inr ⟨rfl, hdigit⟩
        · cases hl
      · rw [hok] at hl
        rcases hl with hl | ⟨found, n, hl, hmore⟩
        · cases hl
        · cases hl
          rw [hlength] at hmore
          exact Or.inl hmore

/-- Behind the marker of a literal, scanning goes on outside names. -/
theorem scanFrom_literal_eq_error {l : Literal}
    (h : scanFrom (named inName (cells number (.literal l :: pieces)))
      (cells number (.literal l :: pieces)) = .error failure) :
    (Number.maxDigits < (Nat.toDigits 10 number).length ∧
        failure = .numeralTooLong (Nat.toDigits 10 number).length) ∨
      scanFrom 0 (cells (number + 1) pieces) = .error failure := by
  have hmarker : ¬ (inName = true ∧ Text.isNameChar markerChar = true) := fun h =>
    absurd h.2 (by decide)
  rw [cells_literal, named_cons_eq_zero _ _ hmarker] at h
  rcases scanFrom_zero_eq_error h with ⟨hb, -⟩ | ⟨-, hl | ⟨lexeme, length, hl, hmore⟩⟩
  · cases hb
  · rw [lexemeAt_marker] at hl
    split at hl
    · rename_i hlong
      cases hl
      exact Or.inl ⟨hlong, rfl⟩
    · cases hl
  · rw [lexemeAt_marker] at hl
    split at hl
    · cases hl
    · cases hl
      rw [Nat.add_sub_cancel, scanFrom_append] at hmore
      exact Or.inr hmore

/-- Scanning a row that can stand before a condition fails only for a number of a literal that is too
long to be read, or for a character that begins no literal. -/
theorem scanFrom_eq_error (hp : Ordinary inName pieces)
    (h : scanFrom (named inName (cells number pieces)) (cells number pieces) = .error failure) :
    (∃ digits, failure = .numeralTooLong digits) ∨
      ∃ c position, failure = .ofError (.strayCharacter c position) ∧ c ≠ markerChar ∧
        ¬ IsQuote c ∧ c ≠ '/' ∧ c.isDigit = false := by
  induction pieces generalizing inName number with
  | nil =>
    unfold scanFrom at h
    cases h
  | cons piece rest ih =>
    obtain ⟨hpiece, hrest⟩ := hp
    cases piece with
    | literal l =>
      rcases scanFrom_literal_eq_error h with ⟨-, hdigits⟩ | hmore
      · exact Or.inl ⟨_, hdigits⟩
      · exact ih hrest hmore
    | plain c position =>
      obtain ⟨hc, hq, hslash, hd⟩ := hpiece
      rcases scanFrom_plain_eq_error hc hd h with hmore | ⟨hstray, hdigit⟩
      · exact ih hrest hmore
      · exact Or.inr ⟨c, position, hstray, hc, hq, hslash, hdigit⟩

end Token

/-- The quoted texts of a condition are texts. -/
theorem Condition.Quotes.exists_text {position : Nat} {cs : List Char} {literals : List Literal}
    (h : Quotes position cs literals) : ∀ l ∈ literals, ∃ value, l.payload = .text value := by
  induction h with
  | nil => exact fun l hl => nomatch hl
  | plain hc hrest ih => exact ih
  | quoted hq hquoted hrest ih => exact List.forall_mem_cons.mpr ⟨⟨_, rfl⟩, ih⟩

namespace Template

variable {text : List Char} {t : Template} {count : Nat}

def patternRow (t : Template) : List Piece :=
  t.pieces.take (t.patternPieces.getD t.pieces.length)

def patternLiterals (t : Template) : List Literal :=
  t.literals.filter fun l => t.conditionPosition.all fun position => decide (l.position < position)

theorem patternRow_of_none (hk : t.patternPieces = none) : t.patternRow = t.pieces := by
  rw [patternRow, hk]
  exact List.take_length

theorem patternRow_of_some (hk : t.patternPieces = some count) :
    t.patternRow = t.pieces.take count := by
  rw [patternRow, hk]
  rfl

theorem patternCells_eq_cells (t : Template) :
    t.patternCells = Destructure.cells 1 t.patternRow := by
  unfold patternCells
  split
  · rename_i hk
    rw [patternRow_of_none hk]
    rfl
  · rename_i hk
    rw [patternRow_of_some hk]

theorem conditionPosition_of_some (hk : t.patternPieces = some count) :
    t.conditionPosition = some (written (t.pieces.take count)).length := by
  rw [conditionPosition, hk]
  rfl

/-- The part before a condition can stand there, something comes behind it, and the literals behind it
are texts. -/
theorem parts_of_patternPieces (h : ofText text = .ok t) (hk : t.patternPieces = some count) :
    Ordinary false (t.pieces.take count) ∧ t.pieces.drop count ≠ [] ∧
      ∀ l ∈ literalsOf (t.pieces.drop count), ∃ value, l.payload = .text value := by
  obtain ⟨pre, blank, post, s, u, rfl, hs, hidle, hwhen, hblank, rfl, hrun, hpieces⟩ :=
    exists_begin_of_ofText h hk
  obtain ⟨word, before, hword, hlength, hnone, -⟩ := Lifting.exists_word hwhen
  rw [Lifting.run_cons_of_ok (Lifting.step_blank hidle hwhen hblank)] at hrun
  obtain ⟨literals, hquotes, hliterals⟩ := Lifting.quotes_of_run rfl rfl hrun
  obtain ⟨more, hmore⟩ := Lifting.isSuffix_pieces_run hrun
  have hsplit : t.pieces = before.reverse ++ (word.reverse ++
      (Piece.plain blank s.position :: more.reverse)) := by
    rw [hpieces, ← hmore, hword]
    simp
  have hcount : s.pieces.length - 4 = before.reverse.length := by
    rw [hword, List.length_append, hlength, List.length_reverse, Nat.add_sub_cancel_left]
  have hordinary : Ordinary false before.reverse := by
    have hs := Lifting.isOrdinary_foldlM hs hidle.2
    rw [Lifting.IsOrdinary, hword, List.reverse_append, ordinary_append] at hs
    exact hs.1
  rw [hcount, hsplit, List.take_left, List.drop_left]
  refine ⟨hordinary, by simp, fun l hl => hquotes.exists_text l ?_⟩
  have hmore : literalsOf more = literals.reverse := by
    rw [← hmore, literalsOf_append] at hliterals
    exact List.append_cancel_right hliterals
  rw [literalsOf_append, literalsOf_reverse, hnone, literalsOf_plain, literalsOf_reverse, hmore,
    List.reverse_reverse] at hl
  exact hl

/-- The part of the template that comes before the condition can stand there. -/
theorem ordinary_patternRow (h : ofText text = .ok t) : Ordinary false t.patternRow := by
  cases hk : t.patternPieces with
  | some count =>
    rw [patternRow_of_some hk]
    exact (parts_of_patternPieces h hk).1
  | none =>
    rw [patternRow_of_none hk]
    obtain ⟨s, u, hs, hu, rfl⟩ := ofText_eq_ok.mp h
    have hsettles := Lifting.finish_settles hu
    have hnone : s.patternPieces = none := hsettles.patternPieces_eq ▸ hk
    exact hsettles.isOrdinary (Lifting.holdsSign_foldlM hs) (Lifting.isOrdinary_foldlM hs hnone)

/-- What stands before a condition by its position is what comes before it. -/
theorem patternLiterals_eq (h : ofText text = .ok t) :
    t.patternLiterals = literalsOf t.patternRow := by
  cases hk : t.patternPieces with
  | none =>
    have hposition : t.conditionPosition = none := by
      rw [conditionPosition, hk]
      rfl
    rw [patternRow_of_none hk, patternLiterals, hposition]
    exact List.filter_eq_self.mpr fun _ _ => rfl
  | some count =>
    obtain ⟨-, hbehind, -⟩ := parts_of_patternPieces h hk
    obtain ⟨-, haligned⟩ := aligned_ofText h
    have hincreasing := increasing_ofText h
    have hsplit := (List.take_append_drop count t.pieces).symm
    rw [hsplit, aligned_append, Nat.zero_add] at haligned
    rw [hsplit, Increasing, List.pairwise_append] at hincreasing
    have hfirst : ∀ l ∈ literalsOf (t.pieces.take count),
        l.position < (written (t.pieces.take count)).length := by
      intro l hl
      obtain ⟨piece, rest, hpiece⟩ := List.exists_cons_of_ne_nil hbehind
      rw [hpiece] at haligned hincreasing
      rw [← haligned.2.1]
      exact hincreasing.2.2 _ (mem_literalsOf.mp hl) piece List.mem_cons_self
    have hsecond : ∀ l ∈ literalsOf (t.pieces.drop count),
        (written (t.pieces.take count)).length ≤ l.position :=
      fun l hl => (haligned.2.le_of_mem (mem_literalsOf.mp hl)).1
    rw [patternRow_of_some hk, patternLiterals, conditionPosition_of_some hk, literals]
    nth_rewrite 2 [hsplit]
    rw [literalsOf_append, List.filter_append, List.filter_eq_self.mpr, List.filter_eq_nil_iff.mpr,
      List.append_nil]
    · intro l hl hlt
      have := hsecond l hl
      exact absurd (of_decide_eq_true hlt) (by omega)
    · exact fun l hl => decide_eq_true (hfirst l hl)

/-- The part of a template before its condition is cut off between pieces, and scanning it never comes
upon a marker that is none. If there are tokens, they refer to the literals before the condition, by
their numbers in order, and there are literals with these numbers. If there are none, that is for a
number of too many digits, or for a stray character that could begin no literal. Behind the word that
introduces the condition there are no literals but texts. -/
theorem scan_patternCells (h : ofText text = .ok t) :
    t.patternCells = t.cells.take (t.conditionOffset.getD t.cells.length) ∧
    (match Token.scan t.patternCells with
      | .ok tokens =>
        tokens.filterMap Token.number? = List.range' 1 t.patternLiterals.length ∧
          ∀ token ∈ tokens, ∀ k, token.lexeme = .literal k → ∃ l, t.literal? k = some l
      | .error failure =>
        (∃ digits, failure = .numeralTooLong digits) ∨
          ∃ c position, failure = .ofError (.strayCharacter c position) ∧ c ≠ markerChar ∧
            ¬ IsQuote c ∧ c ≠ '/' ∧ c.isDigit = false) ∧
    ∀ position, t.conditionPosition = some position →
      ∀ l ∈ t.literals, position ≤ l.position → ∃ value, l.payload = .text value := by
  refine ⟨?_, ?_, ?_⟩
  · cases hk : t.patternPieces with
    | none =>
      rw [patternCells_eq_cells, patternRow_of_none hk, conditionOffset, hk]
      exact List.take_length.symm
    | some count =>
      have hcells : t.cells = Destructure.cells 1 (t.pieces.take count) ++
          Destructure.cells (1 + (literalsOf (t.pieces.take count)).length)
            (t.pieces.drop count) := by
        rw [← cells_append, List.take_append_drop]
        rfl
      rw [patternCells_eq_cells, patternRow_of_some hk, conditionOffset, hk, hcells]
      exact List.take_left.symm
  · rw [patternCells_eq_cells, patternLiterals_eq h]
    cases hscan : Token.scan (Destructure.cells 1 t.patternRow) with
    | ok tokens =>
      have hsound : ∀ piece ∈ t.patternRow, piece.IsSound :=
        fun piece hm => isSound_ofText h piece (List.mem_of_mem_take hm)
      exact ⟨(scans_of_scanFrom hsound (Nat.zero_le _) hscan).numbers.1,
        exists_literal_of_scan (isSound_ofText h) hscan⟩
    | error failure => exact Token.scanFrom_eq_error (ordinary_patternRow h) hscan
  · intro position hp l hl hle
    obtain ⟨count, hk, -⟩ := Option.map_eq_some_iff.mp hp
    obtain ⟨-, -, htexts⟩ := parts_of_patternPieces h hk
    have hnot : l ∉ literalsOf (t.pieces.take count) := by
      intro hm
      rw [← patternRow_of_some hk, ← patternLiterals_eq h, patternLiterals, List.mem_filter, hp] at hm
      have := of_decide_eq_true hm.2
      omega
    have hsplit := (List.take_append_drop count t.pieces).symm
    rw [literals, hsplit, literalsOf_append, List.mem_append] at hl
    exact htexts l (hl.resolve_left hnot)

/-- The text in a condition is none of the literals that the tokens before it refer to. -/
theorem scan_patternCells_condition :
    ∃ t tokens, ofText "['x', 2] when a < '/'".toList = .ok t ∧
      Token.scan t.patternCells = .ok tokens ∧ tokens.filterMap Token.number? = [1, 2] ∧
      ∀ l ∈ t.literals, 9 ≤ l.position → ∃ value, l.payload = .text value := by
  have h : ofText "['x', 2] when a < '/'".toList =
      .ok ⟨[.plain '[' 0, .literal ⟨.text ['x'], ['\'', 'x', '\''], 1⟩, .plain ',' 4, .plain ' ' 5,
        .literal ⟨.number (.integer 2), ['2'], 6⟩, .plain ']' 7, .plain ' ' 8, .plain 'w' 9,
        .plain 'h' 10, .plain 'e' 11, .plain 'n' 12, .plain ' ' 13, .plain 'a' 14, .plain ' ' 15,
        .plain '<' 16, .plain ' ' 17, .literal ⟨.text ['/'], ['\'', '/', '\''], 18⟩], some 7⟩ := by
    rfl
  obtain ⟨-, htokens, htexts⟩ := scan_patternCells h
  refine ⟨_, [⟨.openBracket, 0, 1⟩, ⟨.literal 1, 1, 4⟩, ⟨.comma, 4, 1⟩, ⟨.literal 2, 6, 4⟩,
    ⟨.closeBracket, 7, 1⟩], h, by rfl, ?_, htexts 9 rfl⟩
  exact htokens.1

end Template

end Destructure
