import Destructure.Proofs.Place
import Destructure.Proofs.Pattern.Refusal
import Destructure.Proofs.Template.Delimiter
import Destructure.Proofs.Template.Segments

namespace Destructure

open Token (charsWhile lexemeAt scanFrom)

section Scan

variable {pieces rest : List Piece} {number skip : Nat} {tokens : List Token} {token : Token}
  {failure : Failure} {c : Char} {l : Literal}

inductive Token.BeginsIn (token : Token) : (number : Nat) → List Piece → Prop
  | plain {number : Nat} {c : Char} {position : Nat} {rest : List Piece} (hc : c ≠ markerChar)
      (hposition : token.position = position)
      (h : lexemeAt c position (cells number rest) = .ok (token.lexeme, token.length)) :
      BeginsIn token number (.plain c position :: rest)
  | literal {number : Nat} {l : Literal} {rest : List Piece} (hposition : token.position = l.position)
      (h : token.lexeme = .literal number) : BeginsIn token number (.literal l :: rest)
  | afterPlain {number : Nat} {c : Char} {position : Nat} {rest : List Piece}
      (h : BeginsIn token number rest) : BeginsIn token number (.plain c position :: rest)
  | afterLiteral {number : Nat} {l : Literal} {rest : List Piece}
      (h : BeginsIn token (number + 1) rest) : BeginsIn token number (.literal l :: rest)

/-- Every token begins with a piece, and the tokens come in the order of the pieces. -/
theorem Scans.beginsIn (h : Scans number skip pieces tokens) :
    (∀ token ∈ tokens, token.BeginsIn number pieces) ∧
      (tokens.map Token.position).Sublist (pieces.map fun piece => (piece.position : Int)) := by
  induction h with
  | nil => exact ⟨fun token hm => (nomatch hm), List.Sublist.slnil⟩
  | skip h ih | blank _ h ih =>
    obtain ⟨hbegins, horder⟩ := ih
    exact ⟨fun token hm => .afterPlain (hbegins token hm), horder.cons _⟩
  | token hc hl h ih =>
    obtain ⟨hbegins, horder⟩ := ih
    exact ⟨List.forall_mem_cons.mpr ⟨.plain hc rfl hl, fun token hm => .afterPlain (hbegins token hm)⟩,
      horder.cons_cons _⟩
  | literal hlexeme hposition hdigits h ih =>
    obtain ⟨hbegins, horder⟩ := ih
    refine ⟨List.forall_mem_cons.mpr ⟨.literal hposition hlexeme, fun token hm =>
      .afterLiteral (hbegins token hm)⟩, ?_⟩
    rw [List.map_cons, List.map_cons, hposition]
    exact horder.cons_cons _

/-- Scanning fails for the number of a literal that is too long, or for a character that begins no
token. -/
theorem stray_of_scanFrom (hp : ∀ piece ∈ pieces, piece.IsSound) (hs : skip ≤ plainLength pieces)
    (h : scanFrom skip (cells number pieces) = .error failure) :
    (∃ k < number + (literalsOf pieces).length, Number.maxDigits < (Nat.toDigits 10 k).length ∧
        failure = .numeralTooLong (Nat.toDigits 10 k).length) ∨
      ∃ (c : Char) (position : Nat), .plain c position ∈ pieces ∧
        failure = .ofError (.strayCharacter c position) := by
  induction pieces generalizing skip number with
  | nil => cases skip <;> cases h
  | cons piece rest ih =>
    obtain ⟨hpiece, hrest⟩ := List.forall_mem_cons.mp hp
    have hlater {skip later : Nat} (hs : skip ≤ plainLength rest)
        (hnumber : later + (literalsOf rest).length ≤ number + (literalsOf (piece :: rest)).length)
        (h : scanFrom skip (cells later rest) = .error failure) :
        (∃ k < number + (literalsOf (piece :: rest)).length,
            Number.maxDigits < (Nat.toDigits 10 k).length ∧
              failure = .numeralTooLong (Nat.toDigits 10 k).length) ∨
          ∃ (c : Char) (position : Nat), .plain c position ∈ piece :: rest ∧
            failure = .ofError (.strayCharacter c position) := by
      rcases ih hrest hs h with ⟨k, hk, hlong⟩ | ⟨c, position, hm, hfailure⟩
      · exact Or.inl ⟨k, hk.trans_le hnumber, hlong⟩
      · exact Or.inr ⟨c, position, List.mem_cons_of_mem _ hm, hfailure⟩
    cases piece with
    | plain c position =>
      cases skip with
      | succ skip => exact hlater (Nat.le_of_succ_le_succ hs) le_rfl h
      | zero =>
        rcases Token.scanFrom_zero_eq_error h with ⟨-, hmore⟩ | ⟨-, hl | ⟨lexeme, length, hl, hmore⟩⟩
        · exact hlater (Nat.zero_le _) le_rfl hmore
        · rcases Token.lexemeAt_ordinary hpiece position (cells number rest) with
            hstray | ⟨lexeme, length, hok, -⟩
          · cases hstray.symm.trans hl
            exact Or.inr ⟨c, position, List.mem_cons_self, rfl⟩
          · cases hok.symm.trans hl
        · exact hlater (skip_le_plainLength hpiece hl) le_rfl hmore
    | literal l =>
      obtain rfl := Nat.le_zero.mp hs
      have hnumber : number + 1 + (literalsOf rest).length ≤
          number + (literalsOf (.literal l :: rest)).length := by
        rw [literalsOf_literal, List.length_cons]
        omega
      have hscan : scanFrom (Token.named false (cells number (.literal l :: rest)))
          (cells number (.literal l :: rest)) = .error failure := h
      rcases Token.scanFrom_literal_eq_error hscan with hlong | hmore
      · exact Or.inl ⟨number, by omega, hlong⟩
      · exact hlater (Nat.zero_le _) hnumber hmore

end Scan

section Written

variable {pieces rest : List Piece} {number : Nat} {token : Token} {literal? : Nat → Option Literal}
  {c : Char} {position : Int}

/-- A row of characters that are no markers is read as it is written. -/
theorem charsWhile_isPrefix_written {test : Char → Bool} (ht : test markerChar = false)
    (number : Nat) (pieces : List Piece) : charsWhile test (cells number pieces) <+: written pieces := by
  induction pieces generalizing number with
  | nil => exact List.prefix_rfl
  | cons piece rest ih =>
    cases piece with
    | literal l =>
      rw [charsWhile, Token.cells_literal, List.takeWhile_cons_of_neg (by rw [ht]; decide)]
      exact List.nil_prefix
    | plain c position =>
      rw [charsWhile, cells, List.takeWhile_cons]
      split
      · exact List.cons_prefix_cons.mpr ⟨rfl, ih number⟩
      · exact List.nil_prefix

/-- A token that begins with a character is no literal, and is written as that character and some that
come next. -/
theorem shown_of_lexemeAt (literal? : Nat → Option Literal) (text : String) (hc : c ≠ markerChar)
    (h : lexemeAt c position (cells number rest) = .ok (token.lexeme, token.length)) :
    (∀ k, token.lexeme ≠ .literal k) ∧ ∃ more, more <+: written rest ∧
      (Reading.Source.shown ⟨literal?, text⟩ token).toList = c :: more := by
  obtain ⟨lexeme, place, length⟩ := token
  dsimp only at h ⊢
  rcases Token.lexemeAt_eq_ok hc h with ⟨hmark, rfl⟩ | ⟨-, rfl, rfl⟩
  · unfold Lexeme.punctuation? at hmark
    split at hmark
    all_goals cases hmark
    all_goals
      refine ⟨fun k hk => (nomatch hk), [], List.nil_prefix, ?_⟩
      simp [Reading.Source.shown]
  · have hmarker : Text.isNameChar markerChar = false := by decide
    refine ⟨fun k hk => (nomatch hk), _, charsWhile_isPrefix_written hmarker number rest, ?_⟩
    exact String.toList_ofList

/-- Where a token begins, it is written: the pieces from there on are written as the token and what
comes behind it. -/
theorem Token.BeginsIn.exists_split (h : token.BeginsIn number pieces) (text : String)
    (hl : ∀ i l, (literalsOf pieces)[i]? = some l → literal? (number + i) = some l)
    (hraw : ∀ l ∈ literalsOf pieces, l.raw ≠ []) :
    token.Resolves literal? ∧ ∃ before piece after, pieces = before ++ piece :: after ∧
      token.position = piece.position ∧
      (Reading.Source.shown ⟨literal?, text⟩ token).toList ≠ [] ∧
      (Reading.Source.shown ⟨literal?, text⟩ token).toList <+: written (piece :: after) := by
  induction h with
  | @plain number c position rest hc hposition h =>
    obtain ⟨hnone, more, hmore, hshown⟩ := shown_of_lexemeAt literal? text hc h
    refine ⟨fun k hk => absurd hk (hnone k), [], _, rest, rfl, hposition, ?_, ?_⟩
    · rw [hshown]
      exact List.cons_ne_nil _ _
    · rw [hshown]
      exact List.cons_prefix_cons.mpr ⟨rfl, hmore⟩
  | @literal number l rest hposition h =>
    have hresolved : literal? number = some l := hl 0 l rfl
    have hshown : (Reading.Source.shown ⟨literal?, text⟩ token).toList = l.raw := by
      unfold Reading.Source.shown
      rw [h]
      dsimp only
      rw [hresolved]
      exact String.toList_ofList
    refine ⟨?_, [], _, rest, rfl, hposition, ?_, ?_⟩
    · intro k hk
      cases h.symm.trans hk
      exact ⟨l, hresolved⟩
    · rw [hshown]
      exact hraw l List.mem_cons_self
    · rw [hshown]
      exact List.prefix_append _ _
  | @afterPlain number c position rest h ih =>
    obtain ⟨hresolves, before, piece, after, rfl, hrest⟩ := ih hl hraw
    exact ⟨hresolves, _ :: before, piece, after, rfl, hrest⟩
  | @afterLiteral number l rest h ih =>
    have hlater : ∀ i other, (literalsOf rest)[i]? = some other →
        literal? (number + 1 + i) = some other := by
      intro i other hother
      have hnext := hl (i + 1) other hother
      rwa [Nat.add_comm i 1, ← Nat.add_assoc] at hnext
    obtain ⟨hresolves, before, piece, after, rfl, hrest⟩ :=
      ih hlater fun other hm => hraw other (List.mem_cons_of_mem _ hm)
    exact ⟨hresolves, _ :: before, piece, after, rfl, hrest⟩

end Written

structure Token.StandsIn (token : Token) (t : Template) (text : String) : Prop where
  resolves : token.Resolves t.literal?
  nonempty : (Reading.Source.shown ⟨t.literal?, text⟩ token).toList ≠ []
  stands : StandsAt text.toList (Reading.Source.shown ⟨t.literal?, text⟩ token).toList token.position

namespace Template

variable {text : String} {t : Template} {tokens : List Token} {failure : Failure}

/-- What the pieces of a template are written as, from one of them on, stands at the position of that
piece. -/
theorem standsAt_of_split (h : ofText text.toList = .ok t) {before after : List Piece} {piece : Piece}
    (hsplit : t.pieces = before ++ piece :: after) {own : List Char} (hne : own ≠ [])
    (hown : own <+: written (piece :: after)) : StandsAt text.toList own piece.position := by
  obtain ⟨hwritten, haligned⟩ := aligned_ofText h
  obtain ⟨-, hplace, -⟩ : Aligned 0 before ∧ Aligned (0 + (written before).length) (piece :: after) := by
    rw [← aligned_append, ← hsplit]
    exact haligned
  obtain ⟨more, hmore⟩ := hown
  have htext : text.toList = written before ++ (own ++ more) := by
    calc
      text.toList = written (before ++ piece :: after) := by rw [← hwritten, hsplit]
      _ = written before ++ (own ++ more) := by rw [written_append, ← hmore]
  rw [hplace, Nat.zero_add, htext]
  exact standsAt_append hne _ _

theorem isSound_patternRow (h : ofText text.toList = .ok t) :
    ∀ piece ∈ t.patternRow, piece.IsSound :=
  fun piece hm => isSound_ofText h piece (List.mem_of_mem_take hm)

/-- The tokens of a pattern stand in its text, one behind the other. -/
theorem standsIn_of_scan (h : ofText text.toList = .ok t)
    (hs : Token.scan t.patternCells = .ok tokens) :
    (∀ token ∈ tokens, token.StandsIn t text) ∧
      tokens.Pairwise fun first second => first.position < second.position := by
  rw [patternCells_eq_cells] at hs
  obtain ⟨hbegins, horder⟩ := (scans_of_scanFrom (isSound_patternRow h) (Nat.zero_le _) hs).beginsIn
  have hsplit : t.pieces = t.patternRow ++ t.pieces.drop (t.patternPieces.getD t.pieces.length) :=
    (List.take_append_drop _ _).symm
  constructor
  · intro token hm
    have hliteral : ∀ i l, (literalsOf t.patternRow)[i]? = some l → t.literal? (1 + i) = some l := by
      intro i l hl
      rw [literal?_one_add, literals, hsplit, literalsOf_append]
      rw [List.getElem?_append_left (List.getElem?_eq_some_iff.mp hl).1]
      exact hl
    have hraw : ∀ l ∈ literalsOf t.patternRow, l.raw ≠ [] := by
      intro l hl
      apply raw_ne_nil h
      rw [literals, hsplit, literalsOf_append]
      exact List.mem_append_left _ hl
    obtain ⟨hresolves, before, piece, after, hrow, hposition, hne, hshown⟩ :=
      (hbegins token hm).exists_split text hliteral hraw
    have hpieces : t.pieces = before ++ piece ::
        (after ++ t.pieces.drop (t.patternPieces.getD t.pieces.length)) := by
      rw [← List.cons_append, ← List.append_assoc, ← hrow]
      exact hsplit
    have hmore : written (piece :: after) <+:
        written (piece :: (after ++ t.pieces.drop (t.patternPieces.getD t.pieces.length))) := by
      rw [← List.cons_append, written_append]
      exact List.prefix_append _ _
    refine ⟨hresolves, hne, ?_⟩
    rw [hposition]
    exact standsAt_of_split h hpieces hne (hshown.trans hmore)
  · have hincreasing : (t.patternRow.map fun piece => (piece.position : Int)).Pairwise (· < ·) := by
      rw [List.pairwise_map]
      have hall := (increasing_ofText h).sublist (List.take_sublist _ _ : t.patternRow.Sublist _)
      exact hall.imp fun hlt => Int.ofNat_lt.mpr hlt
    exact List.pairwise_map.mp (hincreasing.sublist horder)

/-- A character that begins no token stands at the position that is reported. -/
theorem pointsInto_of_scan (h : ofText text.toList = .ok t)
    (hs : Token.scan t.patternCells = .error failure) : failure.PointsInto text.toList := by
  rw [patternCells_eq_cells] at hs
  rcases stray_of_scanFrom (isSound_patternRow h) (Nat.zero_le _) hs with
    ⟨k, -, -, rfl⟩ | ⟨c, position, hm, rfl⟩
  · exact Failure.pointsInto_of_ne fun error h => nomatch h
  · have hpiece : Piece.plain c position ∈ t.pieces := List.mem_of_mem_take hm
    obtain ⟨before, after, hsplit⟩ := List.append_of_mem hpiece
    have hreport : (PatternError.strayCharacter c position).report.position = some (position : Int) := rfl
    refine Failure.pointsInto_of_standsAt hreport ?_
    exact standsAt_of_split h hsplit (List.cons_ne_nil c []) ⟨written after, rfl⟩

end Template

end Destructure
