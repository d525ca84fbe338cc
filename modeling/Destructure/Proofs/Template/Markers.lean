import Destructure.Proofs.Pattern.Tally
import Destructure.Proofs.Template.Payload

namespace Destructure

open Token (charsWhile lexemeAt scanFrom)

variable {pieces : List Piece} {number : Nat} {tokens : List Token}

def Token.number? (t : Token) : Option Nat :=
  match t.lexeme with
  | .literal number => some number
  | _ => none

theorem Token.number?_eq_some {t : Token} {k : Nat} :
    t.number? = some k ↔ t.lexeme = .literal k := by
  unfold number?
  cases t.lexeme <;> simp

/-- The tokens that count are those with a number. -/
theorem Token.tallyOf_eq (tokens : List Token) :
    Token.tallyOf tokens = (tokens.filterMap Token.number?).length := by
  induction tokens with
  | nil => rfl
  | cons t rest ih =>
    rw [Token.tallyOf_cons, ih, List.filterMap_cons, Token.tally, Token.number?]
    cases t.lexeme with
    | literal number => exact Nat.add_comm ..
    | _ => exact Nat.zero_add _

def plainLength (pieces : List Piece) : Nat :=
  (pieces.takeWhile (·.char?.isSome)).length

theorem plainLength_plain (c : Char) (position : Nat) (rest : List Piece) :
    plainLength (.plain c position :: rest) = plainLength rest + 1 :=
  rfl

/-- A row of characters that are no marker lies before the first literal. -/
theorem length_charsWhile_cells_le {test : Char → Bool} (ht : test markerChar = false) :
    (charsWhile test (cells number pieces)).length ≤ plainLength pieces := by
  unfold charsWhile
  rw [List.length_map]
  induction pieces with
  | nil => exact Nat.zero_le _
  | cons piece rest ih =>
    cases piece with
    | literal l =>
      rw [Token.cells_literal, List.takeWhile_cons_of_neg (by rw [ht]; decide)]
      exact Nat.zero_le _
    | plain c position =>
      rw [cells, plainLength_plain, List.takeWhile_cons]
      split
      · exact Nat.succ_le_succ ih
      · exact Nat.zero_le _

/-- A token that is no marker has no number, and is at most as long as a name. -/
theorem lexemeAt_of_ne_markerChar {c : Char} {position : Int} {rest : List (Char × Int)}
    {lexeme : Lexeme} {length : Nat} (hc : c ≠ markerChar)
    (h : lexemeAt c position rest = .ok (lexeme, length)) :
    Token.number? ⟨lexeme, position, length⟩ = none ∧
      length - 1 ≤ (charsWhile Text.isNameChar rest).length := by
  rcases Token.lexemeAt_eq_ok hc h with ⟨hmark, rfl⟩ | ⟨-, rfl, rfl⟩
  · refine ⟨?_, Nat.zero_le _⟩
    unfold Lexeme.punctuation? at hmark
    split at hmark
    all_goals
      cases hmark
      try rfl
  · exact ⟨rfl, Nat.le_refl _⟩

/-- Behind a token that begins with a character, only characters are skipped. -/
theorem skip_le_plainLength {c : Char} {position : Int} {lexeme : Lexeme} {length : Nat}
    (hc : c ≠ markerChar) (h : lexemeAt c position (cells number pieces) = .ok (lexeme, length)) :
    length - 1 ≤ plainLength pieces :=
  (lexemeAt_of_ne_markerChar hc h).2.trans (length_charsWhile_cells_le (by decide))

/-- The marker of a literal is one token, with a number that can be read. -/
theorem scanFrom_literal_eq_ok {l : Literal}
    (h : scanFrom 0 (cells number (.literal l :: pieces)) = .ok tokens) :
    ∃ token more, tokens = token :: more ∧ token.lexeme = .literal number ∧
      token.position = l.position ∧ (Nat.toDigits 10 number).length ≤ Number.maxDigits ∧
      scanFrom 0 (cells (number + 1) pieces) = .ok more := by
  rw [Token.cells_literal] at h
  rcases Token.scanFrom_zero_eq_ok h with ⟨hb, -⟩ | ⟨lexeme, length, more, hl, hr, rfl⟩
  · cases hb
  · rw [Token.lexemeAt_marker] at hl
    split at hl
    · cases hl
    · rename_i hlength
      cases hl
      rw [Nat.add_sub_cancel, Token.scanFrom_append] at hr
      exact ⟨_, more, rfl, rfl, rfl, Nat.not_lt.mp hlength, hr⟩

inductive Scans : (number skip : Nat) → List Piece → List Token → Prop
  | nil {number : Nat} : Scans number 0 [] []
  | skip {number skip : Nat} {c : Char} {position : Nat} {rest : List Piece} {tokens : List Token}
      (h : Scans number skip rest tokens) : Scans number (skip + 1) (.plain c position :: rest) tokens
  | blank {number : Nat} {c : Char} {position : Nat} {rest : List Piece} {tokens : List Token}
      (hb : Text.isBlank c = true) (h : Scans number 0 rest tokens) :
      Scans number 0 (.plain c position :: rest) tokens
  | token {number : Nat} {c : Char} {position : Nat} {rest : List Piece} {lexeme : Lexeme}
      {length : Nat} {more : List Token} (hc : c ≠ markerChar)
      (hl : lexemeAt c position (cells number rest) = .ok (lexeme, length))
      (h : Scans number (length - 1) rest more) :
      Scans number 0 (.plain c position :: rest) (⟨lexeme, position, length⟩ :: more)
  | literal {number : Nat} {l : Literal} {rest : List Piece} {t : Token} {more : List Token}
      (hlexeme : t.lexeme = .literal number) (hposition : t.position = l.position)
      (hdigits : (Nat.toDigits 10 number).length ≤ Number.maxDigits)
      (h : Scans (number + 1) 0 rest more) : Scans number 0 (.literal l :: rest) (t :: more)

/-- What has been scanned are the tokens of the pieces. -/
theorem scans_of_scanFrom (hp : ∀ piece ∈ pieces, piece.IsSound) {skip : Nat}
    (hs : skip ≤ plainLength pieces) (h : scanFrom skip (cells number pieces) = .ok tokens) :
    Scans number skip pieces tokens := by
  induction pieces generalizing skip number tokens with
  | nil =>
    obtain rfl := Nat.le_zero.mp hs
    cases h
    exact .nil
  | cons piece rest ih =>
    obtain ⟨hpiece, hrest⟩ := List.forall_mem_cons.mp hp
    cases piece with
    | plain c position =>
      cases skip with
      | succ skip => exact .skip (ih hrest (Nat.le_of_succ_le_succ hs) h)
      | zero =>
        rcases Token.scanFrom_zero_eq_ok h with ⟨hb, h⟩ | ⟨lexeme, length, more, hl, hr, rfl⟩
        · exact .blank hb (ih hrest (Nat.zero_le _) h)
        · exact .token hpiece hl (ih hrest (skip_le_plainLength hpiece hl) hr)
    | literal l =>
      obtain rfl := Nat.le_zero.mp hs
      obtain ⟨t, more, rfl, hlexeme, hposition, hdigits, hr⟩ := scanFrom_literal_eq_ok h
      exact .literal hlexeme hposition hdigits (ih hrest (Nat.zero_le _) hr)

/-- The literals of a template that has been scanned are tokens, with numbers that can be read. -/
theorem Scans.numbers {skip : Nat} (h : Scans number skip pieces tokens) :
    tokens.filterMap Token.number? = List.range' number (literalsOf pieces).length ∧
      ∀ k < (literalsOf pieces).length,
        (Nat.toDigits 10 (number + k)).length ≤ Number.maxDigits := by
  induction h with
  | nil => exact ⟨rfl, fun k hk => absurd hk (Nat.not_lt_zero k)⟩
  | skip _ ih | blank _ _ ih =>
    rw [literalsOf_plain]
    exact ih
  | token hc hl _ ih =>
    rw [literalsOf_plain, List.filterMap_cons_none (lexemeAt_of_ne_markerChar hc hl).1]
    exact ih
  | literal hlexeme _ hdigits _ ih =>
    obtain ⟨hnumbers, hmore⟩ := ih
    rw [literalsOf_literal, List.length_cons]
    refine ⟨?_, fun k hk => ?_⟩
    · rw [List.filterMap_cons_some (Token.number?_eq_some.mpr hlexeme), List.range'_succ, ← hnumbers]
    · cases k with
      | zero => exact hdigits
      | succ k =>
        have hk := hmore k (by omega)
        rwa [Nat.add_right_comm, Nat.add_assoc] at hk

namespace Template

variable {t : Template}

theorem literal?_one_add (t : Template) (i : Nat) : t.literal? (1 + i) = t.literals[i]? := by
  rw [literal?, if_neg (by omega), Nat.add_sub_cancel_left]

/-- The part of a template before its condition is a row of its first pieces. -/
theorem patternCells_eq (t : Template) :
    ∃ count, t.patternCells = Destructure.cells 1 (t.pieces.take count) := by
  unfold patternCells
  split
  · exact ⟨t.pieces.length, by rw [List.take_length]; rfl⟩
  · exact ⟨_, rfl⟩

/-- Whatever part of a template has been scanned, its literal tokens refer to literals. -/
theorem exists_literal_of_scan (hp : ∀ piece ∈ t.pieces, piece.IsSound) {count : Nat}
    (h : Token.scan (Destructure.cells 1 (t.pieces.take count)) = .ok tokens) :
    ∀ token ∈ tokens, ∀ k, token.lexeme = .literal k → ∃ l, t.literal? k = some l := by
  intro token hm k hk
  have hsound : ∀ piece ∈ t.pieces.take count, piece.IsSound :=
    fun piece hm => hp piece (List.mem_of_mem_take hm)
  obtain ⟨hnumbers, -⟩ := (scans_of_scanFrom hsound (Nat.zero_le _) h).numbers
  have hrange : k ∈ tokens.filterMap Token.number? :=
    List.mem_filterMap.mpr ⟨token, hm, Token.number?_eq_some.mpr hk⟩
  rw [hnumbers, List.mem_range'_1] at hrange
  have hlength : (literalsOf (t.pieces.take count)).length ≤ t.literals.length :=
    ((List.take_sublist count t.pieces).filterMap _).length_le
  obtain ⟨i, rfl⟩ := Nat.exists_eq_add_of_le hrange.1
  rw [literal?_one_add]
  exact ⟨_, List.getElem?_eq_getElem (by omega)⟩

end Template

end Destructure
