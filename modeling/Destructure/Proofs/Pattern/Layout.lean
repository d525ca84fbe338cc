import Destructure.Proofs.Pattern.Neighbour
import Destructure.Proofs.Pattern.Position
import Destructure.Proofs.Template.Repeat

namespace Destructure

open Token (charsWhile scanFrom AreApart)
open Lifting (Separates)

def plains (position : Nat) : List Char → List Piece
  | [] => []
  | c :: cs => .plain c position :: plains (position + 1) cs

def Reading.Source.pieces (source : Reading.Source) (position : Nat) (t : Token) : List Piece :=
  match t.lexeme with
  | .literal number => (source.literal? number).toList.map fun l =>
      .literal ⟨l.payload, l.raw, position⟩
  | _ => plains position (source.shown t).toList

inductive Span
  | blank (c : Char) (h : Text.isBlank c = true)
  | token (t : Token)

def Span.token? : Span → Option Token
  | .blank _ _ => none
  | .token t => some t

abbrev Layout :=
  List Span

namespace Layout

def tokens (y : Layout) : List Token :=
  y.filterMap Span.token?

def text (source : Reading.Source) : Layout → List Char
  | [] => []
  | .blank c _ :: rest => c :: text source rest
  | .token t :: rest => (source.shown t).toList ++ text source rest

def pieces (source : Reading.Source) : (position : Nat) → Layout → List Piece
  | _, [] => []
  | position, .blank c _ :: rest => .plain c position :: pieces source (position + 1) rest
  | position, .token t :: rest =>
    source.pieces position t ++ pieces source (position + (source.shown t).toList.length) rest

def literals (source : Reading.Source) (y : Layout) : List Literal :=
  literalsOf (y.pieces source 0)

end Layout

inductive Token.IsWhole (source : Reading.Source) (t : Token) : Prop
  | mark (c : Char) (hc : Lexeme.punctuation? c = some t.lexeme)
  | name (c : Char) (cs : List Char) (h : t.lexeme = .name (String.ofList (c :: cs)))
      (hc : Text.isNameStart c = true) (hcs : ∀ d ∈ cs, Text.isNameChar d = true)
  | literal (number : Nat) (l : Literal) (h : t.lexeme = .literal number)
      (hl : source.literal? number = some l)

def Piece.isBlank : Piece → Bool
  | .plain c _ => Text.isBlank c
  | .literal _ => false

section Pieces

variable {source : Reading.Source} {t : Token} {position : Nat} {c : Char} {cs : List Char}

theorem written_plains (position : Nat) (cs : List Char) : written (plains position cs) = cs := by
  induction cs generalizing position with
  | nil => rfl
  | cons c cs ih => exact congrArg (c :: ·) (ih (position + 1))

theorem aligned_plains (position : Nat) (cs : List Char) : Aligned position (plains position cs) := by
  induction cs generalizing position with
  | nil => exact trivial
  | cons c cs ih => exact ⟨rfl, ih (position + 1)⟩

theorem literalsOf_plains (position : Nat) (cs : List Char) :
    literalsOf (plains position cs) = [] := by
  induction cs generalizing position with
  | nil => rfl
  | cons c cs ih => exact ih (position + 1)

theorem raw_ne_nil_of_mem_plains :
    ∀ piece ∈ plains position cs, piece.raw ≠ [] := by
  induction cs generalizing position with
  | nil => exact fun piece hm => nomatch hm
  | cons c cs ih => exact List.forall_mem_cons.mpr ⟨List.cons_ne_nil _ _, ih⟩

theorem isBlank_of_mem_plains (hcs : ∀ c ∈ cs, Text.isBlank c = false) :
    ∀ piece ∈ plains position cs, piece.isBlank = false := by
  induction cs generalizing position with
  | nil => exact fun piece hm => nomatch hm
  | cons c cs ih =>
    obtain ⟨hc, hcs⟩ := List.forall_mem_cons.mp hcs
    exact List.forall_mem_cons.mpr ⟨hc, ih hcs⟩

theorem isMark_of_punctuation? {lexeme : Lexeme} (hc : Lexeme.punctuation? c = some lexeme) :
    lexeme.IsMark := by
  unfold Lexeme.punctuation? at hc
  split at hc
  all_goals
    cases hc
    try exact trivial

theorem number?_of_isMark {t : Token} (h : t.lexeme.IsMark) : t.number? = none := by
  cases hnumber : t.number? with
  | none => rfl
  | some k =>
    rw [Token.number?_eq_some.mp hnumber] at h
    exact h.elim

theorem Reading.Source.pieces_mark (source : Reading.Source) (position : Nat)
    (hc : Lexeme.punctuation? c = some t.lexeme) :
    source.pieces position t = [.plain c position] ∧ (source.shown t).toList = [c] := by
  obtain ⟨lexeme, place, length⟩ := t
  dsimp only at hc
  unfold Lexeme.punctuation? at hc
  split at hc
  all_goals
    cases hc
    try simp [pieces, shown, plains]

theorem Reading.Source.pieces_name (source : Reading.Source) (position : Nat)
    (h : t.lexeme = .name (String.ofList cs)) :
    source.pieces position t = plains position cs ∧ (source.shown t).toList = cs := by
  have hshown : (source.shown t).toList = cs := by
    unfold shown
    rw [h]
    exact String.toList_ofList
  refine ⟨?_, hshown⟩
  unfold pieces
  rw [h, hshown]

theorem Reading.Source.pieces_literal (position : Nat) {number : Nat} {l : Literal}
    (h : t.lexeme = .literal number) (hl : source.literal? number = some l) :
    source.pieces position t = [.literal ⟨l.payload, l.raw, position⟩] ∧
      (source.shown t).toList = l.raw := by
  unfold pieces shown
  rw [h]
  dsimp only
  rw [hl]
  exact ⟨rfl, String.toList_ofList⟩

/-- A token is written as characters that are no blanks, or it is a literal. -/
theorem Token.IsWhole.pieces_cases (h : t.IsWhole source) (position : Nat) :
    (∃ cs, t.number? = none ∧ (∀ c ∈ cs, Text.isBlank c = false) ∧
      source.pieces position t = plains position cs ∧ (source.shown t).toList = cs) ∨
    ∃ number l, t.number? = some number ∧ source.literal? number = some l ∧
      source.pieces position t = [.literal ⟨l.payload, l.raw, position⟩] ∧
        (source.shown t).toList = l.raw := by
  cases h with
  | mark c hc =>
    have hblank : Text.isBlank c = false :=
      Lexeme.forall_punctuation (Q := fun c => Text.isBlank c = false) (by decide)
        (Option.isSome_iff_exists.mpr ⟨_, hc⟩)
    exact Or.inl ⟨[c], number?_of_isMark (isMark_of_punctuation? hc),
      List.forall_mem_singleton.mpr hblank, source.pieces_mark position hc⟩
  | name c cs h hc hcs =>
    have hall : ∀ d ∈ c :: cs, Text.isNameChar d = true :=
      List.forall_mem_cons.mpr ⟨Text.isNameChar_of_isNameStart hc, hcs⟩
    exact Or.inl ⟨c :: cs, by rw [Token.number?, h],
      fun d hd => Text.isBlank_of_isNameChar (hall d hd), source.pieces_name position h⟩
  | literal number l h hl =>
    exact Or.inr ⟨number, l, Token.number?_eq_some.mpr h, hl, source.pieces_literal position h hl⟩

theorem Token.IsWhole.written_pieces (h : t.IsWhole source) (position : Nat) :
    written (source.pieces position t) = (source.shown t).toList := by
  rcases h.pieces_cases position with ⟨cs, -, -, hp, hs⟩ | ⟨number, l, -, -, hp, hs⟩
  · rw [hp, hs, written_plains]
  · rw [hp, hs]
    exact List.append_nil _

theorem Token.IsWhole.aligned_pieces (h : t.IsWhole source) (position : Nat) :
    Aligned position (source.pieces position t) := by
  rcases h.pieces_cases position with ⟨cs, -, -, hp, -⟩ | ⟨number, l, -, -, hp, -⟩
  · rw [hp]
    exact aligned_plains position cs
  · rw [hp]
    exact ⟨rfl, trivial⟩

/-- There are no blanks in a token, outside literals. -/
theorem Token.IsWhole.isBlank_eq_false (h : t.IsWhole source) (position : Nat) :
    ∀ piece ∈ source.pieces position t, piece.isBlank = false := by
  rcases h.pieces_cases position with ⟨cs, -, hcs, hp, -⟩ | ⟨number, l, -, -, hp, -⟩
  · rw [hp]
    exact isBlank_of_mem_plains hcs
  · rw [hp]
    exact List.forall_mem_singleton.mpr rfl

end Pieces

namespace Layout

variable {source : Reading.Source} {t : Token} {y : Layout} {c : Char} {hc : Text.isBlank c = true}

@[simp]
theorem tokens_blank (y : Layout) : tokens (.blank c hc :: y) = tokens y :=
  rfl

@[simp]
theorem tokens_token (t : Token) (y : Layout) : tokens (.token t :: y) = t :: tokens y :=
  rfl

theorem written_pieces (hw : ∀ t ∈ tokens y, t.IsWhole source) (position : Nat) :
    written (pieces source position y) = text source y := by
  induction y generalizing position with
  | nil => rfl
  | cons span rest ih =>
    cases span with
    | blank c hc => exact congrArg (c :: ·) (ih hw (position + 1))
    | token t =>
      obtain ⟨ht, hrest⟩ := List.forall_mem_cons.mp hw
      rw [pieces, written_append, ht.written_pieces, ih hrest, text]

theorem aligned_pieces (hw : ∀ t ∈ tokens y, t.IsWhole source) (position : Nat) :
    Aligned position (pieces source position y) := by
  induction y generalizing position with
  | nil => exact trivial
  | cons span rest ih =>
    cases span with
    | blank c hc => exact ⟨rfl, ih hw (position + 1)⟩
    | token t =>
      obtain ⟨ht, hrest⟩ := List.forall_mem_cons.mp hw
      refine aligned_append.mpr ⟨ht.aligned_pieces position, ?_⟩
      rw [ht.written_pieces]
      exact ih hrest _

/-- What follows a name or a literal in a layout is a blank or a mark. -/
theorem exists_of_head_pieces (hw : ∀ t ∈ tokens y, t.IsWhole source)
    (hm : ∀ t ∈ (tokens y).head?, t.lexeme.IsMark) (position : Nat) :
    ∀ piece ∈ (pieces source position y).head?, ∃ c p, piece = .plain c p ∧
      (Text.isBlank c = true ∨ (Lexeme.punctuation? c).isSome = true) := by
  intro piece hpiece
  cases y with
  | nil => cases hpiece
  | cons span rest =>
    cases span with
    | blank c hc =>
      cases hpiece
      exact ⟨c, position, rfl, Or.inl hc⟩
    | token t =>
      have hmark := hm t rfl
      obtain ⟨ht, -⟩ := List.forall_mem_cons.mp hw
      cases ht with
      | mark c hc =>
        rw [pieces, (source.pieces_mark _ hc).1] at hpiece
        cases hpiece
        exact ⟨c, position, rfl, Or.inr (Option.isSome_iff_exists.mpr ⟨_, hc⟩)⟩
      | name c cs h => exact (h ▸ hmark : (Lexeme.name _).IsMark).elim
      | literal number l h => exact (h ▸ hmark : (Lexeme.literal _).IsMark).elim

/-- What follows a literal in a layout does not go on with it. -/
theorem separates_head (hw : ∀ t ∈ tokens y, t.IsWhole source)
    (hm : ∀ t ∈ (tokens y).head?, t.lexeme.IsMark) (position : Nat) :
    ∀ c ∈ (written (pieces source position y)).head?, Separates c := by
  intro d hd
  cases hp : pieces source position y with
  | nil =>
    rw [hp] at hd
    cases hd
  | cons piece more =>
    obtain ⟨c, p, rfl, hc⟩ := exists_of_head_pieces hw hm position piece (by rw [hp]; rfl)
    rw [hp] at hd
    cases hd
    rcases hc with hblank | hmark
    · exact ⟨Lifting.isNumberChar_of_isBlank hblank, Lifting.ne_of_isBlank hblank (by decide)⟩
    · exact Lexeme.forall_punctuation (Q := fun c => Lifting.isNumberChar c = false ∧ c ≠ 'i')
        (by decide) hmark

/-- What follows a name in a layout does not go on with it. -/
theorem isNameChar_head_cells (hw : ∀ t ∈ tokens y, t.IsWhole source)
    (hm : ∀ t ∈ (tokens y).head?, t.lexeme.IsMark) (position number : Nat) :
    ∀ cell ∈ (cells number (pieces source position y)).head?, Text.isNameChar cell.1 = false := by
  intro cell hcell
  cases hp : pieces source position y with
  | nil =>
    rw [hp] at hcell
    cases hcell
  | cons piece more =>
    obtain ⟨c, p, rfl, hc⟩ := exists_of_head_pieces hw hm position piece (by rw [hp]; rfl)
    rw [hp] at hcell
    cases hcell
    rcases hc with hblank | hmark
    · exact Text.isNameChar_of_isBlank hblank
    · exact Lexeme.forall_punctuation (Q := fun c => Text.isNameChar c = false) (by decide) hmark

end Layout

section Relift

variable {source : Reading.Source} {c : Char} {cs : List Char} {p : Nat} {ps : List Piece}

theorem relifts_blank (hc : Text.isBlank c = true) (inName : Bool) (h : Relifts false ps) :
    Relifts inName (.plain c p :: ps) := by
  have hnamed : (Piece.plain c p).isNamed = false := Text.isNameChar_of_isBlank hc
  refine ⟨⟨Lifting.ne_of_isBlank hc (by decide), Lifting.not_isQuote_of_isBlank hc,
    Lifting.ne_of_isBlank hc (by decide), fun _ => ⟨Lifting.isDigit_of_isBlank hc,
      Lifting.not_isSign_of_isBlank hc⟩⟩, ?_⟩
  rwa [hnamed]

theorem relifts_mark (hc : (Lexeme.punctuation? c).isSome = true) (inName : Bool)
    (h : Relifts false ps) : Relifts inName (.plain c p :: ps) := by
  have hnamed : (Piece.plain c p).isNamed = false :=
    Lexeme.forall_punctuation (Q := fun c => Text.isNameChar c = false) (by decide) hc
  have hplain : c ≠ markerChar ∧ ¬ (c = '\'' ∨ c = '"') ∧ c ≠ '/' ∧ c.isDigit = false ∧
      ¬ (c = '+' ∨ c = '-') :=
    Lexeme.forall_punctuation (Q := fun c => c ≠ markerChar ∧ ¬ (c = '\'' ∨ c = '"') ∧ c ≠ '/' ∧
      c.isDigit = false ∧ ¬ (c = '+' ∨ c = '-')) (by decide) hc
  obtain ⟨hmarker, hquote, hslash, hstart⟩ := hplain
  refine ⟨⟨hmarker, hquote, hslash, fun _ => hstart⟩, ?_⟩
  rwa [hnamed]

/-- A character of a name. -/
theorem relifts_nameChar {inName : Bool} (hc : Text.isNameChar c = true)
    (hstart : inName = false → c.isDigit = false) (h : Relifts true ps) :
    Relifts inName (.plain c p :: ps) := by
  have hnamed : (Piece.plain c p).isNamed = true := hc
  have hplain : c ≠ markerChar ∧ ¬ (c = '\'' ∨ c = '"') ∧ c ≠ '/' ∧ ¬ (c = '+' ∨ c = '-') :=
    Text.forall_nameChar (Q := fun c => c ≠ markerChar ∧ ¬ (c = '\'' ∨ c = '"') ∧ c ≠ '/' ∧
      ¬ (c = '+' ∨ c = '-')) (by decide) hc
  obtain ⟨hmarker, hquote, hslash, hsign⟩ := hplain
  refine ⟨⟨hmarker, hquote, hslash, fun hname => ⟨hstart hname, hsign⟩⟩, ?_⟩
  rwa [hnamed]

theorem relifts_nameChars (hcs : ∀ d ∈ cs, Text.isNameChar d = true) (h : Relifts true ps) :
    Relifts true (plains p cs ++ ps) := by
  induction cs generalizing p with
  | nil => exact h
  | cons c cs ih =>
    obtain ⟨hc, hcs⟩ := List.forall_mem_cons.mp hcs
    exact relifts_nameChar hc (fun hname => nomatch hname) (ih hcs)

/-- The pieces of a layout are lifted again, if no names or literals stand next to each other. -/
theorem Layout.relifts_pieces {y : Layout} {inName : Bool}
    (hw : ∀ t ∈ tokens y, t.IsWhole source)
    (hr : ∀ number l, source.literal? number = some l → l.Repeats) (ha : AreApart (tokens y))
    (hfirst : inName = true → ∀ t ∈ (tokens y).head?, t.lexeme.IsMark) (position : Nat) :
    Relifts inName (pieces source position y) := by
  induction y generalizing inName position with
  | nil => exact trivial
  | cons span rest ih =>
    cases span with
    | blank c hc =>
      exact relifts_blank hc inName (ih hw ha (fun h : false = true => nomatch h) _)
    | token t =>
      obtain ⟨ht, hrest⟩ := List.forall_mem_cons.mp hw
      have hafter : AreApart (tokens rest) := ha.tail
      have hrelifts (position : Nat) : Relifts false (pieces source position rest) :=
        ih hrest hafter (fun h : false = true => nomatch h) position
      rw [pieces]
      cases ht with
      | mark c hc =>
        rw [(source.pieces_mark _ hc).1]
        exact relifts_mark (Option.isSome_iff_exists.mpr ⟨_, hc⟩) inName
          (hrelifts _)
      | name c cs h hc hcs =>
        have hbehind := (Token.AreApart.followApart ha (by rw [h]; exact id)).2
        rw [(source.pieces_name _ h).1]
        exact relifts_nameChar (Text.isNameChar_of_isNameStart hc)
          (fun _ => Text.isDigit_of_isNameStart hc)
          (relifts_nameChars hcs (ih hrest hafter (fun _ => hbehind) _))
      | literal number l h hl =>
        have hbehind := (Token.AreApart.followApart ha (by rw [h]; exact id)).2
        -- a literal does not come right behind a name, where a number would go on with it
        have hname : inName = false := by
          rw [← Bool.not_eq_true]
          intro hname
          exact (h ▸ hfirst hname t rfl : (Lexeme.literal _).IsMark)
        rw [(source.pieces_literal _ h hl).1]
        exact ⟨⟨hr number l hl, hname, separates_head hrest hbehind _⟩,
          hrelifts _⟩

end Relift

section Scan

variable {source : Reading.Source} {y : Layout} {c : Char} {cs : List Char} {ps : List Piece}
  {scanned : List Token} {number position : Nat}

theorem map_cells_plains (number position : Nat) (cs : List Char) :
    (cells number (plains position cs)).map Prod.fst = cs := by
  induction cs generalizing position with
  | nil => rfl
  | cons c cs ih => exact congrArg (c :: ·) (ih (position + 1))

/-- A name is scanned as a whole if what follows it does not go on with it. -/
theorem scanFrom_plains (hc : Text.isNameStart c = true)
    (hcs : ∀ d ∈ cs, Text.isNameChar d = true)
    (hr : ∀ cell ∈ (cells number ps).head?, Text.isNameChar cell.1 = false)
    (h : scanFrom 0 (cells number ps) = .ok scanned) :
    ∃ length, scanFrom 0 (cells number (plains position (c :: cs) ++ ps)) =
      .ok (⟨.name (String.ofList (c :: cs)), position, length⟩ :: scanned) := by
  have hname := map_cells_plains number (position + 1) cs
  have hcells : cells number (plains position (c :: cs) ++ ps) =
      (c, (position : Int)) :: (cells number (plains (position + 1) cs) ++ cells number ps) := by
    rw [plains, List.cons_append, cells, cells_append, literalsOf_plains]
    rfl
  have hchars : ∀ cell ∈ cells number (plains (position + 1) cs), Text.isNameChar cell.1 = true := by
    intro cell hm
    apply hcs
    rw [← hname]
    exact List.mem_map_of_mem hm
  have hscan := Token.scanFrom_name (p := position) hc hchars hr h
  rw [hname] at hscan
  rw [hcells]
  exact ⟨_, hscan⟩

/-- The tokens of a layout are scanned again, if no names or literals stand next to each other and the
literals are numbered in their order. -/
theorem Layout.scanFrom_pieces {count : Nat} (hw : ∀ t ∈ tokens y, t.IsWhole source)
    (ha : AreApart (tokens y))
    (hn : (tokens y).filterMap Token.number? = List.range' number count)
    (hd : ∀ k < count, (Nat.toDigits 10 (number + k)).length ≤ Number.maxDigits)
    (position : Nat) :
    ∃ scanned, scanFrom 0 (cells number (pieces source position y)) = .ok scanned ∧
      Token.Alike (tokens y) scanned := by
  induction y generalizing number count position with
  | nil => exact ⟨[], rfl, rfl⟩
  | cons span rest ih =>
    cases span with
    | blank c hc =>
      obtain ⟨scanned, hscan, halike⟩ := ih hw ha hn hd (position + 1)
      refine ⟨scanned, ?_, halike⟩
      rw [pieces, cells, scanFrom, if_pos hc]
      exact hscan
    | token t =>
      obtain ⟨ht, hrest⟩ := List.forall_mem_cons.mp hw
      have hafter : AreApart (tokens rest) := ha.tail
      rw [tokens_token, List.filterMap_cons] at hn
      rw [pieces]
      cases ht with
      | mark c hc =>
        rw [number?_of_isMark (isMark_of_punctuation? hc)] at hn
        obtain ⟨scanned, hscan, halike⟩ := ih hrest hafter hn hd _
        rw [(source.pieces_mark _ hc).1]
        exact ⟨_, Token.scanFrom_mark hc hscan, congrArg (t.lexeme :: ·) halike⟩
      | name c cs h hc hcs =>
        have hbehind := (Token.AreApart.followApart ha (by rw [h]; exact id)).2
        have hnone : t.number? = none := by rw [Token.number?, h]
        rw [hnone] at hn
        obtain ⟨scanned, hscan, halike⟩ := ih hrest hafter hn hd _
        obtain ⟨length, hname⟩ := scanFrom_plains hc hcs
          (isNameChar_head_cells hrest hbehind _ number) hscan
        rw [(source.pieces_name _ h).1]
        exact ⟨_, hname, halike.cons h.symm⟩
      | literal k l h hl =>
        rw [Token.number?_eq_some.mpr h] at hn
        cases count with
        | zero => cases hn
        | succ count =>
          rw [List.range'_succ] at hn
          obtain ⟨rfl, hn⟩ := List.cons.inj hn
          have hd' : ∀ j < count, (Nat.toDigits 10 (k + 1 + j)).length ≤ Number.maxDigits := by
            intro j hj
            have hnext := hd (j + 1) (by omega)
            rwa [Nat.add_comm j 1, ← Nat.add_assoc] at hnext
          obtain ⟨scanned, hscan, halike⟩ := ih hrest hafter hn hd' _
          rw [(source.pieces_literal _ h hl).1]
          exact ⟨_, Token.scanFrom_marker ⟨l.payload, l.raw, position⟩ (hd 0 (Nat.succ_pos _)) hscan,
            halike.cons h.symm⟩

/-- A row of characters that pass a test stands at the beginning as a row of pieces. -/
theorem plains_charsWhile_append {test : Char → Bool} (ht : test markerChar = false)
    (number : Nat) {row : List Piece} (ha : Aligned position row) :
    plains position (charsWhile test (cells number row)) ++
      row.drop (charsWhile test (cells number row)).length = row := by
  induction row generalizing position with
  | nil => rfl
  | cons piece rest ih =>
    obtain ⟨hposition, ha⟩ := ha
    cases piece with
    | literal l =>
      rw [charsWhile, Token.cells_literal, List.takeWhile_cons_of_neg (by rw [ht]; decide)]
      rfl
    | plain c p =>
      obtain rfl : p = position := hposition
      have hmore := ih ha
      unfold charsWhile at hmore ⊢
      rw [cells, List.takeWhile_cons]
      split
      · exact congrArg (Piece.plain c p :: ·) hmore
      · rfl

/-- What has been scanned is a layout of its tokens, behind the characters that are skipped. -/
theorem Scans.exists_layout {row : List Piece} {skip : Nat} (h : Scans number skip row scanned)
    (ha : Aligned position row)
    (hl : ∀ i l, (literalsOf row)[i]? = some l → source.literal? (number + i) = some l) :
    ∃ y : Layout, y.tokens = scanned ∧ y.pieces source (position + skip) = row.drop skip ∧
      ∀ t ∈ scanned, t.IsWhole source := by
  induction h generalizing position with
  | nil => exact ⟨[], rfl, rfl, fun t hm => nomatch hm⟩
  | skip h ih =>
    obtain ⟨rfl, ha⟩ := ha
    obtain ⟨y, hy, hpieces, hwhole⟩ := ih ha hl
    refine ⟨y, hy, ?_, hwhole⟩
    rw [List.drop_succ_cons, ← hpieces, Nat.add_right_comm]
    rfl
  | @blank number c p rest tokens hb h ih =>
    obtain ⟨rfl, ha⟩ := ha
    obtain ⟨y, hy, hpieces, hwhole⟩ := ih ha hl
    exact ⟨.blank c hb :: y, hy, congrArg (Piece.plain c p :: ·) hpieces, hwhole⟩
  | @token number c p rest lexeme length more hc hlexeme h ih =>
    obtain ⟨hposition, ha⟩ := ha
    obtain rfl : p = position := hposition
    obtain ⟨y, hy, hpieces, hwhole⟩ := ih ha hl
    let t : Token := ⟨lexeme, p, length⟩
    rcases Token.lexemeAt_eq_ok hc hlexeme with ⟨hmark, rfl⟩ | ⟨hstart, hname, rfl⟩
    · obtain ⟨hp, hshown⟩ := source.pieces_mark (t := t) p hmark
      refine ⟨.token t :: y, congrArg (t :: ·) hy, ?_,
        List.forall_mem_cons.mpr ⟨.mark c hmark, hwhole⟩⟩
      rw [Nat.add_zero, Layout.pieces, hp, hshown]
      exact congrArg (Piece.plain c p :: ·) hpieces
    · obtain ⟨hp, hshown⟩ := source.pieces_name (t := t) p hname
      refine ⟨.token t :: y, congrArg (t :: ·) hy, ?_,
        List.forall_mem_cons.mpr ⟨.name c _ hname hstart (Token.forall_charsWhile _ _), hwhole⟩⟩
      have hmarker : Text.isNameChar markerChar = false := by decide
      have hrest := plains_charsWhile_append hmarker number ha
      rw [Nat.add_sub_cancel] at hpieces
      rw [Nat.add_zero, Layout.pieces, hp, hshown, List.length_cons, Nat.add_comm _ 1, ← Nat.add_assoc]
      exact congrArg (Piece.plain c p :: ·) ((congrArg _ hpieces).trans hrest)
  | @literal number l rest t more hlexeme _ _ h ih =>
    obtain ⟨hposition, ha⟩ := ha
    have hlater : ∀ i other, (literalsOf rest)[i]? = some other →
        source.literal? (number + 1 + i) = some other := by
      intro i other hother
      have hnext := hl (i + 1) other hother
      rwa [Nat.add_comm i 1, ← Nat.add_assoc] at hnext
    obtain ⟨y, hy, hpieces, hwhole⟩ := ih ha hlater
    have hnumber : source.literal? number = some l := hl 0 l rfl
    obtain ⟨hp, hshown⟩ := source.pieces_literal position hlexeme hnumber
    refine ⟨.token t :: y, congrArg (t :: ·) hy, ?_,
      List.forall_mem_cons.mpr ⟨.literal number l hlexeme hnumber, hwhole⟩⟩
    obtain rfl : l.position = position := hposition
    rw [Nat.add_zero, Layout.pieces, hp, hshown]
    exact congrArg (Piece.literal l :: ·) hpieces

end Scan

namespace Layout

variable {source : Reading.Source} {y : Layout}

/-- What the literals of a layout stand for depends on its tokens only. -/
theorem map_payload_literalsOf (hw : ∀ t ∈ tokens y, t.IsWhole source) (position : Nat) :
    (literalsOf (pieces source position y)).map Literal.payload = (tokens y).filterMap fun t =>
      t.number?.bind fun number => (source.literal? number).map Literal.payload := by
  induction y generalizing position with
  | nil => rfl
  | cons span rest ih =>
    cases span with
    | blank c hc => exact ih hw (position + 1)
    | token t =>
      obtain ⟨ht, hrest⟩ := List.forall_mem_cons.mp hw
      rw [pieces, literalsOf_append, List.map_append, ih hrest, tokens_token, List.filterMap_cons]
      rcases ht.pieces_cases position with ⟨cs, hnone, -, hp, -⟩ | ⟨number, l, hsome, hl, hp, -⟩
      · rw [hp, hnone, literalsOf_plains]
        rfl
      · rw [hp, hsome, Option.bind_some, hl]
        rfl

/-- The pieces of a layout are written as something, if its literals are. -/
theorem raw_ne_nil_of_mem_pieces (hw : ∀ t ∈ tokens y, t.IsWhole source)
    (hr : ∀ number l, source.literal? number = some l → l.raw ≠ []) (position : Nat) :
    ∀ piece ∈ pieces source position y, piece.raw ≠ [] := by
  induction y generalizing position with
  | nil => exact fun piece hm => nomatch hm
  | cons span rest ih =>
    cases span with
    | blank c hc => exact List.forall_mem_cons.mpr ⟨List.cons_ne_nil _ _, ih hw (position + 1)⟩
    | token t =>
      obtain ⟨ht, hrest⟩ := List.forall_mem_cons.mp hw
      refine List.forall_mem_append.mpr ⟨?_, ih hrest _⟩
      rcases ht.pieces_cases position with ⟨cs, -, -, hp, -⟩ | ⟨number, l, -, hl, hp, -⟩
      · rw [hp]
        exact raw_ne_nil_of_mem_plains
      · rw [hp]
        exact List.forall_mem_singleton.mpr (hr number l hl)

/-- Only the tokens are left when the blanks outside literals are taken away. -/
theorem written_filter_pieces (hw : ∀ t ∈ tokens y, t.IsWhole source) (position : Nat) :
    written ((pieces source position y).filter fun piece => !piece.isBlank) =
      text source ((tokens y).map .token) := by
  induction y generalizing position with
  | nil => rfl
  | cons span rest ih =>
    cases span with
    | blank c hc =>
      have hblank : (Piece.plain c position).isBlank = true := hc
      rw [pieces, List.filter_cons_of_neg (by rw [hblank]; decide)]
      exact ih hw (position + 1)
    | token t =>
      obtain ⟨ht, hrest⟩ := List.forall_mem_cons.mp hw
      have hall : (source.pieces position t).filter (fun piece => !piece.isBlank) =
          source.pieces position t :=
        List.filter_eq_self.mpr fun piece hm => by rw [ht.isBlank_eq_false position piece hm]; rfl
      rw [pieces, List.filter_append, written_append, hall, ht.written_pieces, ih hrest]
      rfl

theorem tokens_map_token (ts : List Token) : tokens (ts.map .token) = ts := by
  induction ts with
  | nil => rfl
  | cons t ts ih => exact congrArg (t :: ·) ih

theorem isBlank_pieces_map_token {ts : List Token} (hw : ∀ t ∈ ts, t.IsWhole source)
    (position : Nat) :
    ∀ piece ∈ pieces source position (ts.map .token), piece.isBlank = false := by
  induction ts generalizing position with
  | nil => exact fun piece hm => nomatch hm
  | cons t ts ih =>
    obtain ⟨ht, hts⟩ := List.forall_mem_cons.mp hw
    exact List.forall_mem_append.mpr ⟨ht.isBlank_eq_false position, ih hts _⟩

end Layout

/-- Where there are no blanks, the word `when` stands nowhere between blanks. -/
theorem not_whenAmong_of_isBlank {row : List Piece} (h : ∀ piece ∈ row, piece.isBlank = false)
    (i : Nat) : ¬ WhenAmong row i := by
  rintro ⟨before, b, c, after, hb, -, hrow, -⟩
  have hmem : some b ∈ row.map Piece.char? := by
    rw [hrow]
    exact List.mem_append_right _ (List.mem_append_left _ (List.mem_map_of_mem List.mem_cons_self))
  obtain ⟨piece, hm, hpiece⟩ := List.mem_map.mp hmem
  cases piece with
  | plain d p =>
    cases hpiece
    cases hb.symm.trans (h _ hm)
  | literal l => cases hpiece

end Destructure
