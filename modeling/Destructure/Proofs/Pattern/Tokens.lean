import Destructure.Pattern.Parse
import Destructure.Proofs.Template.Words

namespace Destructure

open Word (Meets SoftHeaded)

def Token.Denotes (source : Reading.Source) (t : Token) : Word → Prop
  | .mark c => Lexeme.punctuation? c = some t.lexeme
  | .name cs => t.lexeme = .name (String.ofList cs)
  | .literal payload => ∃ number l, t.lexeme = .literal number ∧
      source.literal? number = some l ∧ l.payload = payload
  | _ => False

def Token.Spell (source : Reading.Source) : List Token → List Word → Prop
  | tokens, [] => tokens = []
  | tokens, .blank :: ws => Spell source tokens ws
  | tokens, w :: ws => ∃ t rest, tokens = t :: rest ∧ t.Denotes source w ∧ Spell source rest ws

namespace Token

variable {source : Reading.Source}

theorem spell_cons {w : Word} {ws : List Word} {t : Token} {rest : List Token} (hw : w ≠ .blank)
    (ht : t.Denotes source w) (hr : Spell source rest ws) : Spell source (t :: rest) (w :: ws) := by
  cases w with
  | blank => exact absurd rfl hw
  | _ => exact ⟨t, rest, rfl, ht, hr⟩

/-- Characters that belong to a token are skipped. -/
theorem scanFrom_append (skipped cells : List (Char × Int)) :
    scanFrom skipped.length (skipped ++ cells) = scanFrom 0 cells := by
  induction skipped with
  | nil => rfl
  | cons cell rest ih => exact ih

theorem scanFrom_token {c : Char} {p : Int} {s cells : List (Char × Int)}
    {lexeme : Lexeme} {tokens : List Token} (hc : Text.isBlank c = false)
    (hl : lexemeAt c p (s ++ cells) = .ok (lexeme, s.length + 1))
    (hr : scanFrom 0 cells = .ok tokens) :
    scanFrom 0 ((c, p) :: (s ++ cells)) =
      .ok (⟨lexeme, p, s.length + 1⟩ :: tokens) := by
  unfold scanFrom
  rw [hc, if_neg Bool.false_ne_true, hl]
  change (scanFrom (s.length + 1 - 1) (s ++ cells) >>= _) = _
  rw [Nat.add_sub_cancel, scanFrom_append, hr]
  rfl

section Lexeme

variable {c : Char} {p : Int} {cells : List (Char × Int)}

theorem lexemeAt_mark {lexeme : Lexeme} (h : Lexeme.punctuation? c = some lexeme) :
    lexemeAt c p cells = .ok (lexeme, 1) := by
  have hsome : (Lexeme.punctuation? c).isSome = true := by rw [h]; rfl
  have hm := Lexeme.forall_punctuation (Q := fun c => c ≠ markerChar) (by decide) hsome
  unfold lexemeAt
  rw [if_neg hm, h]

/-- A name ends where no character of a name follows. -/
theorem lexemeAt_name {named : List (Char × Int)} (hc : Text.isNameStart c = true)
    (hn : ∀ cell ∈ named, Text.isNameChar cell.1 = true)
    (hr : ∀ cell ∈ cells.head?, Text.isNameChar cell.1 = false) :
    lexemeAt c p (named ++ cells) =
      .ok (.name (String.ofList (c :: named.map Prod.fst)), named.length + 1) := by
  have hname := Text.isNameChar_of_isNameStart hc
  have hm := Text.ne_markerChar_of_isNameChar hname
  have hp := Text.forall_nameChar (Q := fun c => Lexeme.punctuation? c = none) (by decide) hname
  have hw : charsWhile Text.isNameChar (named ++ cells) = named.map Prod.fst := by
    rw [charsWhile, Text.takeWhile_append_stop hn hr]
  unfold lexemeAt
  rw [if_neg hm, hp]
  dsimp only
  rw [if_pos hc, hw, List.length_cons, List.length_map]

def markerRest (number : Nat) (l : Literal) : List (Char × Int) :=
  (l.letter :: Nat.toDigits 10 number ++ [markerChar]).map fun c => (c, (l.position : Int))

theorem cells_literal (number : Nat) (l : Literal) (rest : List Piece) :
    Destructure.cells number (.literal l :: rest) =
      (markerChar, (l.position : Int)) :: (markerRest number l ++ Destructure.cells (number + 1) rest) :=
  rfl

theorem length_markerRest (number : Nat) (l : Literal) :
    (markerRest number l).length + 1 = (Nat.toDigits 10 number).length + 3 := by
  simp [markerRest]

theorem markerDigits?_markerRest (number : Nat) (l : Literal) :
    markerDigits? (markerRest number l ++ cells) = some (Nat.toDigits 10 number) := by
  have hletter : l.letter = 'S' ∨ l.letter = 'N' ∨ l.letter = 'R' := by
    unfold Literal.letter
    split
    · exact Or.inl rfl
    · exact Or.inr (Or.inl rfl)
    · exact Or.inr (Or.inr rfl)
  let digits := (Nat.toDigits 10 number).map fun c => (c, (l.position : Int))
  have hrest : markerRest number l ++ cells =
      (l.letter, (l.position : Int)) :: (digits ++ (markerChar, (l.position : Int)) :: cells) := by
    simp [markerRest, digits]
  have hall : ∀ cell ∈ digits, cell.1.isDigit = true := by
    intro cell hm
    obtain ⟨c, hc, rfl⟩ := List.mem_map.mp hm
    exact Nat.isDigit_of_mem_toDigits (by decide) (by decide) hc
  have hw : charsWhile Char.isDigit (digits ++ (markerChar, (l.position : Int)) :: cells) =
      Nat.toDigits 10 number := by
    rw [charsWhile, Text.takeWhile_append_stop hall fun cell hm => by cases hm; rfl, List.map_map]
    exact List.map_id _
  have hclosing : ((digits ++ (markerChar, (l.position : Int)) :: cells).drop
      (Nat.toDigits 10 number).length).head?.map Prod.fst = some markerChar := by
    rw [List.drop_left' (by rw [List.length_map])]
    rfl
  rw [hrest, markerDigits?, hw, if_pos ⟨hletter, Nat.toDigits_ne_nil, hclosing⟩]

/-- A marker refers to the literal with its number, unless that is too long. -/
theorem lexemeAt_marker (number : Nat) (l : Literal) :
    lexemeAt markerChar p (markerRest number l ++ cells) =
      if Number.maxDigits < (Nat.toDigits 10 number).length then
        .error (.numeralTooLong (Nat.toDigits 10 number).length)
      else .ok (.literal number, (markerRest number l).length + 1) := by
  unfold lexemeAt
  rw [if_pos rfl, markerDigits?_markerRest]
  dsimp only
  rw [Numeral.valueOfDigits_toDigits, length_markerRest]

end Lexeme

structure Numbers (source : Reading.Source) (number : Nat) (ls : List Literal) : Prop where
  short : ∀ k, k < number + ls.length → (Nat.toDigits 10 k).length ≤ Number.maxDigits
  found : ∀ i l, ls[i]? = some l → source.literal? (number + i) = some l

theorem Numbers.tail {number : Nat} {l : Literal} {ls : List Literal}
    (h : Numbers source number (l :: ls)) : Numbers source (number + 1) ls := by
  constructor
  · intro k hk
    apply h.short
    rw [List.length_cons]
    omega
  · intro i other hi
    rw [Nat.add_right_comm, Nat.add_assoc]
    exact h.found (i + 1) other hi

section Scan

variable {pieces : List Piece} {ws : List Word} {cells : List (Char × Int)} {tokens : List Token}

theorem scanFrom_mark {c : Char} {p : Int} {lexeme : Lexeme} (hc : Lexeme.punctuation? c = some lexeme)
    (ht : scanFrom 0 cells = .ok tokens) :
    scanFrom 0 ((c, p) :: cells) = .ok (⟨lexeme, p, 1⟩ :: tokens) := by
  have hb := Lexeme.forall_punctuation (Q := fun c => Text.isBlank c = false) (by decide)
    (Option.isSome_iff_exists.mpr ⟨_, hc⟩)
  exact scanFrom_token (s := []) hb (lexemeAt_mark hc) ht

/-- A marker is scanned as one token, unless its number is too long. -/
theorem scanFrom_marker {number : Nat} (l : Literal)
    (hd : (Nat.toDigits 10 number).length ≤ Number.maxDigits) (ht : scanFrom 0 cells = .ok tokens) :
    scanFrom 0 ((markerChar, (l.position : Int)) :: (markerRest number l ++ cells)) =
      .ok (⟨.literal number, l.position, (markerRest number l).length + 1⟩ :: tokens) := by
  have hlexeme : lexemeAt markerChar l.position (markerRest number l ++ cells) = _ :=
    lexemeAt_marker number l
  rw [if_neg (Nat.not_lt_of_le hd)] at hlexeme
  exact scanFrom_token (by decide) hlexeme ht

/-- A name is scanned as one token, if no character of a name follows. -/
theorem scanFrom_name {c : Char} {p : Int} {named : List (Char × Int)}
    (hc : Text.isNameStart c = true) (hn : ∀ cell ∈ named, Text.isNameChar cell.1 = true)
    (hr : ∀ cell ∈ cells.head?, Text.isNameChar cell.1 = false) (ht : scanFrom 0 cells = .ok tokens) :
    scanFrom 0 ((c, p) :: (named ++ cells)) =
      .ok (⟨.name (String.ofList (c :: named.map Prod.fst)), p, named.length + 1⟩ :: tokens) := by
  have hb := Text.isBlank_of_isNameChar (Text.isNameChar_of_isNameStart hc)
  exact scanFrom_token hb (lexemeAt_name hc hn hr) ht

theorem exists_plain {c : Char} {contents : List (Char ⊕ Payload)}
    (h : pieces.map Piece.content = .inl c :: contents) :
    ∃ position more, pieces = .plain c position :: more ∧ more.map Piece.content = contents := by
  obtain ⟨piece, more, rfl, hc, hm⟩ := List.map_eq_cons_iff.mp h
  cases piece with
  | plain d position =>
    cases hc
    exact ⟨position, more, rfl, hm⟩
  | literal l => cases hc

theorem exists_literal {payload : Payload} {contents : List (Char ⊕ Payload)}
    (h : pieces.map Piece.content = .inr payload :: contents) :
    ∃ l more, pieces = .literal l :: more ∧ l.payload = payload ∧
      more.map Piece.content = contents := by
  obtain ⟨piece, more, rfl, hc, hm⟩ := List.map_eq_cons_iff.mp h
  cases piece with
  | plain d position => cases hc
  | literal l =>
    cases hc
    exact ⟨l, more, rfl, rfl, hm⟩

/-- The cells of a row of characters, whatever follows it. -/
theorem cells_plain {cs : List Char} (h : pieces.map Piece.content = cs.map .inl) :
    ∃ named : List (Char × Int), named.map Prod.fst = cs ∧ ∀ number rest,
      Destructure.cells number (pieces ++ rest) = named ++ Destructure.cells number rest ∧
        literalsOf (pieces ++ rest) = literalsOf rest := by
  induction cs generalizing pieces with
  | nil =>
    obtain rfl := List.map_eq_nil_iff.mp h
    exact ⟨[], rfl, fun number rest => ⟨rfl, rfl⟩⟩
  | cons c cs ih =>
    obtain ⟨position, more, rfl, hm⟩ := exists_plain h
    obtain ⟨named, rfl, hcells⟩ := ih hm
    refine ⟨(c, (position : Int)) :: named, rfl, fun number rest => ?_⟩
    obtain ⟨hc, hl⟩ := hcells number rest
    exact ⟨congrArg ((c, (position : Int)) :: ·) hc, hl⟩

/-- What follows a name is no character of a name. -/
theorem head_cells_of_softHeaded (hp : ∀ w ∈ ws, w.IsPlain) (hs : SoftHeaded ws)
    (h : pieces.map Piece.content = ws.flatMap Word.contents) (number : Nat) :
    ∀ cell ∈ (Destructure.cells number pieces).head?, Text.isNameChar cell.1 = false := by
  intro cell hm
  cases ws with
  | nil =>
    obtain rfl := List.map_eq_nil_iff.mp h
    cases hm
  | cons w ws =>
    have hw := hp w (List.mem_cons_self ..)
    have hsoft := hs w rfl
    cases w with
    | mark c =>
      obtain ⟨position, more, rfl, -⟩ := exists_plain h
      cases hm
      exact Lexeme.forall_punctuation (Q := fun c => Text.isNameChar c = false) (by decide) hw
    | blank =>
      obtain ⟨position, more, rfl, -⟩ := exists_plain h
      cases hm
      rfl
    | _ => cases hsoft

/-- The words of a written pattern are scanned one by one from what has been lifted out of it. -/
theorem scanFrom_words (hp : ∀ w ∈ ws, w.IsPlain ∧ w ≠ .dash) (hc : ws.IsChain Meets)
    (h : pieces.map Piece.content = ws.flatMap Word.contents) {number : Nat}
    (hn : Numbers source number (literalsOf pieces)) :
    ∃ tokens, scanFrom 0 (Destructure.cells number pieces) = .ok tokens ∧
      Spell source tokens ws := by
  induction ws generalizing pieces number with
  | nil =>
    obtain rfl := List.map_eq_nil_iff.mp h
    exact ⟨[], rfl, rfl⟩
  | cons w ws ih =>
    obtain ⟨⟨hw, hdash⟩, hws⟩ := List.forall_mem_cons.mp hp
    obtain ⟨hmeets, hchain⟩ := List.isChain_cons.mp hc
    cases w with
    | dash => exact absurd rfl hdash
    | blank =>
      obtain ⟨position, more, rfl, hmore⟩ := exists_plain h
      exact ih hws hchain hmore hn
    | mark c =>
      obtain ⟨position, more, rfl, hmore⟩ := exists_plain h
      obtain ⟨tokens, ht, hs⟩ := ih hws hchain hmore hn
      obtain ⟨lexeme, hlexeme⟩ := Option.isSome_iff_exists.mp hw
      exact ⟨_, scanFrom_mark hlexeme ht, spell_cons (by simp) hlexeme hs⟩
    | name cs =>
      cases cs with
      | nil => cases hw
      | cons c cs =>
        obtain ⟨hstart, hall⟩ := Bool.and_eq_true_iff.mp hw
        have hsoft : SoftHeaded ws := by
          intro v hv
          obtain h | h | ⟨h, -⟩ := hmeets v hv
          · cases h
          · exact h
          · cases h
        obtain ⟨position, after, rfl, hafter⟩ := exists_plain h
        obtain ⟨named, more, rfl, hnamed, hmore⟩ := List.map_eq_append_iff.mp hafter
        obtain ⟨named, rfl, hcells⟩ := cells_plain hnamed
        obtain ⟨hcells, hliterals⟩ := hcells number more
        rw [literalsOf_plain, hliterals] at hn
        obtain ⟨tokens, ht, hs⟩ := ih hws hchain hmore hn
        have hscan := scanFrom_name (p := position) hstart
          (fun cell hm => List.all_eq_true.mp hall _ (List.mem_map_of_mem hm))
          (head_cells_of_softHeaded (fun w hm => (hws w hm).1) hsoft hmore number) ht
        rw [← hcells] at hscan
        exact ⟨_, hscan, spell_cons (by simp) rfl hs⟩
    | literal payload =>
      obtain ⟨l, more, rfl, rfl, hmore⟩ := exists_literal h
      obtain ⟨tokens, ht, hs⟩ := ih hws hchain hmore hn.tail
      have hdigits := hn.short number (by rw [literalsOf_literal, List.length_cons]; omega)
      exact ⟨_, scanFrom_marker l hdigits ht,
        spell_cons (by simp) ⟨number, l, rfl, hn.found 0 l rfl, rfl⟩ hs⟩

end Scan

end Token

end Destructure
