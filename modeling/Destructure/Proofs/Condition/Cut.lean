import Destructure.Condition.Token
import Destructure.Proofs.Number.Numeral
import Destructure.Proofs.Run

namespace Destructure.Condition

def IsQuote (c : Char) : Prop :=
  c = '\'' ∨ c = '"'

instance : DecidablePred IsQuote :=
  fun c => inferInstanceAs (Decidable (c = '\'' ∨ c = '"'))

namespace Token

def isSign (c : Char) : Bool :=
  c == '<' || c == '>' || c == '=' || c == '!' || c == '+' || c == '-' || c == '*' || c == '/'

inductive Cuts (position : Int) (c : Char) (rest : List Char) : Lexeme → Nat → Prop
  | openParen (hc : c = '(') : Cuts position c rest .openParen 1
  | closeParen (hc : c = ')') : Cuts position c rest .closeParen 1
  | quoted (hc : IsQuote c) {content : List Char} {length : Nat}
      (h : quoted c (position + 1) rest = .ok (content, length)) :
      Cuts position c rest (.constant (.text (String.ofList content))) (length + 1)
  | numeral {n : Numeral} {after : List Char} {lexeme : Lexeme}
      (hs : Numeral.split? (c :: rest) = some (n, after)) (h : ofNumeral n = .ok lexeme) :
      Cuts position c rest lexeme (rest.length + 1 - after.length)
  | word (hc : Text.isNameStart c = true) :
      Cuts position c rest (.ofWord (c :: rest.takeWhile Text.isNameChar))
        (c :: rest.takeWhile Text.isNameChar).length
  | operator {op : Operator} (h : Lexeme.operator? (c :: rest) = some op) :
      Cuts position c rest (.operator op) op.text.length

variable {position : Int} {c : Char} {rest : List Char} {lexeme : Lexeme} {length : Nat}

section First

theorem plain_of_isQuote (hc : IsQuote c) : Text.isBlank c = false ∧ c ≠ '(' ∧ c ≠ ')' := by
  rcases hc with rfl | rfl
  · decide
  · decide

theorem plain_of_split? {found : Numeral × List Char} (h : Numeral.split? (c :: rest) = some found) :
    Text.isBlank c = false ∧ c ≠ '(' ∧ c ≠ ')' ∧ ¬ IsQuote c := by
  have hfirst : c.isDigit = true ∨ c = '.' := by
    by_contra hneither
    obtain ⟨hd, hp⟩ := not_or.mp hneither
    cases h.symm.trans (Numeral.split?_eq_none (Bool.eq_false_iff.mpr hd) hp)
  rcases hfirst with hd | rfl
  · exact Text.forall_nameChar
      (Q := fun c => Text.isBlank c = false ∧ c ≠ '(' ∧ c ≠ ')' ∧ ¬ IsQuote c) (by decide)
      (Text.isNameChar_of_isDigit hd)
  · decide

theorem plain_of_isNameStart (rest : List Char) (hc : Text.isNameStart c = true) :
    c ≠ '(' ∧ c ≠ ')' ∧ ¬ IsQuote c ∧ Numeral.split? (c :: rest) = none := by
  obtain ⟨hopen, hclose, hquote, hd, hp⟩ := Text.forall_nameChar
    (Q := fun c => Text.isNameStart c = true →
      c ≠ '(' ∧ c ≠ ')' ∧ ¬ IsQuote c ∧ c.isDigit = false ∧ c ≠ '.') (by decide)
    (Text.isNameChar_of_isNameStart hc) hc
  exact ⟨hopen, hclose, hquote, Numeral.split?_eq_none hd hp⟩

theorem isSign_of_operator? {op : Operator} (h : Lexeme.operator? (c :: rest) = some op) :
    isSign c = true := by
  unfold Lexeme.operator? at h
  split at h
  all_goals cases h
  all_goals
    rename_i hcs
    cases hcs
    rfl

theorem plain_of_isSign (rest : List Char) (hc : isSign c = true) :
    Text.isBlank c = false ∧ c ≠ '(' ∧ c ≠ ')' ∧ ¬ IsQuote c ∧
      Numeral.split? (c :: rest) = none ∧ Text.isNameStart c = false := by
  have hsign : Text.isBlank c = false ∧ c ≠ '(' ∧ c ≠ ')' ∧ ¬ IsQuote c ∧
      (c.isDigit = false ∧ c ≠ '.') ∧ Text.isNameStart c = false := by
    simp only [isSign, Bool.or_eq_true, beq_iff_eq] at hc
    rcases hc with ((((((rfl | rfl) | rfl) | rfl) | rfl) | rfl) | rfl) | rfl
    all_goals decide
  obtain ⟨hb, hopen, hclose, hquote, ⟨hd, hp⟩, hname⟩ := hsign
  exact ⟨hb, hopen, hclose, hquote, Numeral.split?_eq_none hd hp, hname⟩

end First

/-- A numeral is a token of its own, whatever it stands for. -/
theorem lexemeAt_of_numeral {n : Numeral} {after : List Char}
    (hs : Numeral.split? (c :: rest) = some (n, after)) :
    lexemeAt position c rest = do return (← ofNumeral n, rest.length + 1 - after.length) := by
  obtain ⟨-, hopen, hclose, hquote⟩ := plain_of_split? hs
  unfold lexemeAt
  rw [if_neg hopen, if_neg hclose, if_neg fun h => hquote h.symm, hs]

theorem cuts_of_lexemeAt (h : lexemeAt position c rest = .ok (lexeme, length)) :
    Cuts position c rest lexeme length := by
  unfold lexemeAt at h
  split at h
  · rename_i hc
    cases h
    exact .openParen hc
  split at h
  · rename_i hc
    cases h
    exact .closeParen hc
  split at h
  · rename_i hc
    split at h
    · rename_i content n hquoted
      cases h
      exact .quoted hc.symm hquoted
    · cases h
    · cases h
  split at h
  · rename_i n after hs
    obtain ⟨found, hfound, h⟩ := Run.bind_eq_ok.mp h
    cases h
    exact .numeral hs hfound
  split at h
  · rename_i hc
    cases h
    exact .word hc
  split at h
  · rename_i op hop
    cases h
    exact .operator hop
  · cases h

/-- Which token begins with a character. -/
theorem lexemeAt_eq_ok :
    lexemeAt position c rest = .ok (lexeme, length) ↔ Cuts position c rest lexeme length := by
  refine ⟨cuts_of_lexemeAt, fun h => ?_⟩
  cases h with
  | openParen hc => exact if_pos hc
  | closeParen hc =>
    subst hc
    rfl
  | quoted hc h =>
    obtain ⟨-, hopen, hclose⟩ := plain_of_isQuote hc
    unfold lexemeAt
    rw [if_neg hopen, if_neg hclose, if_pos hc.symm, h]
  | numeral hs h =>
    rw [lexemeAt_of_numeral hs, h]
    rfl
  | word hc =>
    obtain ⟨hopen, hclose, hquote, hs⟩ := plain_of_isNameStart rest hc
    unfold lexemeAt
    rw [if_neg hopen, if_neg hclose, if_neg fun h => hquote h.symm, hs]
    exact if_pos hc
  | operator h =>
    obtain ⟨-, hopen, hclose, hquote, hs, hname⟩ := plain_of_isSign rest (isSign_of_operator? h)
    unfold lexemeAt
    rw [if_neg hopen, if_neg hclose, if_neg fun h => hquote h.symm, hs]
    dsimp only
    rw [hname, if_neg Bool.false_ne_true, h]

/-- No token begins with a quote before an unknown escape or without its closing quote, with a numeral
that is refused, or with a stray character. -/
theorem lexemeAt_eq_error {failure : Failure} (h : lexemeAt position c rest = .error failure) :
    (∃ letter place, IsQuote c ∧ quoted c (position + 1) rest = .error (some (letter, place)) ∧
      failure = .ofError (.unknownConditionEscape letter place)) ∨
    (IsQuote c ∧ failure =
      .ofError (.unterminatedConditionText (String.ofList ((c :: rest).take 10)) position)) ∨
    (∃ numeral after, Numeral.split? (c :: rest) = some (numeral, after) ∧
      ofNumeral numeral = .error failure) ∨
    failure = .ofError (.strayConditionCharacter c position) := by
  unfold lexemeAt at h
  split at h
  · cases h
  split at h
  · cases h
  split at h
  · rename_i hq
    split at h
    · cases h
    · rename_i letter place hquoted
      cases h
      exact Or.inl ⟨letter, place, hq.symm, hquoted, rfl⟩
    · cases h
      exact Or.inr (Or.inl ⟨hq.symm, rfl⟩)
  split at h
  · rename_i numeral after hsplit
    rcases Run.bind_eq_error.mp h with hnumeral | ⟨found, -, h⟩
    · exact Or.inr (Or.inr (Or.inl ⟨numeral, after, hsplit, hnumeral⟩))
    · cases h
  split at h
  · cases h
  split at h
  · cases h
  · cases h
    exact Or.inr (Or.inr (Or.inr rfl))

/-- A character that is not blank begins a token, or there are no tokens. -/
theorem scanFrom_token (hb : Text.isBlank c = false) :
    scanFrom 0 position (c :: rest) =
      lexemeAt position c rest >>= fun (lexeme, length) =>
        (scanFrom (length - 1) (position + 1) rest).map (⟨lexeme, position, length⟩ :: ·) := by
  rw [scanFrom, if_neg (by rw [hb]; exact Bool.false_ne_true)]
  rfl

inductive Scans : (skip : Nat) → (position : Int) → List Char → List Token → Prop
  | nil {skip : Nat} {position : Int} : Scans skip position [] []
  | skip {skip : Nat} {position : Int} {c : Char} {rest : List Char} {tokens : List Token}
      (h : Scans skip (position + 1) rest tokens) : Scans (skip + 1) position (c :: rest) tokens
  | blank {position : Int} {c : Char} {rest : List Char} {tokens : List Token}
      (hb : Text.isBlank c = true) (h : Scans 0 (position + 1) rest tokens) :
      Scans 0 position (c :: rest) tokens
  | token {position : Int} {c : Char} {rest : List Char} {lexeme : Lexeme} {length : Nat}
      {more : List Token} (hb : Text.isBlank c = false)
      (hl : lexemeAt position c rest = .ok (lexeme, length))
      (h : Scans (length - 1) (position + 1) rest more) :
      Scans 0 position (c :: rest) (⟨lexeme, position, length⟩ :: more)

/-- What has been scanned are the tokens of the text. -/
theorem scanFrom_eq_ok {skip : Nat} {cs : List Char} {tokens : List Token} :
    scanFrom skip position cs = .ok tokens ↔ Scans skip position cs tokens := by
  constructor
  · intro h
    induction cs generalizing skip position tokens with
    | nil => cases skip <;> cases h <;> exact .nil
    | cons c rest ih =>
      cases skip with
      | succ skip => exact .skip (ih h)
      | zero =>
        cases hb : Text.isBlank c with
        | true =>
          rw [scanFrom, if_pos hb] at h
          exact .blank hb (ih h)
        | false =>
          rw [scanFrom_token hb] at h
          obtain ⟨⟨lexeme, length⟩, hl, h⟩ := Run.bind_eq_ok.mp h
          obtain ⟨more, hmore, rfl⟩ := Run.map_eq_ok.mp h
          exact .token hb hl (ih hmore)
  · intro h
    induction h with
    | @nil skip _ => cases skip <;> rfl
    | skip h ih => exact ih
    | blank hb h ih => rwa [scanFrom, if_pos hb]
    | token hb hl h ih =>
      rw [scanFrom_token hb, hl]
      exact Run.map_eq_ok.mpr ⟨_, ih, rfl⟩

end Token

end Destructure.Condition
