import Destructure.Proofs.Condition.Cut
import Destructure.Proofs.Number.Render
import Destructure.Proofs.Template.When

/-!
The quoted texts of a condition. They are read twice: when literals are lifted out of the pattern
text, and when the condition is cut into tokens. Both find the same texts in the same places, since
both stop at the quotes outside quoted texts and nowhere else.
-/

namespace Destructure

namespace Condition

def IsInner (c : Char) : Prop :=
  ¬ IsQuote c ∧ c ≠ markerChar

theorem isInner_of_test {test : Char → Bool} {c : Char}
    (ht : test '\'' = false ∧ test '"' = false ∧ test markerChar = false) (hc : test c = true) :
    IsInner c := by
  refine ⟨?_, ?_⟩
  · rintro (rfl | rfl)
    · cases hc.symm.trans ht.1
    · cases hc.symm.trans ht.2.1
  · rintro rfl
    cases hc.symm.trans ht.2.2

inductive Quotes : (position : Nat) → List Char → List Literal → Prop
  | nil {position : Nat} : Quotes position [] []
  | plain {position : Nat} {c : Char} {rest : List Char} {literals : List Literal}
      (hc : ¬ IsQuote c) (hrest : Quotes (position + 1) rest literals) :
      Quotes position (c :: rest) literals
  | quoted {position : Nat} {quote : Char} {inner rest content : List Char}
      {literals : List Literal} (hq : IsQuote quote)
      (h : Token.quoted quote (position + 1 : Nat) (inner ++ rest) = .ok (content, inner.length))
      (hrest : Quotes (position + 1 + inner.length) rest literals) :
      Quotes position (quote :: (inner ++ rest))
        (⟨.text content, quote :: inner, position⟩ :: literals)

end Condition

namespace Lifting

open Condition (IsQuote Quotes)

variable {s t : Lifting} {cs : List Char} {c d quote : Char}

section Within

variable (position : Nat) (pieces : List Piece) (patternPieces : Option Nat) (opened : Opened)
  (value : List Char)

def within (quote : Char) : Lifting :=
  state position pieces patternPieces (.quoted opened quote value false)

theorem step_within_quote (hq : IsQuote quote) :
    step (within position pieces patternPieces opened value quote) quote =
      .ok (state (position + 1)
        (.literal ⟨.text value.reverse, opened.raw.reverse ++ [quote], opened.start⟩ :: pieces)
        patternPieces .outside) := by
  have hraw : (quote :: opened.raw).reverse = opened.raw.reverse ++ [quote] := List.reverse_cons
  rw [← hraw]
  rcases hq with rfl | rfl
  · rfl
  · rfl

theorem step_within_plain (hq : c ≠ quote) (hb : c ≠ '\\') :
    step (within position pieces patternPieces opened value quote) c =
      .ok (within (position + 1) pieces patternPieces (opened.push c) (c :: value) quote) := by
  change (inQuotes _ opened quote value false c).map _ = _
  rw [inQuotes, if_neg Bool.false_ne_true, if_neg hb, if_neg hq]
  rfl

/-- The character behind a backslash stands for another one, or is rejected. -/
theorem step_escaped (quote d : Char) :
    step (state position pieces patternPieces (.quoted opened quote value true)) d =
      match unescape? d with
      | some e => .ok (within (position + 1) pieces patternPieces (opened.push d) (e :: value) quote)
      | none => .error (.ofError (.unknownEscape d (position - 1))) := by
  change (inQuotes _ opened quote value true d).map _ = _
  rw [inQuotes, if_pos rfl]
  cases unescape? d <;> rfl

end Within

/-- A run that ends well inside quotes has read a quoted text, which the tokens of a condition read
alike. -/
theorem quoted_of_run {position : Nat} {pieces : List Piece} {patternPieces : Option Nat}
    {opened : Opened} {value : List Char} (hq : IsQuote quote) (place : Int)
    (h : (within position pieces patternPieces opened value quote).run cs = .ok t) :
    ∃ content inner rest, cs = inner ++ rest ∧
      Condition.Token.quoted quote place cs = .ok (content, inner.length) ∧
      run (state (position + inner.length) (.literal ⟨.text (value.reverse ++ content),
        opened.raw.reverse ++ inner, opened.start⟩ :: pieces) patternPieces .outside) rest =
          .ok t := by
  have hend {position : Nat} {opened : Opened} {value rest : List Char}
      (h : (within position pieces patternPieces opened value quote).run (quote :: rest) = .ok t) :
      ∃ content inner more, quote :: rest = inner ++ more ∧
        (.ok ([], 1) : Except (Option (Char × Int)) _) = .ok (content, inner.length) ∧
        run (state (position + inner.length) (.literal ⟨.text (value.reverse ++ content),
          opened.raw.reverse ++ inner, opened.start⟩ :: pieces) patternPieces .outside) more =
            .ok t := by
    rw [run_cons_of_ok (step_within_quote position pieces patternPieces opened value hq)] at h
    exact ⟨[], [quote], rest, rfl, rfl, by rwa [List.append_nil]⟩
  fun_induction Condition.Token.quoted quote place cs generalizing position opened value with
  | case1 => nomatch h
  | case2 => exact hend h
  | case3 place c hc =>
    by_cases hb : c = '\\'
    · subst hb
      nomatch h
    · rw [run_cons_of_ok (step_within_plain position pieces patternPieces opened value hc hb)] at h
      nomatch h
  | case4 => exact hend h
  | case5 place d rest hd hne =>
    rw [run_cons_of_ok (t := state (position + 1) pieces patternPieces _) rfl] at h
    obtain ⟨u, hu, -⟩ := Run.bind_eq_ok.mp h
    obtain ⟨v, hv, -⟩ := Run.foldlM_cons_eq_ok.mp hu
    rw [step_escaped, hd] at hv
    nomatch hv
  | case6 place d rest e he hne ih =>
    have hstep := step_escaped (position + 1) pieces patternPieces (opened.push '\\') value
      quote d
    rw [he] at hstep
    rw [run_cons_of_ok (t := state (position + 1) pieces patternPieces _) rfl,
      run_cons_of_ok hstep] at h
    obtain ⟨content, inner, more, rfl, hquoted, hrest⟩ := ih h
    refine ⟨e :: content, '\\' :: d :: inner, more, rfl, ?_, ?_⟩
    · rw [hquoted]
      rfl
    · have hposition : position + ('\\' :: d :: inner).length = position + 1 + 1 + inner.length := by
        rw [List.length_cons, List.length_cons]
        omega
      rw [hposition]
      simpa [Opened.push] using hrest
  | case7 place c d rest hc hb ih =>
    rw [run_cons_of_ok (step_within_plain position pieces patternPieces opened value hc hb)] at h
    obtain ⟨content, inner, more, hinner, hquoted, hrest⟩ := ih h
    refine ⟨c :: content, c :: inner, more, congrArg _ hinner, ?_, ?_⟩
    · rw [hquoted]
      rfl
    · have hposition : position + (c :: inner).length = position + 1 + inner.length := by
        rw [List.length_cons]
        omega
      rw [hposition]
      simpa [Opened.push] using hrest

theorem ne_markerChar_of_step (hm : s.mode = .outside) (h : s.step c = .ok t) :
    c ≠ markerChar := by
  obtain ⟨u, hu, -⟩ := step_eq_ok.mp h
  unfold advance at hu
  rw [hm] at hu
  exact (outside_eq_ok.mp hu).1

theorem step_opening (hm : s.mode = .outside) (hq : IsQuote quote) :
    s.step quote = .ok (within (s.position + 1) s.pieces s.patternPieces ⟨s.position, [quote]⟩ []
      quote) := by
  have hc : quote ≠ markerChar := by
    rcases hq with rfl | rfl <;> decide
  have hb : Text.isBlank quote = false := by
    rcases hq with rfl | rfl <;> decide
  have henter : s.enter quote = { s with mode := .quoted ⟨s.position, [quote]⟩ quote [] false } :=
    if_pos hq
  rw [step_enter hm hc (Or.inl hb), henter]
  exact congrArg Except.ok (eq_of_fields rfl rfl rfl rfl)

/-- Behind the beginning of a condition, lifting finds the quoted texts and no other literals. -/
theorem quotes_of_run (hm : s.mode = .outside) (hk : s.patternPieces.isSome = true)
    (h : s.run cs = .ok t) :
    ∃ literals, Quotes s.position cs literals ∧
      literalsOf t.pieces = literals.reverse ++ literalsOf s.pieces := by
  induction hn : cs.length using Nat.strong_induction_on generalizing s cs with
  | h n ih =>
    cases cs with
    | nil =>
      rw [run_nil hm] at h
      cases h
      exact ⟨[], .nil, rfl⟩
    | cons c cs =>
      rw [List.length_cons] at hn
      by_cases hq : IsQuote c
      · rw [run_cons_of_ok (step_opening hm hq)] at h
        obtain ⟨content, inner, rest, rfl, hquoted, hrest⟩ :=
          quoted_of_run hq ((s.position + 1 : Nat) : Int) h
        have hshorter : rest.length < n := by
          rw [List.length_append] at hn
          omega
        obtain ⟨literals, hquotes, hliterals⟩ := ih _ hshorter (by rfl) (by exact hk) hrest rfl
        refine ⟨⟨.text content, c :: inner, s.position⟩ :: literals, .quoted hq hquoted hquotes, ?_⟩
        have hlast : literalsOf t.pieces =
            literals.reverse ++ ⟨.text content, c :: inner, s.position⟩ :: literalsOf s.pieces :=
          hliterals
        rw [hlast, List.reverse_cons, List.append_assoc]
        rfl
      · have hc : c ≠ markerChar := by
          obtain ⟨u, hu, -⟩ := Run.bind_eq_ok.mp h
          obtain ⟨v, hv, -⟩ := Run.foldlM_cons_eq_ok.mp hu
          exact ne_markerChar_of_step hm hv
        rw [run_cons_of_ok (step_plain hm hk hc hq)] at h
        obtain ⟨literals, hquotes, hliterals⟩ :=
          ih cs.length (by omega) (by rfl) (by exact hk) h rfl
        exact ⟨literals, .plain hq hquotes, hliterals⟩

end Lifting

def Literal.extent (l : Literal) : Payload × Int × Nat :=
  (l.payload, l.position, l.raw.length)

def Literal.Covers (l : Literal) (place : Int) : Prop :=
  l.position ≤ place ∧ place < l.position + l.raw.length

namespace Condition

def Token.quotation? (token : Token) : Option (Payload × Int × Nat) :=
  match token.lexeme with
  | .constant (.text content) => some (.text content.toList, token.position, token.length)
  | _ => none

namespace Token

variable {position : Int} {c : Char} {rest : List Char}

/-- Skipped characters are not looked at. -/
theorem scanFrom_append (position : Int) (skipped rest : List Char) :
    scanFrom skipped.length position (skipped ++ rest) =
      scanFrom 0 (position + skipped.length) rest := by
  induction skipped generalizing position with
  | nil => simp
  | cons c skipped ih =>
    rw [List.length_cons, List.cons_append, scanFrom, ih]
    congr 1
    push_cast
    ring

theorem quotation?_ofWord (word : List Char) (place : Int) (length : Nat) :
    quotation? ⟨.ofWord word, place, length⟩ = none := by
  unfold Lexeme.ofWord
  split <;> rfl

theorem quotation?_ofNumeral {n : Numeral} {lexeme : Lexeme} (h : ofNumeral n = .ok lexeme)
    (place : Int) (length : Nat) : quotation? ⟨lexeme, place, length⟩ = none := by
  unfold ofNumeral at h
  repeat' split at h
  all_goals cases h
  all_goals rfl

/-- A numeral is refused only for an integer with too many digits. -/
theorem ofNumeral_eq_error {n : Numeral} {failure : Failure} (h : ofNumeral n = .error failure) :
    n.isWhole = true ∧ Number.maxDigits < n.whole.length ∧
      failure = .numeralTooLong n.whole.length := by
  unfold ofNumeral at h
  split at h
  · rename_i hwhole
    split at h
    · rename_i hlong
      cases h
      exact ⟨hwhole, hlong, rfl⟩
    · cases h
  · cases h

/-- An operator of two characters ends in an equals sign. -/
theorem isInner_of_operator? {op : Operator} (h : Lexeme.operator? (c :: rest) = some op) :
    ∀ d ∈ rest.take (op.text.length - 1), IsInner d := by
  unfold Lexeme.operator? at h
  split at h
  iterate 4
    rename_i hcs
    cases hcs
    cases h
    intro d hd
    obtain rfl : d = '=' := List.mem_singleton.mp hd
    exact ⟨by decide, by decide⟩
  all_goals
    cases h
    try exact fun d hd => nomatch hd

/-- A token that begins with no quote has none and is no quoted text. -/
theorem isInner_of_lexemeAt {lexeme : Lexeme} {length : Nat} (hc : ¬ IsQuote c)
    (h : lexemeAt position c rest = .ok (lexeme, length)) :
    (∀ place length, quotation? ⟨lexeme, place, length⟩ = none) ∧
      ∀ d ∈ rest.take (length - 1), IsInner d := by
  cases lexemeAt_eq_ok.mp h with
  | openParen => exact ⟨fun _ _ => rfl, fun d hd => nomatch hd⟩
  | closeParen => exact ⟨fun _ _ => rfl, fun d hd => nomatch hd⟩
  | quoted hq => exact absurd hq hc
  | @numeral n after lexeme hsplit hfound =>
    refine ⟨quotation?_ofNumeral hfound, fun d hd => ?_⟩
    obtain ⟨front, hfront, hchars⟩ := Numeral.split?_append hsplit
    cases front with
    | nil =>
      have hlength : rest.length + 1 - after.length = 0 := by
        rw [← List.length_cons (a := c), hfront]
        exact Nat.sub_self _
      rw [hlength] at hd
      nomatch hd
    | cons first front =>
      obtain ⟨rfl, rfl⟩ := List.cons.inj hfront
      have hlength : (front ++ after).length + 1 - after.length - 1 = front.length := by
        rw [List.length_append]
        omega
      have htake : (front ++ after).take ((front ++ after).length + 1 - after.length - 1) = front := by
        rw [hlength, List.take_left]
      have hd : d ∈ front := htake ▸ hd
      exact isInner_of_test (by decide) (hchars d (List.mem_cons_of_mem _ hd))
  | word hname =>
    refine ⟨quotation?_ofWord _, fun d hd => ?_⟩
    have htake : rest.take (rest.takeWhile Text.isNameChar).length = rest.takeWhile Text.isNameChar := by
      conv => lhs; arg 2; rw [← List.takeWhile_append_dropWhile (p := Text.isNameChar) (l := rest)]
      exact List.take_left
    rw [List.length_cons, Nat.add_sub_cancel, htake] at hd
    exact isInner_of_test (by decide) (List.mem_takeWhile_imp hd)
  | operator hop => exact ⟨fun _ _ => rfl, isInner_of_operator? hop⟩

end Token

def Tells (position : Int) (literals : List Literal) : Except Failure (List Token) → Prop
  | .ok tokens => tokens.filterMap Token.quotation? = literals.map Literal.extent
  | .error failure =>
    (∃ c place, failure = .ofError (.strayConditionCharacter c place) ∧ position ≤ place ∧
        ∀ l ∈ literals, ¬ l.Covers place) ∨
      ∃ digits, failure = .numeralTooLong digits

variable {position : Nat} {cs rest : List Char} {c : Char} {literals : List Literal}
  {scanned : Except Failure (List Token)}

theorem Tells.mono {first second : Int} (h : Tells second literals scanned) (hle : first ≤ second) :
    Tells first literals scanned := by
  cases scanned with
  | ok tokens => exact h
  | error failure =>
    obtain ⟨c, place, hfailure, hplace, hcovers⟩ | hnumeral := h
    · exact Or.inl ⟨c, place, hfailure, hle.trans hplace, hcovers⟩
    · exact Or.inr hnumeral

theorem Tells.plain {token : Token} (h : Tells position literals scanned)
    (htoken : token.quotation? = none) : Tells position literals (scanned.map (token :: ·)) := by
  cases scanned with
  | ok tokens =>
    change (token :: tokens).filterMap Token.quotation? = _
    rw [List.filterMap_cons_none htoken]
    exact h
  | error failure => exact h

/-- A quoted text comes before the others. -/
theorem Tells.quoted {token : Token} {l : Literal} {next : Int} (h : Tells next literals scanned)
    (htoken : token.quotation? = some l.extent) (hnext : next = l.position + l.raw.length) :
    Tells l.position (l :: literals) (scanned.map (token :: ·)) := by
  cases scanned with
  | ok tokens =>
    change (token :: tokens).filterMap Token.quotation? = _
    rw [List.filterMap_cons_some htoken, List.map_cons]
    exact congrArg _ h
  | error failure =>
    obtain ⟨c, place, hfailure, hplace, hcovers⟩ | hnumeral := h
    · refine Or.inl ⟨c, place, hfailure, by omega, List.forall_mem_cons.mpr ⟨?_, hcovers⟩⟩
      exact fun hl => by have := hl.2; omega
    · exact Or.inr hnumeral

theorem Quotes.le_position (h : Quotes position cs literals) : ∀ l ∈ literals, position ≤ l.position := by
  induction h with
  | nil => exact fun l hl => nomatch hl
  | plain hc hrest ih => exact fun l hl => Nat.le_of_succ_le (ih l hl)
  | quoted hq hquoted hrest ih =>
    refine List.forall_mem_cons.mpr ⟨Nat.le_refl _, fun l hl => ?_⟩
    have := ih l hl
    omega

/-- What a character tells with which no quoted text begins. -/
theorem tells_plain (hc : ¬ IsQuote c) (hrest : Quotes (position + 1) rest literals)
    (hlater : ∀ skip, (∀ d ∈ rest.take skip, ¬ IsQuote d) →
      Tells position literals (Token.scanFrom skip (position + 1) rest)) :
    Tells position literals (Token.scanFrom 0 position (c :: rest)) := by
  cases hb : Text.isBlank c with
  | true =>
    rw [Token.scanFrom, if_pos hb]
    exact hlater 0 (List.forall_mem_nil _)
  | false =>
    rw [Token.scanFrom_token hb]
    cases hl : Token.lexemeAt position c rest with
    | ok found =>
      obtain ⟨lexeme, length⟩ := found
      obtain ⟨hplain, hinner⟩ := Token.isInner_of_lexemeAt hc hl
      exact (hlater _ fun d hd => (hinner d hd).1).plain (hplain _ _)
    | error failure =>
      rcases Token.lexemeAt_eq_error hl with
        ⟨_, _, hq, -⟩ | ⟨hq, -⟩ | ⟨numeral, _, -, hnumeral⟩ | rfl
      · exact absurd hq hc
      · exact absurd hq hc
      · exact Or.inr ⟨_, (Token.ofNumeral_eq_error hnumeral).2.2⟩
      · refine Or.inl ⟨c, position, rfl, Int.le_refl _, fun l hl hcovers => ?_⟩
        have := hrest.le_position l hl
        have := hcovers.1
        omega

/-- What a quoted text tells, with the tokens behind it. -/
theorem tells_quoted {quote : Char} {inner content : List Char} (hq : IsQuote quote)
    (hquoted : Token.quoted quote (position + 1) (inner ++ rest) = .ok (content, inner.length))
    (hrest : Tells ((position : Int) + 1 + inner.length) literals
      (Token.scanFrom 0 (position + 1 + inner.length) rest)) :
    Tells position (⟨.text content, quote :: inner, position⟩ :: literals)
      (Token.scanFrom 0 position (quote :: (inner ++ rest))) := by
  have hl : Token.lexemeAt position quote (inner ++ rest) =
      .ok (.constant (.text (String.ofList content)), inner.length + 1) :=
    Token.lexemeAt_eq_ok.mpr (.quoted hq hquoted)
  rw [Token.scanFrom_token (Token.plain_of_isQuote hq).1, hl]
  change Tells _ _ ((Token.scanFrom (inner.length + 1 - 1) _ _).map _)
  rw [Nat.add_sub_cancel, Token.scanFrom_append]
  refine Tells.quoted (l := ⟨.text content, quote :: inner, position⟩) hrest ?_ ?_
  · change some (Payload.text (String.ofList content).toList, _, _) = _
    rw [String.toList_ofList]
    rfl
  · rw [List.length_cons]
    push_cast
    ring

/-- The tokens of a text tell its quoted texts, from any place on that is outside of them. -/
theorem Quotes.tells (h : Quotes position cs literals) (skip : Nat)
    (hskip : ∀ d ∈ cs.take skip, ¬ IsQuote d) :
    Tells position literals (Token.scanFrom skip position cs) := by
  induction h generalizing skip with
  | nil => cases skip <;> exact rfl
  | @plain position c rest literals hc hrest ih =>
    have hlater (skip : Nat) (hskip : ∀ d ∈ rest.take skip, ¬ IsQuote d) :
        Tells position literals (Token.scanFrom skip (position + 1) rest) :=
      (ih skip hskip).mono (by omega)
    cases skip with
    | zero => exact tells_plain hc hrest hlater
    | succ skip =>
      rw [List.take_succ_cons] at hskip
      exact hlater skip (List.forall_mem_cons.mp hskip).2
  | @quoted position quote inner rest content literals hq hquoted hrest ih =>
    cases skip with
    | zero => exact tells_quoted hq hquoted (ih 0 (List.forall_mem_nil _))
    | succ skip =>
      rw [List.take_succ_cons] at hskip
      exact absurd hq (List.forall_mem_cons.mp hskip).1

theorem filter_append_of_le {first second : List Literal} {n : Nat}
    (hfirst : ∀ l ∈ first, l.position < n) (hsecond : ∀ l ∈ second, n ≤ l.position) :
    (first ++ second).filter (fun l => decide (n ≤ l.position)) = second := by
  rw [List.filter_append, List.filter_eq_nil_iff.mpr, List.filter_eq_self.mpr, List.nil_append]
  · exact fun l hl => decide_eq_true (hsecond l hl)
  · intro l hl
    have := hfirst l hl
    rw [decide_eq_true_iff]
    omega

/-- The two readings of a condition agree on its quoted texts. The tokens that are quoted texts are
the literals behind the word that introduces the condition: they have the same content, place and
length, in the same order. If there are no tokens, that is for a numeral with too many digits, or
for a character that lies in no literal. -/
theorem scan_quotations {text : List Char} {t : Template} {position : Nat}
    (ht : Template.ofText text = .ok t) (hp : t.conditionPosition = some position) :
    match Token.scan (text.drop (position + whenLength)) (position + whenLength : Nat) with
    | .ok tokens =>
      tokens.filterMap Token.quotation? =
        (t.literals.filter fun l => decide (position + whenLength ≤ l.position)).map Literal.extent
    | .error failure =>
      (∃ c place, failure = .ofError (.strayConditionCharacter c place) ∧
          ∀ l ∈ t.literals, ¬ l.Covers place) ∨
        ∃ digits, failure = .numeralTooLong digits := by
  obtain ⟨count, hk, -⟩ := Option.map_eq_some_iff.mp hp
  obtain ⟨pre, blank, post, s, u, rfl, hs, hidle, hwhen, hblank, rfl, hrun, hpieces⟩ :=
    Template.exists_begin_of_ofText ht hk
  have haligned := Lifting.isAligned_foldlM Lifting.isAligned_start hs
  have hsuffix : s.pieces <:+ t.pieces.reverse := by
    rw [hpieces, List.reverse_reverse]
    exact Lifting.isSuffix_pieces_run hrun
  have hlength : pre.length = position + whenLength :=
    Template.length_of_conditionPosition haligned hidle.1 hwhen hsuffix hk hp
  -- behind the blank, lifting and scanning start from the same place
  rw [Lifting.run_cons_of_ok (Lifting.step_blank hidle hwhen hblank)] at hrun
  obtain ⟨literals, hquotes, hliterals⟩ := Lifting.quotes_of_run rfl rfl hrun
  have hposition : s.position = pre.length := haligned.position
  have hall : t.literals = (literalsOf s.pieces).reverse ++ literals := by
    rw [Template.literals, hpieces, literalsOf_reverse, hliterals,
      Lifting.pieces_state, literalsOf_plain, List.reverse_append, List.reverse_reverse]
  have hearlier (l : Literal) (hl : l ∈ (literalsOf s.pieces).reverse) :
      l.position < pre.length ∧ l.position + l.raw.length ≤ pre.length := by
    have hm : .literal l ∈ s.pieces := mem_literalsOf.mp (List.mem_reverse.mp hl)
    have hlt := (Lifting.keeps_foldlM_start hs).1 _ hm
    have hle := (haligned.aligned.le_of_mem (List.mem_reverse.mpr hm)).2
    rw [haligned.written_eq hidle.1, Nat.zero_add] at hle
    exact ⟨hposition ▸ hlt, hle⟩
  have hlater : ∀ l ∈ literals, pre.length ≤ l.position := by
    intro l hl
    have hle : s.position + 1 ≤ l.position := hquotes.le_position l hl
    omega
  have hscan : Token.scan ((pre ++ blank :: post).drop (position + whenLength))
      (position + whenLength : Nat) = Token.scanFrom 0 (s.position + 1 : Nat) post := by
    rw [← hlength, List.drop_left, Token.scan, Token.scanFrom, if_pos hblank, hposition]
    rfl
  have htells := hquotes.tells 0 (List.forall_mem_nil _)
  rw [hscan]
  change Tells (s.position + 1 : Nat) literals (Token.scanFrom 0 (s.position + 1 : Nat) post) at htells
  generalize Token.scanFrom 0 (s.position + 1 : Nat) post = scanned at htells ⊢
  cases scanned with
  | ok tokens =>
    dsimp only
    rw [hall, ← hlength, filter_append_of_le (fun l hl => (hearlier l hl).1) hlater]
    exact htells
  | error failure =>
    obtain ⟨c, place, hfailure, hplace, hcovers⟩ | hnumeral := htells
    · refine Or.inl ⟨c, place, hfailure, ?_⟩
      rw [hall]
      refine List.forall_mem_append.mpr ⟨fun l hl hcover => ?_, hcovers⟩
      have hend := (hearlier l hl).2
      have hbelow := hcover.2
      omega
    · exact Or.inr hnumeral

/-- A quote of the other kind inside a quoted text. -/
theorem scan_quotations_apostrophe :
    ∃ tokens, Token.scan ("x when x==\"'\"".toList.drop 6) 6 = .ok tokens ∧
      tokens.filterMap Token.quotation? = [(.text ['\''], 10, 3)] := by
  have ht : Template.ofText "x when x==\"'\"".toList = .ok
      ⟨[.plain 'x' 0, .plain ' ' 1, .plain 'w' 2, .plain 'h' 3, .plain 'e' 4, .plain 'n' 5,
        .plain ' ' 6, .plain 'x' 7, .plain '=' 8, .plain '=' 9,
        .literal ⟨.text ['\''], ['"', '\'', '"'], 10⟩], some 2⟩ := by
    rfl
  have hscan : Token.scan ("x when x==\"'\"".toList.drop 6) 6 =
      .ok [⟨.name "x", 7, 1⟩, ⟨.operator .eq, 8, 2⟩, ⟨.constant (.text "'"), 10, 3⟩] := by
    rfl
  exact ⟨_, hscan, scan_quotations ht rfl⟩

end Condition

end Destructure
