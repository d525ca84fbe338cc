import Destructure.Proofs.Condition.Place

namespace Destructure

namespace Text

variable {p : Char → Bool} {cs rest : List Char}

/-- A row of characters of one class goes no further than the text that it is in, if none of them
follows. -/
theorem takeWhile_append_boundary (hr : ∀ c ∈ rest.head?, p c = false) :
    (cs ++ rest).takeWhile p = cs.takeWhile p := by
  induction cs with
  | nil => exact takeWhile_append_stop (w := []) (fun c hc => nomatch hc) hr
  | cons c cs ih =>
    rw [List.cons_append, List.takeWhile_cons, List.takeWhile_cons, ih]

theorem dropWhile_append_boundary (hr : ∀ c ∈ rest.head?, p c = false) :
    (cs ++ rest).dropWhile p = cs.dropWhile p ++ rest := by
  induction cs with
  | nil => exact dropWhile_append_stop (w := []) (fun c hc => nomatch hc) hr
  | cons c cs ih =>
    rw [List.cons_append, List.dropWhile_cons, List.dropWhile_cons, ih]
    split
    · rfl
    · rfl

end Text

namespace Numeral

open Lifting (isNumberChar)

variable {n : Numeral} {c : Char} {cs rest : List Char}

theorem isDigit_of_boundary (hr : ∀ c ∈ rest.head?, isNumberChar c = false) :
    ∀ c ∈ rest.head?, c.isDigit = false := by
  intro c hc
  rw [← Bool.not_eq_true]
  intro hd
  cases (hr c hc).symm.trans (isNumberChar_of_isDigit hd)

theorem splitSign_append_boundary (h : cs ≠ []) :
    splitSign (cs ++ rest) = ((splitSign cs).1, (splitSign cs).2 ++ rest) := by
  match cs with
  | c :: cs =>
    rw [List.cons_append]
    unfold splitSign
    split
    · rename_i hc
      cases hc
      rfl
    · rename_i hc
      cases hc
      rfl
    · rename_i hminus hplus
      split
      · rename_i hc
        cases hc
        exact absurd rfl (hminus _)
      · rename_i hc
        cases hc
        exact absurd rfl (hplus _)
      · rfl

/-- An exponent is read up to the same place, whatever follows that is no part of a number. -/
theorem splitExponent_append_boundary {exponent : Option (Bool × List Char)}
    (hr : ∀ c ∈ rest.head?, isNumberChar c = false) (h : splitExponent cs = (exponent, [])) :
    splitExponent (cs ++ rest) = (exponent, rest) := by
  rcases splitExponent_cases cs with hnone | ⟨mark, after, rfl, hmark, hdigits, hsome⟩
  · cases hnone.symm.trans h
    rcases splitExponent_cases rest with hnone | ⟨mark, after, rfl, hmark, -⟩
    · exact hnone
    · have hnumber : isNumberChar mark = true := by
        rcases hmark with rfl | rfl <;> rfl
      cases (hr mark rfl).symm.trans hnumber
  · obtain ⟨rfl, hend⟩ := Prod.mk.inj (hsome.symm.trans h)
    have hne : after ≠ [] := by
      rintro rfl
      exact hdigits rfl
    rw [List.cons_append, splitExponent, if_pos hmark, splitSign_append_boundary hne]
    dsimp only
    rw [Text.takeWhile_append_boundary (isDigit_of_boundary hr),
      Text.dropWhile_append_boundary (isDigit_of_boundary hr), hend, if_neg hdigits]
    rfl

/-- A numeral is read up to the same place, whatever follows that is no part of a number. -/
theorem split?_append_boundary (hr : ∀ c ∈ rest.head?, isNumberChar c = false)
    (h : split? cs = some (n, [])) : split? (cs ++ rest) = some (n, rest) := by
  have hdigit := isDigit_of_boundary hr
  have hwhole : (cs ++ rest).takeWhile Char.isDigit = cs.takeWhile Char.isDigit :=
    Text.takeWhile_append_boundary hdigit
  have hbehind : (cs ++ rest).dropWhile Char.isDigit = cs.dropWhile Char.isDigit ++ rest :=
    Text.dropWhile_append_boundary hdigit
  obtain ⟨more, hmore, hdigits, rfl, hend⟩ | ⟨hnone, hdigits, rfl, hend⟩ := split?_cases h
  · rw [hmore, List.cons_append] at hbehind
    rw [split?_of_point hbehind, hwhole, Text.takeWhile_append_boundary hdigit,
      Text.dropWhile_append_boundary hdigit]
    dsimp only
    rw [splitExponent_append_boundary hr (Prod.ext rfl hend.symm), if_neg hdigits]
  · have hnone' : ∀ more, (cs ++ rest).dropWhile Char.isDigit ≠ '.' :: more := by
      intro more hmore
      rw [hbehind] at hmore
      cases hd : cs.dropWhile Char.isDigit with
      | nil =>
        rw [hd, List.nil_append] at hmore
        rw [hmore] at hr
        cases hr '.' rfl
      | cons c after =>
        rw [hd, List.cons_append] at hmore
        cases hmore
        exact hnone after hd
    rw [split?_of_no_point hnone', hwhole, hbehind]
    dsimp only
    rw [splitExponent_append_boundary hr (Prod.ext rfl hend.symm), if_neg hdigits]

end Numeral

namespace Condition.Token

variable {first second text rest : List Char} {lexemes later : List Lexeme} {lexeme : Lexeme}
  {c : Char} {p : Int}

def ReadsAs (text rest : List Char) (lexemes : List Lexeme) : Prop :=
  ∀ position : Int, ∃ tokens : List Token, tokens.map Token.lexeme = lexemes ∧
    scanFrom 0 position (text ++ rest) =
      (scanFrom 0 (position + text.length) rest).map (tokens ++ ·)

def IsRefused (text rest : List Char) : Prop :=
  ∀ position : Int, ∃ failure, scanFrom 0 position (text ++ rest) = .error failure

/-- Texts are read one after the other. -/
theorem ReadsAs.append (hf : ReadsAs first (second ++ rest) lexemes)
    (hs : ReadsAs second rest later) : ReadsAs (first ++ second) rest (lexemes ++ later) := by
  intro position
  obtain ⟨tokens, ht, hfirst⟩ := hf position
  obtain ⟨tokens', ht', hsecond⟩ := hs (position + first.length)
  refine ⟨tokens ++ tokens', by rw [List.map_append, ht, ht'], ?_⟩
  have hposition : position + (first ++ second).length =
      position + first.length + second.length := by
    rw [List.length_append]
    omega
  rw [List.append_assoc, hfirst, hsecond, hposition]
  generalize scanFrom 0 (position + first.length + second.length) rest = scanned
  cases scanned with
  | ok behind => exact congrArg Except.ok (List.append_assoc ..).symm
  | error failure => rfl

theorem IsRefused.append_left (h : IsRefused first (second ++ rest)) :
    IsRefused (first ++ second) rest := by
  intro position
  rw [List.append_assoc]
  exact h position

/-- What is rejected behind a text that can be read is rejected with it. -/
theorem ReadsAs.isRefused (hf : ReadsAs first (second ++ rest) lexemes)
    (hs : IsRefused second rest) : IsRefused (first ++ second) rest := by
  intro position
  obtain ⟨tokens, -, hfirst⟩ := hf position
  obtain ⟨failure, hsecond⟩ := hs (position + first.length)
  refine ⟨failure, ?_⟩
  rw [List.append_assoc, hfirst, hsecond]
  rfl

theorem ReadsAs.scan (h : ReadsAs text [] lexemes) (position : Int) :
    ∃ tokens, scan text position = .ok tokens ∧ tokens.map Token.lexeme = lexemes := by
  obtain ⟨tokens, ht, hscan⟩ := h position
  refine ⟨tokens, ?_, ht⟩
  rw [List.append_nil] at hscan
  rw [Token.scan, hscan]
  exact congrArg Except.ok (List.append_nil tokens)

theorem IsRefused.scan (h : IsRefused text []) (position : Int) :
    ∃ failure, scan text position = .error failure := by
  obtain ⟨failure, hscan⟩ := h position
  rw [List.append_nil] at hscan
  exact ⟨failure, hscan⟩

theorem readsAs_blanks (hb : ∀ c ∈ text, Text.isBlank c = true) : ReadsAs text rest [] := by
  intro position
  refine ⟨[], rfl, ?_⟩
  have hskip : scanFrom 0 position (text ++ rest) = scanFrom 0 (position + text.length) rest := by
    induction text generalizing position with
    | nil => exact congrArg (scanFrom 0 · rest) (Int.add_zero position).symm
    | cons c cs ih =>
      obtain ⟨hc, hcs⟩ := List.forall_mem_cons.mp hb
      have hposition : position + 1 + cs.length = position + (c :: cs).length := by
        rw [List.length_cons]
        omega
      rw [List.cons_append, scanFrom, if_pos hc, ih hcs, hposition]
  rw [hskip]
  cases scanFrom 0 (position + text.length) rest <;> rfl

theorem readsAs_blank (rest : List Char) : ReadsAs [' '] rest [] :=
  readsAs_blanks (List.forall_mem_singleton.mpr (by decide))

/-- A text that begins with no blank and goes on to the end of its first token is that token. -/
theorem readsAs_token (hb : Text.isBlank c = false)
    (h : lexemeAt p c (text ++ rest) = .ok (lexeme, text.length + 1)) :
    ReadsAs (c :: text) rest [lexeme] := by
  intro position
  refine ⟨[⟨lexeme, position, text.length + 1⟩], rfl, ?_⟩
  have hposition : position + 1 + text.length = position + (c :: text).length := by
    rw [List.length_cons]
    omega
  rw [List.cons_append, scanFrom_token hb, lexemeAt_of_ok position h, ← hposition]
  change (scanFrom (text.length + 1 - 1) _ _).map _ = _
  rw [Nat.add_sub_cancel, scanFrom_append]
  rfl

theorem isRefused_of_lexemeAt (hb : Text.isBlank c = false)
    (h : ∀ position, ∃ failure, lexemeAt position c (text ++ rest) = .error failure) :
    IsRefused (c :: text) rest := by
  intro position
  obtain ⟨failure, hl⟩ := h position
  refine ⟨failure, ?_⟩
  rw [List.cons_append, scanFrom_token hb, hl]
  rfl

theorem readsAs_openParen (rest : List Char) : ReadsAs ['('] rest [.openParen] :=
  readsAs_token (p := 0) (by decide) rfl

theorem readsAs_closeParen (rest : List Char) : ReadsAs [')'] rest [.closeParen] :=
  readsAs_token (p := 0) (by decide) rfl

/-- A numeral is one token, unless more of a number follows. -/
theorem readsAs_numeral {n : Numeral} (hs : Numeral.split? text = some (n, []))
    (hr : ∀ c ∈ rest.head?, Lifting.isNumberChar c = false) (hl : ofNumeral n = .ok lexeme) :
    ReadsAs text rest [lexeme] := by
  match text with
  | [] => nomatch hs
  | c :: cs =>
    have hsplit : Numeral.split? (c :: (cs ++ rest)) = some (n, rest) :=
      Numeral.split?_append_boundary hr hs
    have hlength : (cs ++ rest).length + 1 - rest.length = cs.length + 1 := by
      rw [List.length_append]
      omega
    refine readsAs_token (p := 0) (plain_of_split? hs).1 ?_
    rw [← hlength]
    exact lexemeAt_eq_ok.mpr (.numeral hsplit hl)

/-- A word is one token, unless more of it follows. -/
theorem readsAs_word (hc : Text.isNameStart c = true) (hw : ∀ d ∈ text, Text.isNameChar d = true)
    (hr : ∀ d ∈ rest.head?, Text.isNameChar d = false) :
    ReadsAs (c :: text) rest [Lexeme.ofWord (c :: text)] := by
  have hstop := Text.takeWhile_append_stop hw hr
  refine readsAs_token (p := 0) (Text.isBlank_of_isNameChar (Text.isNameChar_of_isNameStart hc)) ?_
  have hword : Cuts 0 c (text ++ rest) _ _ := .word hc
  rw [hstop] at hword
  exact lexemeAt_eq_ok.mpr hword

theorem readsAs_sign (c : Char) (text : List Char) {op : Operator}
    (hop : Lexeme.operator? (c :: (text ++ rest)) = some op) (hl : op.text.length = text.length + 1) :
    ReadsAs (c :: text) rest [.operator op] := by
  refine readsAs_token (p := 0) (plain_of_isSign rest (isSign_of_operator? hop)).1 ?_
  rw [← hl]
  exact lexemeAt_eq_ok.mpr (.operator hop)

/-- An operator is read as itself, unless something other than a blank follows. -/
theorem readsAs_operator_of_blank (op : Operator) (hr : ∀ d ∈ rest.head?, d = ' ') :
    ReadsAs op.text.toList rest [.operator op] := by
  have hname : ∀ d ∈ rest.head?, Text.isNameChar d = false := by
    intro d hd
    rw [hr d hd]
    decide
  have hsign {c : Char} {text : List Char} {op : Operator}
      (hl : op.text.length = text.length + 1)
      (halone : Lexeme.operator? (c :: (text ++ [])) = some op)
      (hblank : ∀ more, Lexeme.operator? (c :: (text ++ ' ' :: more)) = some op) :
      ReadsAs (c :: text) rest [.operator op] := by
    match rest with
    | [] => exact readsAs_sign c text halone hl
    | d :: more =>
      obtain rfl := hr d rfl
      exact readsAs_sign c text (hblank more) hl
  cases op with
  | or =>
    have hword : ∀ d ∈ ['r'], Text.isNameChar d = true := List.all_eq_true.mp rfl
    exact readsAs_word (by decide) hword hname
  | and =>
    have hword : ∀ d ∈ ['n', 'd'], Text.isNameChar d = true := List.all_eq_true.mp rfl
    exact readsAs_word (by decide) hword hname
  | lt | le | gt | ge | eq | ne | add | sub | mul | div => exact hsign rfl rfl fun _ => rfl

/-- An operator with a blank behind it is read as itself. -/
theorem readsAs_operator (op : Operator) (rest : List Char) :
    ReadsAs op.text.toList (' ' :: rest) [.operator op] :=
  readsAs_operator_of_blank op fun _ hd => (Option.some.inj hd).symm

/-- A minus sign is read as itself, whatever follows. -/
theorem readsAs_minus (rest : List Char) : ReadsAs ['-'] rest [.operator .sub] :=
  readsAs_sign '-' [] rfl rfl

theorem readsAs_not (rest : List Char) : ReadsAs ['n', 'o', 't'] (' ' :: rest) [.negation] := by
  have hblank : ∀ d ∈ (' ' :: rest).head?, Text.isNameChar d = false := by
    intro d hd
    cases hd
    decide
  have hword : ∀ d ∈ ['o', 't'], Text.isNameChar d = true := List.all_eq_true.mp rfl
  exact readsAs_word (by decide) hword hblank

section Quoted

variable {quote : Char} {inner content : List Char}

theorem ne_backslash_of_isQuote (hq : IsQuote quote) : ¬ quote = '\\' := by
  rcases hq with rfl | rfl
  · decide
  · decide

/-- A quoted text ends at its quote. -/
theorem quoted_quote (quote : Char) (p : Int) (rest : List Char) :
    quoted quote p (quote :: rest) = .ok ([], 1) := by
  match rest with
  | [] => exact if_pos rfl
  | d :: rest => exact if_pos rfl

/-- Inside quotes a character stands for itself, unless it is a quote or a backslash. -/
theorem quoted_plain {c : Char} (hq : c ≠ quote) (hb : c ≠ '\\') (p : Int) {more : List Char}
    (hm : more ≠ []) :
    quoted quote p (c :: more) =
      (quoted quote (p + 1) more).map fun (content, length) => (c :: content, length + 1) := by
  match more with
  | d :: more => rw [quoted, if_neg hq, if_neg hb]

/-- An escape inside quotes stands for one character. -/
theorem quoted_escape {c letter : Char} (hq : IsQuote quote)
    (h : Lifting.unescape? letter = some c) (p : Int) (more : List Char) :
    quoted quote p ('\\' :: letter :: more) =
      (quoted quote (p + 2) more).map fun (content, length) => (c :: content, length + 2) := by
  have hne : ¬ '\\' = quote := fun he => ne_backslash_of_isQuote hq he.symm
  rw [quoted, if_neg hne, if_pos rfl, h]

/-- A quoted text ends at its closing quote, whatever follows. -/
theorem quoted_append {found : List Char × Nat} (h : quoted quote p inner = .ok found)
    (rest : List Char) : quoted quote p (inner ++ rest) = .ok found := by
  fun_induction quoted quote p inner generalizing found with
  | case1 => cases h
  | case2 =>
    rw [List.cons_append, quoted_quote]
    exact h
  | case3 => cases h
  | case4 =>
    rw [List.cons_append, quoted_quote]
    exact h
  | case5 => cases h
  | case6 place d more e he hne ih =>
    obtain ⟨later, hlater, hfound⟩ := Run.map_eq_ok.mp h
    rw [List.cons_append, List.cons_append, quoted, if_neg hne, if_pos rfl, he]
    exact Run.map_eq_ok.mpr ⟨later, ih hlater, hfound⟩
  | case7 place c d more hc hb ih =>
    obtain ⟨later, hlater, hfound⟩ := Run.map_eq_ok.mp h
    rw [List.cons_append, List.cons_append, quoted, if_neg hc, if_neg hb]
    exact Run.map_eq_ok.mpr ⟨later, ih hlater, hfound⟩

/-- A quoted text is one token. -/
theorem readsAs_quoted (hq : IsQuote quote) (h : quoted quote p inner = .ok (content, inner.length))
    (rest : List Char) :
    ReadsAs (quote :: inner) rest [.constant (.text (String.ofList content))] := by
  have hread : quoted quote (p - 1 + 1) (inner ++ rest) = .ok (content, inner.length) := by
    rw [Int.sub_add_cancel]
    exact quoted_append h rest
  exact readsAs_token (p := p - 1) (plain_of_isQuote hq).1 (lexemeAt_eq_ok.mpr (.quoted hq hread))

/-- A text with an escape that is not known is no token. -/
theorem isRefused_quoted (hq : IsQuote quote)
    (h : ∀ position, ∃ found, quoted quote position (inner ++ rest) = .error (some found)) :
    IsRefused (quote :: inner) rest := by
  obtain ⟨hb, hopen, hclose⟩ := plain_of_isQuote hq
  refine isRefused_of_lexemeAt hb fun position => ?_
  obtain ⟨⟨d, place⟩, hread⟩ := h (position + 1)
  unfold lexemeAt
  rw [if_neg hopen, if_neg hclose, if_pos hq.symm, hread]
  exact ⟨_, rfl⟩

end Quoted

end Condition.Token

end Destructure
