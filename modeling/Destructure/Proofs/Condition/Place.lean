import Destructure.Proofs.Condition.Quotes

namespace Destructure

namespace Condition.Token

variable {p : Int} {c quote : Char} {cs rest : List Char}

theorem quoted_of_ok {found : List Char × Nat} (q : Int) (h : quoted quote p cs = .ok found) :
    quoted quote q cs = .ok found := by
  fun_induction quoted quote p cs generalizing q found with
  | case1 => cases h
  | case2 =>
    unfold quoted
    rw [if_pos rfl]
    exact h
  | case3 => cases h
  | case4 =>
    unfold quoted
    rw [if_pos rfl]
    exact h
  | case5 => cases h
  | case6 place d rest e he hne ih =>
    obtain ⟨more, hmore, hfound⟩ := Run.map_eq_ok.mp h
    unfold quoted
    rw [if_neg hne, if_pos rfl, he]
    exact Run.map_eq_ok.mpr ⟨more, ih _ hmore, hfound⟩
  | case7 place c d rest hc hb ih =>
    obtain ⟨more, hmore, hfound⟩ := Run.map_eq_ok.mp h
    unfold quoted
    rw [if_neg hc, if_neg hb]
    exact Run.map_eq_ok.mpr ⟨more, ih _ hmore, hfound⟩

theorem lexemeAt_of_ok {found : Lexeme × Nat} (q : Int) (h : lexemeAt p c rest = .ok found) :
    lexemeAt q c rest = .ok found := by
  obtain ⟨lexeme, length⟩ := found
  rw [lexemeAt_eq_ok] at h ⊢
  cases h with
  | openParen hc => exact .openParen hc
  | closeParen hc => exact .closeParen hc
  | quoted hc h => exact .quoted hc (quoted_of_ok _ h)
  | numeral hs h => exact .numeral hs h
  | word hc => exact .word hc
  | operator h => exact .operator h

/-- A text that has tokens has the same ones at any other place. -/
theorem Scans.move {skip : Nat} {tokens : List Token} (h : Scans skip p cs tokens) (q : Int) :
    ∃ moved, Scans skip q cs moved ∧ moved.map Token.lexeme = tokens.map Token.lexeme := by
  induction h generalizing q with
  | nil => exact ⟨[], .nil, rfl⟩
  | skip h ih =>
    obtain ⟨moved, hmoved, hlexemes⟩ := ih (q + 1)
    exact ⟨moved, .skip hmoved, hlexemes⟩
  | blank hb h ih =>
    obtain ⟨moved, hmoved, hlexemes⟩ := ih (q + 1)
    exact ⟨moved, .blank hb hmoved, hlexemes⟩
  | token hb hl h ih =>
    obtain ⟨moved, hmoved, hlexemes⟩ := ih (q + 1)
    exact ⟨_, .token hb (lexemeAt_of_ok q hl) hmoved, congrArg (_ :: ·) hlexemes⟩

/-- No token begins with the character that encloses markers. -/
theorem ne_markerChar_of_lexemeAt {found : Lexeme × Nat} (h : lexemeAt p c rest = .ok found) :
    c ≠ markerChar := by
  rintro rfl
  cases h

/-- The token that begins with a quote is a quoted text. -/
theorem exists_quoted_of_lexemeAt {lexeme : Lexeme} {length : Nat} (hq : IsQuote c)
    (h : lexemeAt p c rest = .ok (lexeme, length)) :
    ∃ content n, quoted c (p + 1) rest = .ok (content, n) ∧ length = n + 1 := by
  obtain ⟨-, hopen, hclose⟩ := plain_of_isQuote hq
  cases lexemeAt_eq_ok.mp h with
  | openParen hc => exact absurd hc hopen
  | closeParen hc => exact absurd hc hclose
  | quoted hc hquoted => exact ⟨_, _, hquoted, rfl⟩
  | numeral hs hl => exact absurd hq (plain_of_split? hs).2.2.2
  | word hc => exact absurd hq (plain_of_isNameStart rest hc).2.2.1
  | operator hop => exact absurd hq (plain_of_isSign rest (isSign_of_operator? hop)).2.2.2.1

end Condition.Token

namespace Lifting

open Condition (IsQuote IsInner)
open Condition.Token (quoted scanFrom lexemeAt)

variable {s : Lifting} {cs : List Char} {quote : Char}

/-- What the tokens of a condition read as a quoted text, lifting reads to its end. -/
theorem exists_of_quoted (hq : IsQuote quote) (position : Nat) (pieces : List Piece)
    (patternPieces : Option Nat) (opened : Opened) (value : List Char) {content : List Char}
    {length : Nat} {place : Int} (h : quoted quote place cs = .ok (content, length)) :
    ∃ (t : Lifting) (inner rest : List Char), cs = inner ++ rest ∧ length = inner.length ∧
      t.mode = .outside ∧ t.patternPieces = patternPieces ∧
      (within position pieces patternPieces opened value quote).run cs = t.run rest := by
  fun_induction quoted quote place cs generalizing position opened value content length with
  | case1 => cases h
  | case2 =>
    cases h
    exact ⟨_, [quote], [], rfl, rfl, rfl, rfl,
      run_cons_of_ok (step_within_quote position pieces patternPieces opened value hq)⟩
  | case3 => cases h
  | case4 =>
    cases h
    exact ⟨_, [quote], _, rfl, rfl, rfl, rfl,
      run_cons_of_ok (step_within_quote position pieces patternPieces opened value hq)⟩
  | case5 => cases h
  | case6 place d rest e he hne ih =>
    obtain ⟨⟨content, length⟩, hmore, hfound⟩ := Run.map_eq_ok.mp h
    cases hfound
    have hstep := step_escaped (position + 1) pieces patternPieces (opened.push '\\') value quote d
    rw [he] at hstep
    obtain ⟨t, inner, behind, rfl, rfl, hm, hk, hrun⟩ :=
      ih (position + 1 + 1) ((opened.push '\\').push d) (e :: value) hmore
    refine ⟨t, '\\' :: d :: inner, behind, rfl, rfl, hm, hk, ?_⟩
    rw [run_cons_of_ok (t := state (position + 1) pieces patternPieces _) rfl, run_cons_of_ok hstep]
    exact hrun
  | case7 place c d rest hc hb ih =>
    obtain ⟨⟨content, length⟩, hmore, hfound⟩ := Run.map_eq_ok.mp h
    cases hfound
    obtain ⟨t, inner, behind, hinner, rfl, hm, hk, hrun⟩ :=
      ih (position + 1) (opened.push c) (c :: value) hmore
    refine ⟨t, c :: inner, behind, congrArg _ hinner, rfl, hm, hk, ?_⟩
    rw [run_cons_of_ok (step_within_plain position pieces patternPieces opened value hc hb)]
    exact hrun

/-- Behind the beginning of a condition, literals can be lifted out of whatever has tokens. -/
theorem exists_run_of_scans (hm : s.mode = .outside) (hk : s.patternPieces.isSome = true)
    {skip : Nat} {place : Int} {tokens : List Condition.Token}
    (hskip : ∀ d ∈ cs.take skip, IsInner d) (h : Condition.Token.Scans skip place cs tokens) :
    ∃ t, s.run cs = .ok t := by
  have hnone {cs : List Char} : ∀ d ∈ cs.take 0, IsInner d := fun d hd => by nomatch hd
  -- on the length, as a quoted text is lifted out as a whole
  induction hn : cs.length using Nat.strong_induction_on generalizing s cs skip place tokens with
  | h n ih =>
    cases cs with
    | nil => exact ⟨s, run_nil hm⟩
    | cons c cs =>
      rw [List.length_cons] at hn
      have hplain (hc : IsInner c) {skip : Nat} {place : Int} {tokens : List Condition.Token}
          (hskip : ∀ d ∈ cs.take skip, IsInner d) (h : Condition.Token.Scans skip place cs tokens) :
          ∃ t, s.run (c :: cs) = .ok t := by
        rw [run_cons_of_ok (step_plain hm hk hc.2 hc.1)]
        exact ih cs.length (by omega) (by rfl) (by exact hk) hskip h rfl
      cases h with
      | skip h =>
        rw [List.take_succ_cons] at hskip
        obtain ⟨hc, hskip⟩ := List.forall_mem_cons.mp hskip
        exact hplain hc hskip h
      | blank hb h => exact hplain (Condition.isInner_of_test (by decide) hb) hnone h
      | token hb hl h =>
        by_cases hq : IsQuote c
        · obtain ⟨content, length, hquoted, rfl⟩ := Condition.Token.exists_quoted_of_lexemeAt hq hl
          obtain ⟨t, inner, behind, rfl, rfl, htm, htk, hrun⟩ := exists_of_quoted hq
            (s.position + 1) s.pieces s.patternPieces ⟨s.position, [c]⟩ [] hquoted
          rw [run_cons_of_ok (step_opening hm hq), hrun]
          have hmore := Condition.Token.scanFrom_eq_ok.mpr h
          rw [Nat.add_sub_cancel, Condition.Token.scanFrom_append] at hmore
          have hshorter : behind.length < n := by
            rw [List.length_append] at hn
            omega
          exact ih _ hshorter htm (htk ▸ hk) hnone (Condition.Token.scanFrom_eq_ok.mp hmore) rfl
        · have hinner := (Condition.Token.isInner_of_lexemeAt hq hl).2
          exact hplain ⟨hq, Condition.Token.ne_markerChar_of_lexemeAt hl⟩ hinner h

end Lifting

end Destructure
