import Destructure.Proofs.Condition.Written
import Destructure.Proofs.Outcome
import Destructure.Proofs.Place

namespace Destructure

namespace Numeral

variable {n : Numeral} {cs after : List Char}

/-- A sign is read from the front of a text, and the rest is what comes behind it. -/
theorem splitSign_front (cs : List Char) :
    ∃ sign, cs = sign ++ (splitSign cs).2 ∧ ∀ digits, (∀ c ∈ digits.head?, c.isDigit = true) →
      splitSign (sign ++ digits) = ((splitSign cs).1, digits) := by
  rcases h : splitSign cs with ⟨negative, rest⟩
  unfold splitSign at h
  split at h
  · cases h
    exact ⟨['-'], rfl, fun digits _ => rfl⟩
  · cases h
    exact ⟨['+'], rfl, fun digits _ => rfl⟩
  · cases h
    refine ⟨[], rfl, fun digits hdigits => ?_⟩
    unfold splitSign
    rw [List.nil_append]
    split
    · cases hdigits '-' rfl
    · cases hdigits '+' rfl
    · rfl

theorem takeWhile_takeWhile_isDigit (cs : List Char) :
    (cs.takeWhile Char.isDigit).takeWhile Char.isDigit = cs.takeWhile Char.isDigit ∧
      (cs.takeWhile Char.isDigit).dropWhile Char.isDigit = [] := by
  have hdigits : ∀ c ∈ cs.takeWhile Char.isDigit, c.isDigit = true :=
    fun c hc => List.mem_takeWhile_imp hc
  exact ⟨List.takeWhile_eq_self_iff.mpr hdigits, List.dropWhile_eq_nil_iff.mpr hdigits⟩

/-- An exponent is read from the front of a text, and by itself it is read to its end. -/
theorem splitExponent_front (cs : List Char) :
    ∃ front, cs = front ++ (splitExponent cs).2 ∧
      splitExponent front = ((splitExponent cs).1, []) ∧ ∀ c ∈ front.head?, c.isDigit = false := by
  rcases splitExponent_cases cs with hnone | ⟨mark, rest, rfl, hmark, hne, hsome⟩
  · rw [hnone]
    exact ⟨[], rfl, rfl, fun c hc => nomatch hc⟩
  · obtain ⟨sign, hsign, hread⟩ := splitSign_front rest
    rw [hsome]
    dsimp only
    generalize (splitSign rest).2 = digits at hne hsign hread ⊢
    obtain ⟨htake, hdrop⟩ := takeWhile_takeWhile_isDigit digits
    have hdigits : splitSign (sign ++ digits.takeWhile Char.isDigit) =
        ((splitSign rest).1, digits.takeWhile Char.isDigit) := by
      apply hread
      intro c hc
      exact List.mem_takeWhile_imp (List.mem_of_mem_head? hc)
    refine ⟨mark :: (sign ++ digits.takeWhile Char.isDigit), ?_, ?_, ?_⟩
    · rw [List.cons_append, List.append_assoc, List.takeWhile_append_dropWhile, ← hsign]
    · rw [splitExponent, if_pos hmark, hdigits]
      dsimp only
      rw [htake, hdrop, if_neg hne]
    · rintro _ ⟨⟩
      rcases hmark with rfl | rfl <;> rfl

/-- A numeral is read from the front of a text, and by itself it is read to its end. -/
theorem split?_front (h : split? cs = some (n, after)) :
    ∃ front, cs = front ++ after ∧ split? front = some (n, []) := by
  have hwhole : ∀ c ∈ cs.takeWhile Char.isDigit, c.isDigit = true :=
    fun c hc => List.mem_takeWhile_imp hc
  obtain ⟨more, hmore, hne, rfl, rfl⟩ | ⟨hnone, hne, rfl, rfl⟩ := split?_cases h
  · obtain ⟨front, hfront, hexponent, hhead⟩ := splitExponent_front (more.dropWhile Char.isDigit)
    have hfraction : ∀ c ∈ more.takeWhile Char.isDigit, c.isDigit = true :=
      fun c hc => List.mem_takeWhile_imp hc
    refine ⟨cs.takeWhile Char.isDigit ++ '.' :: (more.takeWhile Char.isDigit ++ front), ?_, ?_⟩
    · rw [List.append_assoc, List.cons_append, List.append_assoc, ← hfront,
        List.takeWhile_append_dropWhile, ← hmore, List.takeWhile_append_dropWhile]
    · have hstop : ∀ c ∈ ('.' :: (more.takeWhile Char.isDigit ++ front)).head?,
          c.isDigit = false := by
        rintro _ ⟨⟩
        rfl
      rw [split?_of_point (Text.dropWhile_append_stop hwhole hstop)]
      dsimp only
      rw [Text.takeWhile_append_stop hwhole hstop, Text.takeWhile_append_stop hfraction hhead,
        Text.dropWhile_append_stop hfraction hhead, hexponent, if_neg hne]
  · obtain ⟨front, hfront, hexponent, hhead⟩ := splitExponent_front (cs.dropWhile Char.isDigit)
    refine ⟨cs.takeWhile Char.isDigit ++ front, ?_, ?_⟩
    · rw [List.append_assoc, ← hfront, List.takeWhile_append_dropWhile]
    · have hdrop := Text.dropWhile_append_stop hwhole hhead
      have hnone' : ∀ more, (cs.takeWhile Char.isDigit ++ front).dropWhile Char.isDigit ≠
          '.' :: more := by
        intro more hmore
        rw [hdrop] at hmore
        rw [hfront, hmore] at hnone
        exact hnone _ rfl
      rw [split?_of_no_point hnone', Text.takeWhile_append_stop hwhole hhead, hdrop, hexponent]
      exact if_neg hne

end Numeral

namespace Condition

def Lexeme.IsWrittenAs (own : List Char) : Lexeme → Prop
  | .openParen => own = ['(']
  | .closeParen => own = [')']
  | .constant (.number value) => ∃ n, Numeral.split? own = some (n, []) ∧
      Token.ofNumeral n = .ok (.constant (.number value))
  | .constant (.text value) => ∃ quote inner, IsQuote quote ∧ own = quote :: inner ∧
      Token.quoted quote 0 inner = .ok (value.toList, inner.length)
  | .constant (.boolean value) => own = if value then "true".toList else "false".toList
  | .name text => own = text.toList
  | .negation => own = "not".toList
  | .operator op => own = op.text.toList

namespace Token

variable {p : Int} {c quote : Char} {cs rest own : List Char} {lexeme : Lexeme} {length : Nat}

/-- A quoted text is read from the front of a text, and by itself it is read to its end. -/
theorem quoted_front (hq : IsQuote quote) {content : List Char}
    (h : quoted quote p cs = .ok (content, length)) :
    ∃ inner after, cs = inner ++ after ∧ inner.length = length ∧
      quoted quote 0 inner = .ok (content, inner.length) := by
  fun_induction quoted quote p cs generalizing content length with
  | case1 => cases h
  | case2 place =>
    cases h
    exact ⟨[quote], [], rfl, rfl, quoted_quote quote 0 []⟩
  | case3 => cases h
  | case4 place d rest =>
    cases h
    exact ⟨[quote], d :: rest, rfl, rfl, quoted_quote quote 0 []⟩
  | case5 => cases h
  | case6 place d rest e he hne ih =>
    obtain ⟨⟨content, length⟩, hmore, hfound⟩ := Run.map_eq_ok.mp h
    cases hfound
    obtain ⟨inner, after, rfl, rfl, hinner⟩ := ih hmore
    refine ⟨'\\' :: d :: inner, after, rfl, rfl, ?_⟩
    rw [quoted_escape hq he, quoted_of_ok _ hinner]
    rfl
  | case7 place c d rest hc hb ih =>
    obtain ⟨⟨content, length⟩, hmore, hfound⟩ := Run.map_eq_ok.mp h
    cases hfound
    obtain ⟨inner, after, hinner, rfl, hread⟩ := ih hmore
    have hne : inner ≠ [] := by
      rintro rfl
      cases hread
    refine ⟨c :: inner, after, congrArg (c :: ·) hinner, rfl, ?_⟩
    rw [quoted_plain hc hb 0 hne, quoted_of_ok _ hread]
    rfl

/-- The escape that is not known stands where it is reported. -/
theorem quoted_unknown {letter : Char} {place : Int}
    (h : quoted quote p cs = .error (some (letter, place))) :
    ∃ before after, cs = before ++ (['\\', letter] ++ after) ∧ place = p + before.length := by
  fun_induction quoted quote p cs with
  | case1 => cases h
  | case2 => cases h
  | case3 => cases h
  | case4 => cases h
  | case5 p d rest =>
    cases h
    exact ⟨[], rest, rfl, (Int.add_zero _).symm⟩
  | case6 p d rest e he hne ih =>
    obtain ⟨before, after, rfl, rfl⟩ := ih (Run.map_eq_error.mp h)
    refine ⟨'\\' :: d :: before, after, rfl, ?_⟩
    rw [List.length_cons, List.length_cons]
    omega
  | case7 p c d rest hc hb ih =>
    obtain ⟨before, after, hrest, rfl⟩ := ih (Run.map_eq_error.mp h)
    refine ⟨c :: before, after, congrArg (c :: ·) hrest, ?_⟩
    rw [List.length_cons]
    omega

theorem isWrittenAs_ofWord (word : List Char) : (Lexeme.ofWord word).IsWrittenAs word := by
  unfold Lexeme.ofWord
  split
  all_goals simp [Lexeme.IsWrittenAs, Operator.text]

theorem isPrefix_of_operator? {op : Operator} (h : Lexeme.operator? cs = some op) :
    op.text.toList <+: cs := by
  unfold Lexeme.operator? at h
  split at h
  all_goals cases h
  all_goals simp [Operator.text]

/-- What is read as a number is written as one. -/
theorem isWrittenAs_ofNumeral {n : Numeral} (hn : Numeral.split? own = some (n, []))
    (h : ofNumeral n = .ok lexeme) : lexeme.IsWrittenAs own := by
  obtain ⟨value, rfl⟩ : ∃ value, lexeme = .constant (.number value) := by
    unfold ofNumeral at h
    split at h
    · split at h
      · cases h
      · cases h
        exact ⟨_, rfl⟩
    · cases h
      exact ⟨_, rfl⟩
  exact ⟨n, hn, h⟩

/-- A token is written as the characters that it begins with, as many as its length says. -/
theorem lexemeAt_front (h : lexemeAt p c rest = .ok (lexeme, length)) :
    ∃ own after, c :: rest = own ++ after ∧ own ≠ [] ∧ own.length = length ∧
      lexeme.IsWrittenAs own := by
  cases lexemeAt_eq_ok.mp h with
  | openParen hc => exact ⟨[c], rest, rfl, List.cons_ne_nil _ _, rfl, congrArg (fun d => [d]) hc⟩
  | closeParen hc => exact ⟨[c], rest, rfl, List.cons_ne_nil _ _, rfl, congrArg (fun d => [d]) hc⟩
  | quoted hq hquoted =>
    obtain ⟨inner, after, rfl, rfl, hread⟩ := quoted_front hq hquoted
    refine ⟨c :: inner, after, rfl, List.cons_ne_nil _ _, rfl, c, inner, hq, rfl, ?_⟩
    rw [String.toList_ofList]
    exact hread
  | @numeral n after lexeme hsplit hfound =>
    obtain ⟨front, hfront, hread⟩ := Numeral.split?_front hsplit
    refine ⟨front, after, hfront, ?_, ?_, isWrittenAs_ofNumeral hread hfound⟩
    · rintro rfl
      cases hread
    · rw [← List.length_cons (a := c), hfront, List.length_append, Nat.add_sub_cancel]
  | word hc =>
    refine ⟨c :: rest.takeWhile Text.isNameChar, rest.dropWhile Text.isNameChar, ?_,
      List.cons_ne_nil _ _, rfl, isWrittenAs_ofWord _⟩
    rw [List.cons_append, List.takeWhile_append_dropWhile]
  | @operator op hop =>
    obtain ⟨after, hafter⟩ := isPrefix_of_operator? hop
    refine ⟨op.text.toList, after, hafter.symm, ?_, String.length_toList, rfl⟩
    cases op <;> simp [Operator.text]

/-- The tokens of a text are slices of it. -/
theorem Scans.exists_slice {skip : Nat} {tokens : List Token} (h : Scans skip p cs tokens)
    {token : Token} (hm : token ∈ tokens) :
    ∃ before own after, cs = before ++ (own ++ after) ∧ token.position = p + before.length ∧
      own ≠ [] ∧ own.length = token.length ∧ token.lexeme.IsWrittenAs own := by
  have hafter {p : Int} {c : Char} {rest : List Char}
      (h : ∃ before own after, rest = before ++ (own ++ after) ∧
        token.position = p + 1 + before.length ∧ own ≠ [] ∧ own.length = token.length ∧
          token.lexeme.IsWrittenAs own) :
      ∃ before own after, c :: rest = before ++ (own ++ after) ∧
        token.position = p + before.length ∧ own ≠ [] ∧ own.length = token.length ∧
          token.lexeme.IsWrittenAs own := by
    obtain ⟨before, own, after, rfl, hposition, hown⟩ := h
    refine ⟨c :: before, own, after, rfl, ?_, hown⟩
    rw [hposition, List.length_cons]
    omega
  induction h with
  | nil => nomatch hm
  | skip h ih | blank hb h ih => exact hafter (ih hm)
  | @token p c rest lexeme length more hb hl h ih =>
    rcases List.mem_cons.mp hm with rfl | hm
    · obtain ⟨own, after, hsplit, hne, hlength, hwritten⟩ := lexemeAt_front hl
      exact ⟨[], own, after, hsplit, (Int.add_zero p).symm, hne, hlength, hwritten⟩
    · exact hafter (ih hm)

def StandsIn (token : Token) (text : List Char) : Prop :=
  ∃ p : Nat, token.position = p ∧ 0 < token.length ∧ p + token.length ≤ text.length ∧
    token.lexeme.IsWrittenAs ((text.drop p).take token.length)

/-- The tokens of a condition stand in the text that the condition is the end of. -/
theorem standsIn_of_scan {start : Nat} {text : List Char} {tokens : List Token}
    (hstart : start ≤ text.length) (h : scan (text.drop start) start = .ok tokens) :
    ∀ token ∈ tokens, token.StandsIn text := by
  intro token hm
  obtain ⟨before, own, after, hsplit, hposition, hne, hlength, hwritten⟩ :=
    (scanFrom_eq_ok.mp h).exists_slice hm
  have hown := List.length_pos_iff.mpr hne
  have htext : text = text.take start ++ (before ++ (own ++ after)) := by
    rw [← hsplit, List.take_append_drop]
  have htake : (text.take start).length = start := by
    rw [List.length_take, Nat.min_eq_left hstart]
  refine ⟨start + before.length, ?_, by omega, ?_, ?_⟩
  · rw [hposition]
    omega
  · have hall := congrArg List.length htext
    rw [List.length_append, List.length_append, List.length_append, htake] at hall
    omega
  · have hdrop : text.drop (start + before.length) = own ++ after := by
      rw [← List.drop_drop, hsplit, List.drop_left]
    rw [hdrop, ← hlength, List.take_left]
    exact hwritten

theorem StandsIn.isPlace {token : Token} {text : List Char} (h : token.StandsIn text) :
    IsPlace text token.position := by
  obtain ⟨p, hp, hpos, hle, -⟩ := h
  exact ⟨p, hp, by omega⟩

/-- What cannot be read as a token stands at the position that is reported. -/
theorem pointsInto_of_lexemeAt {before : List Char} {failure : Failure}
    (h : lexemeAt before.length c rest = .error failure) :
    failure.PointsInto (before ++ c :: rest) := by
  rcases lexemeAt_eq_error h with
    ⟨letter, place, -, hquoted, rfl⟩ | ⟨-, rfl⟩ | ⟨numeral, after, -, hnumeral⟩ | rfl
  · obtain ⟨more, after, rfl, rfl⟩ := quoted_unknown hquoted
    refine Failure.pointsInto_of_standsAt rfl ?_
    have hstands := standsAt_append (List.cons_ne_nil '\\' [letter]) (before ++ c :: more) after
    rw [List.length_append, List.length_cons, List.append_assoc] at hstands
    push_cast at hstands
    rwa [← Int.add_assoc, Int.add_right_comm] at hstands
  · refine Failure.pointsInto_of_standsAt rfl ?_
    have hstands := standsAt_append (List.cons_ne_nil c rest) before []
    rw [List.append_nil] at hstands
    apply hstands.of_isPrefix
    rw [PatternError.named, String.toList_ofList]
    exact List.take_prefix 10 _
  · obtain ⟨-, -, rfl⟩ := ofNumeral_eq_error hnumeral
    exact Failure.pointsInto_of_ne fun error h => nomatch h
  · exact Failure.pointsInto_of_standsAt rfl (standsAt_append (List.cons_ne_nil c []) before rest)

/-- A text has no tokens because none begins with some character of it. -/
theorem exists_of_scanFrom_eq_error {skip : Nat} {failure : Failure}
    (h : scanFrom skip p cs = .error failure) :
    ∃ before c rest, cs = before ++ c :: rest ∧
      lexemeAt (p + (before.length : Int)) c rest = .error failure := by
  induction cs generalizing skip p with
  | nil => cases skip <;> cases h
  | cons c rest ih =>
    have hafter {skip : Nat} (h : scanFrom skip (p + 1) rest = .error failure) :
        ∃ before d more, c :: rest = before ++ d :: more ∧
          lexemeAt (p + (before.length : Int)) d more = .error failure := by
      obtain ⟨before, d, more, rfl, hl⟩ := ih h
      have hposition : p + ((c :: before).length : Int) = p + 1 + (before.length : Int) := by
        rw [List.length_cons]
        omega
      exact ⟨c :: before, d, more, rfl, hposition ▸ hl⟩
    cases skip with
    | succ skip => exact hafter h
    | zero =>
      cases hb : Text.isBlank c with
      | true =>
        rw [scanFrom, if_pos hb] at h
        exact hafter h
      | false =>
        rw [scanFrom_token hb] at h
        rcases Run.bind_eq_error.mp h with hl | ⟨⟨lexeme, length⟩, -, hmore⟩
        · exact ⟨[], c, rest, rfl, (Int.add_zero p).symm ▸ hl⟩
        · exact hafter (Run.map_eq_error.mp hmore)

/-- What cannot be read of a condition stands in the text that the condition is the end of. -/
theorem pointsInto_of_scan {start : Nat} {text : List Char} {failure : Failure}
    (hstart : start ≤ text.length) (h : scan (text.drop start) start = .error failure) :
    failure.PointsInto text := by
  obtain ⟨before, c, rest, hsplit, hl⟩ := exists_of_scanFrom_eq_error h
  have hposition : (start : Int) + before.length = ((text.take start ++ before).length : Nat) := by
    rw [List.length_append, List.length_take, Nat.min_eq_left hstart, Nat.cast_add]
  rw [hposition] at hl
  have hpoints := pointsInto_of_lexemeAt hl
  rwa [List.append_assoc, ← hsplit, List.take_append_drop] at hpoints

end Token

end Condition

end Destructure
