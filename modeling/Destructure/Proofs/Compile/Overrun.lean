import Destructure.Proofs.Compile.Position
import Destructure.Proofs.Condition.Language
import Destructure.Proofs.Pattern.Tokens

/-!
Pattern texts that go beyond a bound. A text that does not compile is reported as an invalid pattern,
unless it cannot be encoded, a number in it has more digits than can be read, or one of its regular
expressions is refused for another reason than being malformed. Main statement: there are no other
reasons, and whatever the surrogate, the number or the regular expression, the report is then of another
kind.
-/

namespace Destructure

namespace Numeral

variable {n : Numeral} {cs : List Char}

theorem splitExponent_none (h : (splitExponent cs).1 = none) : (splitExponent cs).2 = cs := by
  rcases splitExponent_cases cs with hnone | ⟨mark, rest, -, -, -, hsome⟩
  · rw [hnone]
  · rw [hsome] at h
    cases h

/-- A numeral for an integer is a row of digits. -/
theorem eq_whole_of_isWhole (h : split? cs = some (n, [])) (hw : n.isWhole = true) :
    cs = n.whole ∧ ∀ c ∈ n.whole, c.isDigit = true := by
  obtain ⟨more, -, -, rfl, -⟩ | ⟨-, -, rfl, hrest⟩ := split?_cases h
  · cases hw
  · have hexponent : (splitExponent (cs.dropWhile Char.isDigit)).1 = none :=
      Option.isNone_iff_eq_none.mp hw
    have hdrop := (splitExponent_none hexponent).symm.trans hrest.symm
    refine ⟨?_, fun c hc => List.mem_takeWhile_imp hc⟩
    rw [← List.takeWhile_append_dropWhile (p := Char.isDigit) (l := cs), hdrop, List.append_nil]
    exact (List.takeWhile_eq_self_iff.mpr fun c hc => List.mem_takeWhile_imp hc).symm

end Numeral

def HasLongRow (text : List Char) (failure : Failure) : Prop :=
  ∃ digits, digits <:+: text ∧ (∀ c ∈ digits, c.isDigit = true) ∧
    Number.maxDigits < digits.length ∧ failure = .numeralTooLong digits.length

inductive Overruns (text : List Char) : Failure → Prop
  | digits {failure : Failure} (h : HasLongRow text failure) : Overruns text failure
  | literals {number : Nat} (hnumber : number ≤ text.length)
      (hlong : Number.maxDigits < (Nat.toDigits 10 number).length) :
      Overruns text (.numeralTooLong (Nat.toDigits 10 number).length)
  | regex {t : Template} {l : Literal} {source : List Char} {ignoreCase : Bool}
      {problem : Regex.Problem} {failure : Failure} (ht : Template.ofText text = .ok t)
      (hl : l ∈ t.literals) (hpayload : l.payload = .regex source ignoreCase)
      (hproblem : Regex.compile (String.ofList source) ignoreCase = .error problem)
      (hpassed : problem.passed = some failure) : Overruns text failure

theorem HasLongRow.of_isInfix {text part : List Char} {failure : Failure} (h : HasLongRow part failure)
    (hpart : part <:+: text) : HasLongRow text failure := by
  obtain ⟨digits, hinfix, hdigits⟩ := h
  exact ⟨digits, hinfix.trans hpart, hdigits⟩

namespace Lifting

variable {s : Lifting} {read : List Char} {c : Char} {opened : Opened} {failure : Failure}

/-- A number that cannot be read is malformed, or has too many digits. -/
theorem hasLongRow_of_readNumber (hs : s.IsAligned read) (hm : s.mode = .number opened)
    (h : readNumber opened = .error failure) :
    (∃ error, failure = .invalid error) ∨ HasLongRow read failure := by
  rcases readNumber_eq_error h with rfl | ⟨numeral, hsplit, hwhole, hlong, rfl⟩
  · exact Or.inl ⟨_, rfl⟩
  · obtain ⟨hdigits, hall⟩ := Numeral.eq_whole_of_isWhole hsplit hwhole
    obtain ⟨sign, hsign, -⟩ := Numeral.splitSign_front opened.raw.reverse
    refine Or.inr ⟨numeral.whole, ⟨written s.pieces.reverse ++ sign, [], ?_⟩, hall, hlong, rfl⟩
    calc
      written s.pieces.reverse ++ sign ++ numeral.whole ++ [] =
          written s.pieces.reverse ++ (sign ++ numeral.whole) := by
        rw [List.append_nil, List.append_assoc]
      _ = written s.pieces.reverse ++ opened.raw.reverse := by rw [← hdigits, ← hsign]
      _ = read := by rw [← hs.raw, hm, Mode.raw]

theorem hasLongRow_of_step (hs : s.IsAligned read) (h : s.step c = .error failure) :
    (∃ error, failure = .invalid error) ∨ HasLongRow read failure := by
  rcases step_eq_error h with ⟨-, rfl⟩ | ⟨_, _, _, -, rfl⟩ | ⟨opened, hm, hnumber⟩
  · exact Or.inl ⟨_, rfl⟩
  · exact Or.inl ⟨_, rfl⟩
  · exact hasLongRow_of_readNumber hs hm hnumber

theorem hasLongRow_of_finish (hs : s.IsAligned read) (h : s.finish = .error failure) :
    (∃ error, failure = .invalid error) ∨ HasLongRow read failure := by
  rcases finish_eq_error h with ⟨_, _, _, _, -, rfl⟩ | ⟨_, _, -, rfl⟩ | ⟨opened, hm, hnumber⟩
  · exact Or.inl ⟨_, rfl⟩
  · exact Or.inl ⟨_, rfl⟩
  · exact hasLongRow_of_readNumber hs hm hnumber

end Lifting

/-- The literals of a text cannot be lifted out because one of them is malformed, or a number with too
many digits. -/
theorem Template.ofText_eq_error {text : List Char} {failure : Failure}
    (h : ofText text = .error failure) :
    (∃ error, failure = .invalid error) ∨ HasLongRow text failure := by
  unfold ofText at h
  rcases Run.bind_eq_error.mp h with hrun | ⟨s, hs, h⟩
  · obtain ⟨before, c, after, s, rfl, hs, hstep⟩ := Run.exists_of_foldlM_eq_error hrun
    have haligned := Lifting.isAligned_foldlM Lifting.isAligned_start hs
    refine (Lifting.hasLongRow_of_step haligned hstep).imp_right fun hlong => ?_
    exact hlong.of_isInfix (List.prefix_append before (c :: after)).isInfix
  · rcases Run.bind_eq_error.mp h with hfinish | ⟨u, -, h⟩
    · have haligned := Lifting.isAligned_foldlM Lifting.isAligned_start hs
      exact Lifting.hasLongRow_of_finish haligned hfinish
    · cases h

namespace Template

variable {text : String} {t : Template} {tokens : List Token} {failure : Failure}

/-- There are no more literals than characters. -/
theorem length_literalsOf_le {pieces : List Piece} (h : ∀ l ∈ literalsOf pieces, l.raw ≠ []) :
    (literalsOf pieces).length ≤ (written pieces).length := by
  induction pieces with
  | nil => exact le_rfl
  | cons piece rest ih =>
    cases piece with
    | plain c position =>
      rw [literalsOf_plain] at h ⊢
      exact (ih h).trans (Nat.le_succ _)
    | literal l =>
      rw [literalsOf_literal] at h ⊢
      obtain ⟨hl, hrest⟩ := List.forall_mem_cons.mp h
      have hraw := List.length_pos_iff.mpr hl
      have hwritten : (written (.literal l :: rest)).length = l.raw.length + (written rest).length :=
        List.length_append
      have hlength := ih hrest
      rw [List.length_cons, hwritten]
      omega

/-- The tokens of a pattern cannot be told apart because of a character that begins none, or because
there are so many literals. -/
theorem scan_eq_error (h : ofText text.toList = .ok t)
    (hs : Token.scan t.patternCells = .error failure) :
    (∃ error, failure = .invalid error) ∨ Overruns text.toList failure := by
  rw [patternCells_eq_cells] at hs
  rcases stray_of_scanFrom (isSound_patternRow h) (Nat.zero_le _) hs with
    ⟨k, hk, hlong, rfl⟩ | ⟨c, position, -, rfl⟩
  · refine Or.inr (.literals ?_ hlong)
    have hrow : (literalsOf t.patternRow).length ≤ t.literals.length :=
      ((List.take_sublist _ t.pieces).filterMap _).length_le
    have hall : t.literals.length ≤ (written t.pieces).length :=
      length_literalsOf_le fun l hl => raw_ne_nil h hl
    rw [(aligned_ofText h).1] at hall
    omega
  · exact Or.inl ⟨_, rfl⟩

/-- Tokens are no pattern for their order, or because of a regular expression among them. -/
theorem ofTokens_eq_error (h : ofText text.toList = .ok t)
    (hs : Token.scan t.patternCells = .ok tokens)
    (hp : Pattern.ofTokens ⟨t.literal?, text⟩ tokens = .error failure) :
    (∃ error, failure = .invalid error) ∨ Overruns text.toList failure := by
  let source : Reading.Source := ⟨t.literal?, text⟩
  have hresolves : ∀ token ∈ tokens, token.Resolves source.literal? :=
    fun token hm => ((standsIn_of_scan h hs).1 token hm).resolves
  rcases Reading.run_eq_error hresolves hp with
    herror | ⟨token, -, source, ignoreCase, problem, ⟨number, l, -, hl, hpayload⟩, hproblem, hpassed⟩
  · exact Or.inl herror
  · exact Or.inr (.regex h (mem_of_literal?_eq_some hl) hpayload hproblem hpassed)

end Template

namespace Condition

variable {p : Int} {c : Char} {cs rest : List Char} {failure : Failure}

/-- What begins no token of a condition is malformed, or a number with too many digits. -/
theorem Token.hasLongRow_of_lexemeAt (h : lexemeAt p c rest = .error failure) :
    (∃ error, failure = .invalid error) ∨ HasLongRow (c :: rest) failure := by
  rcases lexemeAt_eq_error h with
    ⟨_, _, -, -, rfl⟩ | ⟨-, rfl⟩ | ⟨numeral, after, hsplit, hnumeral⟩ | rfl
  · exact Or.inl ⟨_, rfl⟩
  · exact Or.inl ⟨_, rfl⟩
  · obtain ⟨hwhole, hlong, rfl⟩ := ofNumeral_eq_error hnumeral
    obtain ⟨front, hfront, hread⟩ := Numeral.split?_front hsplit
    obtain ⟨hdigits, hall⟩ := Numeral.eq_whole_of_isWhole hread hwhole
    refine Or.inr ⟨numeral.whole, ⟨[], after, ?_⟩, hall, hlong, rfl⟩
    rw [List.nil_append, ← hdigits, hfront]
  · exact Or.inl ⟨_, rfl⟩

/-- A text is no condition because of what it says, or because of a number with too many digits. -/
theorem ofText_eq_error {names : List String} (h : Condition.ofText names cs p = .error failure) :
    (∃ error, failure = .invalid error) ∨ HasLongRow cs failure := by
  rcases Run.bind_eq_error.mp h with hscan | ⟨tokens, -, h⟩
  · obtain ⟨before, c, rest, rfl, hl⟩ := Token.exists_of_scanFrom_eq_error hscan
    refine (Token.hasLongRow_of_lexemeAt hl).imp_right fun hlong => ?_
    exact hlong.of_isInfix (List.suffix_append before (c :: rest)).isInfix
  · rcases Run.bind_eq_error.mp h with hparse | ⟨e, -, h⟩
    · exact Or.inl (parse_eq_error hparse)
    · cases h

end Condition

/-- A text that does not compile is no pattern, or goes beyond a bound. -/
theorem compile_eq_error {text : String} {failure : Failure} (h : compile text = .error failure) :
    (∃ error, failure = .invalid error) ∨ Overruns text.toList failure := by
  rcases Run.bind_eq_error.mp (compile_eq_error_iff.mp h) with htemplate | ⟨t, ht, hread⟩
  · exact (Template.ofText_eq_error htemplate).imp_right .digits
  rcases Run.bind_eq_error.mp hread with hscan | ⟨tokens, hs, hread⟩
  · exact Template.scan_eq_error ht hscan
  rcases Run.bind_eq_error.mp hread with hpattern | ⟨tree, -, hread⟩
  · exact Template.ofTokens_eq_error ht hs hpattern
  split at hread
  · cases hread
  · rcases Run.bind_eq_error.mp hread with hcondition | ⟨condition, -, hread⟩
    · refine (Condition.ofText_eq_error hcondition).imp_right fun hlong => .digits ?_
      exact hlong.of_isInfix (List.drop_suffix _ _).isInfix
    · cases hread

section Escapes

variable {digits : List Char}

/-- A row of digits is a numeral for an integer. -/
theorem Numeral.split?_digits (hdigits : ∀ c ∈ digits, c.isDigit = true) (hne : digits ≠ []) :
    split? digits = some (⟨digits, false, [], none⟩, []) := by
  have hexponent : splitExponent [] = (none, []) := rfl
  have hnone : ∀ c ∈ ([] : List Char).head?, c.isDigit = false ∧ c ≠ '.' := by
    intro c hc
    cases hc
  have hsplit := split?_whole hdigits hne hnone hexponent
  rwa [List.append_nil] at hsplit

theorem ne_nil_of_isLong (hlong : Number.maxDigits < digits.length) : digits ≠ [] := by
  rintro rfl
  cases hlong

/-- A number with too many digits cannot be lifted out, with or without a sign. -/
theorem Template.ofText_digits (hdigits : ∀ c ∈ digits, c.isDigit = true)
    (hlong : Number.maxDigits < digits.length) (negative : Bool) :
    ofText (signed negative digits) = .error (.numeralTooLong digits.length) := by
  have hne := ne_nil_of_isLong hlong
  obtain ⟨c, cs, rfl⟩ := List.exists_cons_of_ne_nil hne
  obtain ⟨hc, hcs⟩ := List.forall_mem_cons.mp hdigits
  have hchars : ∀ d ∈ cs, Lifting.isNumberChar d = true := by
    intro d hd
    rw [Lifting.isNumberChar, hcs d hd]
    rfl
  obtain ⟨position, hfold⟩ :=
    Lifting.foldlM_step_numeral (s := .start) ⟨rfl, rfl⟩ rfl negative hc hchars
  have hread : Lifting.readNumber ⟨0, (signed negative (c :: cs)).reverse⟩ =
      .error (.numeralTooLong (c :: cs).length) := by
    rw [Number.readNumber_signed (Numeral.split?_digits hdigits hne) hne]
    exact if_pos hlong
  have hfinish : Lifting.finish (.state position [] none
      (.number ⟨0, (signed negative (c :: cs)).reverse⟩)) =
      .error (.numeralTooLong (c :: cs).length) :=
    Run.bind_eq_error.mpr (Or.inl hread)
  exact Run.bind_eq_error.mpr (Or.inr ⟨_, hfold, Run.bind_eq_error.mpr (Or.inl hfinish)⟩)

theorem compile_digits (hdigits : ∀ c ∈ digits, c.isDigit = true)
    (hlong : Number.maxDigits < digits.length) (negative : Bool) :
    compile (String.ofList (signed negative digits)) = .error (.numeralTooLong digits.length) := by
  have htemplate : Template.ofText (String.ofList (signed negative digits)).toList =
      .error (.numeralTooLong digits.length) := by
    rw [String.toList_ofList]
    exact Template.ofText_digits hdigits hlong negative
  exact compile_eq_error_iff.mpr (Run.bind_eq_error.mpr (Or.inl htemplate))

/-- A regular expression that is refused, although it is not malformed, passes on why. -/
theorem compile_regex {source : List Char} (hsource : fitsSlashes false source = true)
    {ignoreCase : Bool} {problem : Regex.Problem} {failure : Failure}
    (hproblem : Regex.compile (String.ofList source) ignoreCase = .error problem)
    (hpassed : problem.passed = some failure) :
    compile (String.ofList (Payload.regex source ignoreCase).written) = .error failure := by
  have hnone : ∀ c ∈ ([] : List Char).head?, Lifting.IsSeparator c := by
    intro c hc
    cases hc
  obtain ⟨u, ⟨hidle, hcontents⟩, hrun⟩ :=
    Lifting.run_regex (s := .start) ⟨rfl, rfl⟩ hsource ignoreCase hnone
  rw [List.append_nil, Lifting.run_nil hidle.1] at hrun
  obtain ⟨l, more, hpieces, hpayload, hmore⟩ := Token.exists_literal hcontents
  obtain rfl := List.map_eq_nil_iff.mp hmore
  let t : Template := ⟨[.literal l], none⟩
  let token : Token := ⟨.literal 1, l.position, (Token.markerRest 1 l).length + 1⟩
  let text := String.ofList (Payload.regex source ignoreCase).written
  have htemplate : Template.ofText text.toList = .ok t := by
    obtain ⟨s, hs, hfinish⟩ := Run.bind_eq_ok.mp hrun
    have ht : ⟨u.pieces.reverse, u.patternPieces⟩ = t := by
      rw [hpieces, hidle.2]
      rfl
    rw [String.toList_ofList]
    exact Template.ofText_eq_ok.mpr ⟨s, u, hs, hfinish, ht⟩
  have hscan : Token.scan t.patternCells = .ok [token] := Token.scanFrom_marker l (by decide) rfl
  have hstep : Reading.step ⟨t.literal?, text⟩ .start token = .error failure := by
    change (Reading.Source.literal ⟨t.literal?, text⟩ 1 >>= _) = _
    refine Run.bind_eq_error.mpr (Or.inr ⟨l, rfl, ?_⟩)
    rw [hpayload]
    exact Run.bind_eq_error.mpr (Or.inl (Reading.compileRegex_of_passed hproblem hpassed))
  have htokens : Pattern.ofTokens ⟨t.literal?, text⟩ [token] = .error failure := by
    refine Run.bind_eq_error.mpr (Or.inl ?_)
    rw [List.foldlM_cons]
    exact Run.bind_eq_error.mpr (Or.inl hstep)
  apply compile_eq_error_iff.mpr
  refine Run.bind_eq_error.mpr (Or.inr ⟨t, htemplate, ?_⟩)
  refine Run.bind_eq_error.mpr (Or.inr ⟨[token], hscan, ?_⟩)
  exact Run.bind_eq_error.mpr (Or.inl htokens)

/-- Digits in a condition are kept as they are. -/
theorem Lifting.exists_foldlM_digits {s : Lifting} (hm : s.mode = .outside)
    (hk : s.patternPieces.isSome = true) (hdigits : ∀ c ∈ digits, c.isDigit = true) :
    ∃ t more, digits.foldlM step s = .ok t ∧ t.mode = .outside ∧ t.patternPieces = s.patternPieces ∧
      t.pieces = more ++ s.pieces := by
  induction digits generalizing s with
  | nil => exact ⟨s, [], rfl, hm, rfl, rfl⟩
  | cons c cs ih =>
    obtain ⟨hc, hcs⟩ := List.forall_mem_cons.mp hdigits
    have hname := Text.isNameChar_of_isDigit hc
    have hquote : ¬ (c = '\'' ∨ c = '"') :=
      Text.forall_nameChar (Q := fun c => ¬ (c = '\'' ∨ c = '"')) (by decide) hname
    obtain ⟨t, more, ht, hmode, hpieces, hmore⟩ :=
      ih (s := .state (s.position + 1) (.plain c s.position :: s.pieces) s.patternPieces .outside)
        rfl hk hcs
    have hstep := step_plain hm hk (Text.ne_markerChar_of_isNameChar hname) hquote
    refine ⟨t, more ++ [.plain c s.position], Run.foldlM_cons_eq_ok.mpr ⟨_, hstep, ht⟩, hmode, hpieces, ?_⟩
    rw [hmore, List.append_assoc]
    rfl

/-- A number with too many digits is no token of a condition. -/
theorem Condition.Token.scan_digits (hdigits : ∀ c ∈ digits, c.isDigit = true)
    (hlong : Number.maxDigits < digits.length) (p : Int) :
    scan (' ' :: digits) p = .error (.numeralTooLong digits.length) := by
  have hne := ne_nil_of_isLong hlong
  have hsplit := Numeral.split?_digits hdigits hne
  obtain ⟨c, cs, rfl⟩ := List.exists_cons_of_ne_nil hne
  obtain ⟨hc, hcs⟩ := List.forall_mem_cons.mp hdigits
  have hname := Text.isNameChar_of_isDigit hc
  have hnumeral : ofNumeral ⟨c :: cs, false, [], none⟩ = .error (.numeralTooLong (c :: cs).length) :=
    if_pos hlong
  have hlexeme : lexemeAt (p + 1) c cs = .error (.numeralTooLong (c :: cs).length) := by
    rw [lexemeAt_of_numeral hsplit]
    exact Run.bind_eq_error.mpr (Or.inl hnumeral)
  change scanFrom 0 (p + 1) (c :: cs) = _
  rw [scanFrom_token (Text.isBlank_of_isNameChar hname)]
  exact Run.bind_eq_error.mpr (Or.inl hlexeme)

theorem compile_when_digits (hdigits : ∀ c ∈ digits, c.isDigit = true)
    (hlong : Number.maxDigits < digits.length) :
    compile ("x when " ++ String.ofList digits : String) =
      .error (.numeralTooLong digits.length) := by
  have htext : ("x when " ++ String.ofList digits).toList =
      ['x', ' ', 'w', 'h', 'e', 'n', ' '] ++ digits := by
    rw [String.toList_append, String.toList_ofList, String.toList_ofList]
  -- up to the digits the text is always the same, so this much of the run is computed
  let s : Lifting := .state 7 [.plain ' ' 6, .plain 'n' 5, .plain 'e' 4, .plain 'h' 3,
    .plain 'w' 2, .plain ' ' 1, .plain 'x' 0] (some 2) .outside
  have hfront : ['x', ' ', 'w', 'h', 'e', 'n', ' '].foldlM Lifting.step .start = .ok s := by
    rfl
  obtain ⟨u, more, hu, hmode, hcount, hpieces⟩ :=
    Lifting.exists_foldlM_digits (s := s) rfl rfl hdigits
  have hfinish : u.finish = .ok u := Lifting.run_nil hmode
  let t : Template := ⟨s.pieces.reverse ++ more.reverse, some 2⟩
  have htemplate : Template.ofText ("x when " ++ String.ofList digits).toList = .ok t := by
    rw [htext]
    refine Template.ofText_eq_ok.mpr ⟨u, u, ?_, hfinish, ?_⟩
    · rw [Run.foldlM_append_of_ok hfront]
      exact hu
    · rw [hpieces, hcount, List.reverse_append]
      rfl
  have hscan : Token.scan t.patternCells = .ok [⟨.name "x", 0, 1⟩] := by
    rfl
  have hcondition : Condition.ofText ["x"]
      (("x when " ++ String.ofList digits).toList.drop (2 + whenLength))
      ((2 + whenLength : Nat) : Int) = .error (.numeralTooLong digits.length) := by
    rw [htext]
    exact Run.bind_eq_error.mpr (Or.inl (Condition.Token.scan_digits hdigits hlong _))
  apply compile_eq_error_iff.mpr
  refine Run.bind_eq_error.mpr (Or.inr ⟨t, htemplate, ?_⟩)
  refine Run.bind_eq_error.mpr (Or.inr ⟨_, hscan, ?_⟩)
  refine Run.bind_eq_error.mpr (Or.inr ⟨.variable "x" false, rfl, ?_⟩)
  exact Run.bind_eq_error.mpr (Or.inl hcondition)

end Escapes

/-- What compiling a text ends in. The text compiles, or it is reported as an invalid pattern, unless
it holds a surrogate or goes beyond a bound. Every text with a surrogate is refused for its encoding.
Beyond a bound the report can be of another kind, and it is for every number with more digits than can
be read, with or without a sign and in a condition as well, and for every regular expression that is
refused although it is not malformed. -/
theorem compile_outcomes (text : WideText) :
    ((∃ compiled, compile text = .ok compiled) ∨
      (∃ error, compile text = .error (.invalid error)) ∨
      (∃ surrogates, text.encode = .error surrogates ∧
        compile text = .error (.unencodable surrogates)) ∨
      ∃ (written : String) (failure : Failure), text = written ∧ compile text = .error failure ∧
        (∀ error, failure ≠ .invalid error) ∧ Overruns written.toList failure) ∧
    (∀ n, .surrogate n ∈ text →
      ∃ surrogates, compile text = .error (.unencodable surrogates)) ∧
    (∀ digits : List Char, (∀ c ∈ digits, c.isDigit = true) → Number.maxDigits < digits.length →
      (∃ negative, text = String.ofList (signed negative digits)) ∨
        text = ("x when " ++ String.ofList digits : String) →
      compile text = .error (.numeralTooLong digits.length)) ∧
    ∀ source ignoreCase problem failure, fitsSlashes false source = true →
      Regex.compile (String.ofList source) ignoreCase = .error problem →
      problem.passed = some failure → text = String.ofList (Payload.regex source ignoreCase).written →
      compile text = .error failure := by
  refine ⟨?_, ?_, ?_, ?_⟩
  · cases he : text.encode with
    | error surrogates => exact Or.inr (Or.inr (Or.inl ⟨surrogates, rfl, compile_of_encode he⟩))
    | ok written =>
      obtain rfl := WideText.encode_eq_ok_iff.mp he
      cases h : compile written with
      | ok compiled => exact Or.inl ⟨compiled, rfl⟩
      | error failure =>
        by_cases hinvalid : ∃ error, failure = .invalid error
        · obtain ⟨error, rfl⟩ := hinvalid
          exact Or.inr (Or.inl ⟨error, rfl⟩)
        · have hoverruns := (compile_eq_error h).resolve_left hinvalid
          refine Or.inr (Or.inr (Or.inr ⟨written, failure, rfl, rfl, ?_, hoverruns⟩))
          exact not_exists.mp hinvalid
  · intro n hn
    obtain ⟨surrogates, he⟩ := WideText.exists_encode_eq_error hn
    exact ⟨surrogates, compile_of_encode he⟩
  · rintro digits hdigits hlong (⟨negative, rfl⟩ | rfl)
    · exact compile_digits hdigits hlong negative
    · exact compile_when_digits hdigits hlong
  · rintro source ignoreCase problem failure hsource hproblem hpassed rfl
    exact compile_regex hsource hproblem hpassed

/-- A number with one digit too many, a surrogate in a regular expression, and regular expressions with
a repetition that is too large and with flags that exclude each other. -/
theorem compile_outcomes_bounds :
    (∃ surrogates, compile [.character '/', .surrogate 0, .character '/'] =
      .error (.unencodable surrogates)) ∧
    compile (String.ofList (signed true (List.replicate 4301 '1'))) = .error (.numeralTooLong 4301) ∧
    compile "/a{4294967295}/" = .error .repetitionTooLarge ∧
    compile "/(?a)(?u)/i" = .error .incompatibleFlags := by
  have hones : ∀ c ∈ List.replicate 4301 '1', c.isDigit = true := by
    intro c hc
    rw [List.eq_of_mem_replicate hc]
    rfl
  have hlength : (List.replicate 4301 '1').length = 4301 := List.length_replicate
  have hlong : Number.maxDigits < (List.replicate 4301 '1').length := by
    rw [hlength]
    decide
  have hsurrogate := (compile_outcomes [.character '/', .surrogate 0, .character '/']).2.1 0 (by decide)
  have hnumber := (compile_outcomes _).2.2.1 _ hones hlong (Or.inl ⟨true, rfl⟩)
  rw [hlength] at hnumber
  -- only the way they end is computed, since compiled regular expressions cannot be compared
  have hrepetition : (Regex.compile (String.ofList "a{4294967295}".toList) false).map (fun _ => ()) =
      .error .repetitionTooLarge := by
    decide +kernel
  have hflags : (Regex.compile (String.ofList "(?a)(?u)".toList) true).map (fun _ => ()) =
      .error .incompatibleFlags := by
    decide +kernel
  have hrepetition := Run.map_eq_error.mp hrepetition
  have hflags := Run.map_eq_error.mp hflags
  have hlarge := (compile_outcomes _).2.2.2 _ false _ _ (by decide) hrepetition rfl rfl
  have hexcluded := (compile_outcomes _).2.2.2 _ true _ _ (by decide) hflags rfl rfl
  exact ⟨hsurrogate, hnumber, hlarge, hexcluded⟩

end Destructure
