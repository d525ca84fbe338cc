import Destructure.Proofs.Compile
import Destructure.Proofs.Condition.Language
import Destructure.Proofs.Pattern.Congruence
import Destructure.Proofs.Template.Split

namespace Destructure

namespace Condition

variable {names : List String} {text : List Char} {position : Int} {condition : Condition}

theorem ofText_eq_ok :
    ofText names text position = .ok condition ↔
      ∃ tokens e, Token.scan text position = .ok tokens ∧
        parse ⟨names, String.ofList (Text.trim text)⟩ tokens = .ok e ∧
        condition = ⟨String.ofList (Text.trim text), e⟩ := by
  unfold ofText
  constructor
  · intro h
    obtain ⟨tokens, hs, h⟩ := Run.bind_eq_ok.mp h
    obtain ⟨e, hp, h⟩ := Run.bind_eq_ok.mp h
    exact ⟨tokens, e, hs, hp, (Except.ok.inj h).symm⟩
  · rintro ⟨tokens, e, hs, hp, rfl⟩
    exact Run.bind_eq_ok.mpr ⟨tokens, hs, Run.bind_eq_ok.mpr ⟨e, hp, rfl⟩⟩

/-- What condition is read does not depend on where it stands. -/
theorem ofText_of_ok (place : Int) (h : ofText names text position = .ok condition) :
    ofText names text place = .ok condition := by
  obtain ⟨tokens, e, hs, hp, rfl⟩ := ofText_eq_ok.mp h
  obtain ⟨moved, hmoved, hlexemes⟩ := (Token.scanFrom_eq_ok.mp hs).move place
  refine ofText_eq_ok.mpr ⟨moved, e, Token.scanFrom_eq_ok.mpr hmoved, ?_, rfl⟩
  rw [parse_eq_ok] at hp ⊢
  rw [hlexemes]
  exact hp

end Condition

section Separation

variable {first second : String} {t whole : Template} {tokens : List Token} {tree : Pattern}
  {condition : Option Condition}

/-- Where the pattern part of a text with a condition has tokens, these refer to the literals of the
text before the condition. -/
theorem Template.Continues.agree (h : whole.Continues t)
    (ht : Template.ofText first.toList = .ok t) (hs : Token.scan t.cells = .ok tokens) :
    Token.Agree whole.literal? t.literal? tokens := by
  have hcells : t.cells = Destructure.cells 1 (t.pieces.take t.pieces.length) := by
    rw [List.take_length]
    rfl
  rw [hcells] at hs
  intro token hm number hnumber
  obtain ⟨l, hl⟩ := Template.exists_literal_of_scan (Template.isSound_ofText ht) hs token hm number
    hnumber
  rw [hl]
  exact h.literal?_eq hl

theorem Template.IsFront.conditionPosition_eq {front : List Char} (h : Template.IsFront front t) :
    t.conditionPosition = none := by
  rw [Template.conditionPosition, h.2.1]
  rfl

/-- A text that can stand before a condition has none. -/
theorem Template.IsFront.condition_eq (h : Template.IsFront first.toList t)
    (hread : readPattern first = .ok (tree, condition)) : condition = none := by
  obtain ⟨t', tokens, ht, -, -, hcondition⟩ := readPattern_eq_ok hread
  obtain rfl : t = t' := Except.ok.inj (h.1.symm.trans ht)
  rw [h.conditionPosition_eq] at hcondition
  exact hcondition

/-- A text with a condition is read as the text before the condition and as the condition. -/
theorem readPattern_when (h : Template.IsFront first.toList t)
    (hsecond : ∃ c ∈ second.toList.head?, Text.isBlank c = true) :
    readPattern (first ++ "when" ++ second) = .ok (tree, condition) ↔
      ∃ found, readPattern first = .ok (tree, none) ∧
        Condition.ofText tree.variableNames second.toList 0 = .ok found ∧
        condition = some found := by
  obtain ⟨c, hhead, hc⟩ := hsecond
  obtain ⟨rest, hrest⟩ := List.head?_eq_some_iff.mp hhead
  have htext : (first ++ "when" ++ second).toList =
      first.toList ++ ['w', 'h', 'e', 'n'] ++ c :: rest := by
    rw [String.toList_append, String.toList_append, hrest]
    rfl
  have hdrop : (first ++ "when" ++ second).toList.drop (first.toList.length + whenLength) =
      second.toList := by
    rw [htext, ← hrest]
    exact List.drop_left' List.length_append
  have hpattern : t.patternCells = t.cells := by
    rw [Template.patternCells_eq_cells, Template.patternRow_of_none h.2.1]
    rfl
  have hposition {whole : Template} (hcont : whole.Continues t) :
      whole.conditionPosition = some first.toList.length := by
    rw [hcont.conditionPosition_eq, (Template.aligned_ofText h.1).1]
  constructor
  · intro hread
    obtain ⟨whole, tokens, hw, hs, hp, hcondition⟩ := readPattern_eq_ok hread
    have hcont := h.continues hc (htext ▸ hw)
    rw [hposition hcont] at hcondition
    obtain ⟨found, hfound, rfl⟩ := Run.map_eq_ok.mp hcondition
    rw [hdrop] at hfound
    rw [hcont.patternCells_eq] at hs
    have hfirst : Pattern.ofTokens ⟨t.literal?, first⟩ tokens = .ok tree :=
      (Pattern.ofTokens_congr (hcont.agree h.1 hs)).mp hp
    refine ⟨found, ?_, Condition.ofText_of_ok 0 hfound, rfl⟩
    rw [readPattern_of_ok h.1 (hpattern ▸ hs) hfirst, h.conditionPosition_eq]
  · rintro ⟨found, hread, hfound, rfl⟩
    obtain ⟨t', tokens, ht, hs, hp, -⟩ := readPattern_eq_ok hread
    obtain rfl : t = t' := Except.ok.inj (h.1.symm.trans ht)
    obtain ⟨conditionTokens, -, hscan, -⟩ := Condition.ofText_eq_ok.mp hfound
    rw [hrest, Condition.Token.scan, Condition.Token.scanFrom, if_pos hc] at hscan
    -- that the second text has tokens is what lets the whole text be lifted
    obtain ⟨whole, hw⟩ := h.exists_ofText hc hscan
    have hcont := h.continues hc hw
    rw [hpattern] at hs
    have hwhole : Pattern.ofTokens ⟨whole.literal?, first ++ "when" ++ second⟩ tokens = .ok tree :=
      (Pattern.ofTokens_congr (hcont.agree h.1 hs)).mpr hp
    rw [readPattern_of_ok (htext ▸ hw) (hcont.patternCells_eq ▸ hs) hwhole, hposition hcont]
    dsimp only
    rw [hdrop, Condition.ofText_of_ok _ hfound]
    rfl

end Separation

/-- Compiling splits at the word that introduces a condition. A text that ends in a blank and has no
condition, this word, and a text that begins with a blank compile together just when the first compiles
and the second can be read as a condition over its variables. The pattern is then that of the first
text, the expression is read from the second one alone, and the condition is shown as that text without
the blanks at its ends. But a surrogate in either text, were it within the quotes of the condition,
keeps the whole from being encoded, and so from being compiled. Every text that compiles with a
condition is made that way, and the first text ends where the word stands that was found to introduce
the condition. -/
theorem compile_when (first second : WideText) :
    (∀ n, .surrogate n ∈ first ++ second →
      ∃ surrogates, (first ++ "when" ++ second).encode = .error surrogates ∧
        compile (first ++ "when" ++ second) = .error (.unencodable surrogates)) ∧
    (∀ (pattern condition : String) (t : Template), first = pattern → second = condition →
      Template.IsFront pattern.toList t →
      (∃ c ∈ condition.toList.head?, Text.isBlank c = true) →
      ∀ compiled, compile (first ++ "when" ++ second) = .ok compiled ↔
        ∃ plain tokens e, compile first = .ok plain ∧
          Condition.Token.scan condition.toList 0 = .ok tokens ∧
          Condition.parse ⟨plain.tree.variableNames, String.ofList (Text.trim condition.toList)⟩
            tokens = .ok e ∧
          compiled = ⟨pattern ++ "when" ++ condition,
            Text.Digest.ofString (pattern ++ "when" ++ condition), plain.tree,
            some ⟨String.ofList (Text.trim condition.toList), e⟩⟩) ∧
    ∀ (text : WideText) compiled, compile text = .ok compiled →
      compiled.condition.isSome = true →
      ∃ (pattern condition : String) (t whole : Template),
        text = (pattern ++ "when" ++ condition : String) ∧
        Template.IsFront pattern.toList t ∧
        (∃ c ∈ condition.toList.head?, Text.isBlank c = true) ∧
        Template.ofText (pattern ++ "when" ++ condition).toList = .ok whole ∧
        whole.conditionPosition = some pattern.length := by
  refine ⟨fun n hn => ?_, ?_, fun text compiled h hcondition => ?_⟩
  · have hmem : .surrogate n ∈ first ++ "when" ++ second := by
      rw [List.append_assoc]
      rcases List.mem_append.mp hn with hn | hn
      · exact List.mem_append_left _ hn
      · exact List.mem_append_right _ (List.mem_append_right _ hn)
    obtain ⟨surrogates, he⟩ := WideText.exists_encode_eq_error hmem
    exact ⟨surrogates, he, compile_of_encode he⟩
  · rintro pattern condition t rfl rfl hfirst hsecond compiled
    rw [← WideText.ofString_append, ← WideText.ofString_append]
    constructor
    · intro h
      obtain ⟨text, print, tree, found⟩ := compiled
      obtain ⟨hread, rfl, rfl⟩ := compile_eq_ok_iff.mp h
      obtain ⟨found, hplain, hfound, rfl⟩ := (readPattern_when hfirst hsecond).mp hread
      obtain ⟨tokens, e, hscan, hparse, rfl⟩ := Condition.ofText_eq_ok.mp hfound
      exact ⟨_, tokens, e, compile_of_readPattern hplain, hscan, hparse, rfl⟩
    · rintro ⟨plain, tokens, e, hplain, hscan, hparse, rfl⟩
      obtain ⟨hread, -, -⟩ := compile_eq_ok_iff.mp hplain
      rw [hfirst.condition_eq hread] at hread
      have hfound := Condition.ofText_eq_ok.mpr ⟨tokens, e, hscan, hparse, rfl⟩
      exact compile_of_readPattern ((readPattern_when hfirst hsecond).mpr ⟨_, hread, hfound, rfl⟩)
  · have hwritten := eq_text_of_compile h
    rw [hwritten] at h
    obtain ⟨hread, -, -⟩ := compile_eq_ok_iff.mp h
    obtain ⟨whole, tokens, hw, -, -, hread⟩ := readPattern_eq_ok hread
    cases hp : whole.conditionPosition with
    | none =>
      rw [hp] at hread
      rw [hread] at hcondition
      cases hcondition
    | some position =>
      obtain ⟨front, t, c, rest, htext, hfront, hc, rfl⟩ := Template.exists_isFront hw hp
      have hsplit : compiled.text = String.ofList front ++ "when" ++ String.ofList (c :: rest) := by
        apply String.toList_injective
        rw [htext]
        simp
      refine ⟨String.ofList front, String.ofList (c :: rest), t, whole, ?_, ?_, ⟨c, ?_, hc⟩,
        hsplit ▸ hw, ?_⟩
      · rw [hwritten, hsplit]
      · rw [String.toList_ofList]
        exact hfront
      · rw [String.toList_ofList]
        rfl
      · rw [String.length_ofList]
        exact hp

/-- A condition over the variable of a sequence, and a surrogate in the quotes of a condition. -/
theorem compile_when_belowOne :
    let first : WideText := WideText.ofString "[x] "
    let second : WideText := WideText.ofString " x < 1 "
    (∃ compiled, compile (first ++ "when" ++ second) = .ok compiled ∧
      compiled.condition =
        some ⟨"x < 1", .binary .lt (.variable "x") (.constant (.number (.integer 1)))⟩ ∧
      ∃ (pattern condition : String) (t whole : Template),
        first ++ "when" ++ second = WideText.ofString (pattern ++ "when" ++ condition) ∧
        Template.IsFront pattern.toList t ∧
        (∃ c ∈ condition.toList.head?, Text.isBlank c = true) ∧
        Template.ofText (pattern ++ "when" ++ condition).toList = .ok whole ∧
        whole.conditionPosition = some pattern.length) ∧
      let quoted : WideText := WideText.ofString " x == '" ++ .surrogate 0 :: WideText.ofString "'"
      compile ("x " ++ "when" ++ quoted) = .error (.unencodable ⟨0, 13, 1⟩) := by
  intro first second
  have hfirst : Template.IsFront "[x] ".toList
      ⟨[.plain '[' 0, .plain 'x' 1, .plain ']' 2, .plain ' ' 3], none⟩ := by
    refine ⟨?_, rfl, ' ', ?_, ?_⟩
    · rfl
    · decide
    · decide
  have hread : readPattern "[x] " = .ok (.sequence [.variable "x" false], none) := by
    rfl
  have hscan : Condition.Token.scan " x < 1 ".toList 0 =
      .ok [⟨.name "x", 1, 1⟩, ⟨.operator .lt, 3, 1⟩, ⟨.constant (.number (.integer 1)), 5, 1⟩] := by
    rfl
  have hparse : Condition.parse
      ⟨(Pattern.sequence [.variable "x" false]).variableNames,
        String.ofList (Text.trim " x < 1 ".toList)⟩
      [⟨.name "x", 1, 1⟩, ⟨.operator .lt, 3, 1⟩, ⟨.constant (.number (.integer 1)), 5, 1⟩] =
        .ok (.binary .lt (.variable "x") (.constant (.number (.integer 1)))) := by
    rfl
  have htrim : String.ofList (Text.trim " x < 1 ".toList) = "x < 1" := by
    decide
  obtain ⟨-, hwhen, hconverse⟩ := compile_when first second
  have hcompile := (hwhen _ " x < 1 " _ rfl rfl hfirst ⟨' ', by decide, by decide⟩ _).mpr
    ⟨_, _, _, compile_of_readPattern hread, hscan, hparse, rfl⟩
  obtain ⟨surrogates, he, hrefused⟩ := (compile_when "x "
    (WideText.ofString " x == '" ++ .surrogate 0 :: WideText.ofString "'")).1 0 (by decide)
  obtain rfl : surrogates = ⟨0, 13, 1⟩ := Except.error.inj (he.symm.trans (by decide))
  exact ⟨⟨_, hcompile, by rw [htrim], hconverse _ _ hcompile rfl⟩, hrefused⟩

end Destructure
