import Destructure.Proofs.Compile
import Destructure.Proofs.Condition.Placed
import Destructure.Proofs.Pattern.Placed
import Destructure.Proofs.Pattern.Position
import Destructure.Proofs.Template.Place
import Destructure.Proofs.Template.Split

namespace Destructure

open Run (Meets meets_ok)

variable {text : String} {t : Template}

namespace Template

/-- The literals that have been lifted out of a text stand in it. -/
theorem shows_ofText (h : ofText text.toList = .ok t) :
    Reading.Source.Shows ⟨t.literal?, text⟩ text.toList := by
  intro number l hl
  have hm := mem_of_literal?_eq_some hl
  obtain ⟨before, after, hsplit⟩ := List.append_of_mem (mem_literalsOf.mp hm)
  exact standsAt_of_split h hsplit (raw_ne_nil h hm) (List.prefix_append _ _)

/-- The condition begins within the text, behind the word that introduces it. -/
theorem start_le_length (h : ofText text.toList = .ok t) {position : Nat}
    (hp : t.conditionPosition = some position) : position + whenLength ≤ text.toList.length := by
  obtain ⟨front, -, c, rest, htext, -, -, rfl⟩ := exists_isFront h hp
  rw [htext, List.length_append, List.length_append]
  exact Nat.le_add_right _ _

end Template

/-- The tokens of a condition stand in the pattern text. -/
theorem Condition.Token.standsIn_of_template (h : Template.ofText text.toList = .ok t)
    {position : Nat} (hp : t.conditionPosition = some position) {tokens : List Condition.Token}
    (hs : scan (text.toList.drop (position + whenLength)) ((position + whenLength : Nat) : Int) =
      .ok tokens) : ∀ token ∈ tokens, token.StandsIn text.toList :=
  standsIn_of_scan (Template.start_le_length h hp) hs

/-- What is wrong with a condition points into the pattern text. -/
theorem Condition.meets_ofText (h : Template.ofText text.toList = .ok t) {position : Nat}
    (hp : t.conditionPosition = some position) (names : List String) :
    Meets (fun _ => True) (Failure.PointsInto text.toList)
      (Condition.ofText names (text.toList.drop (position + whenLength))
        ((position + whenLength : Nat) : Int)) := by
  have hscan : Meets (fun tokens => ∀ token ∈ tokens, Token.StandsIn token text.toList)
      (Failure.PointsInto text.toList)
      (Token.scan (text.toList.drop (position + whenLength))
        ((position + whenLength : Nat) : Int)) :=
    ⟨fun tokens hs => Token.standsIn_of_template h hp hs, fun failure hs =>
      Token.pointsInto_of_scan (Template.start_le_length h hp) hs⟩
  unfold Condition.ofText
  exact hscan.bind fun tokens ht => (meets_parse ht).bind fun e _ => meets_ok trivial

/-- What is wrong with a text points into it. -/
theorem meets_readPattern (text : String) :
    Meets (fun _ => True) (Failure.PointsInto text.toList) (readPattern text) := by
  unfold readPattern
  have htemplate : Meets (fun t => Template.ofText text.toList = .ok t)
      (Failure.PointsInto text.toList) (Template.ofText text.toList) :=
    ⟨fun t h => h, fun failure h => Template.pointsInto_ofText h⟩
  refine htemplate.bind fun t h => ?_
  have hscan : Meets (fun tokens => ∀ token ∈ tokens, token.StandsIn t text)
      (Failure.PointsInto text.toList) (Token.scan t.patternCells) :=
    ⟨fun tokens hs => (Template.standsIn_of_scan h hs).1, fun failure hs =>
      Template.pointsInto_of_scan h hs⟩
  refine hscan.bind fun tokens ht => ?_
  have hparse := Reading.meets_ofTokens (Template.shows_ofText h) fun token hm => (ht token hm).stands
  refine hparse.bind fun tree _ => ?_
  split
  · exact meets_ok trivial
  · rename_i position hp
    exact (Condition.meets_ofText h hp tree.variableNames).bind fun condition _ => meets_ok trivial

/-- Positions refer to the pattern text. At the position of a token of the pattern the text holds what
the token shows, which for a literal is the literal as it is written, and each token comes behind the one
before it. The position and the length of a token of the condition delimit what the token is written as.
If a text does not compile for an error with a position, that is a place of the text, and what the error
names, such as a character that is not valid, stands there. -/
theorem positions_exact (text : String) :
    (∀ t tokens, Template.ofText text.toList = .ok t → Token.scan t.patternCells = .ok tokens →
      (∀ token ∈ tokens, token.StandsIn t text) ∧
        tokens.Pairwise fun first second => first.position < second.position) ∧
    (∀ t position tokens, Template.ofText text.toList = .ok t →
      t.conditionPosition = some position →
      Condition.Token.scan (text.toList.drop (position + whenLength))
        ((position + whenLength : Nat) : Int) = .ok tokens →
      ∀ token ∈ tokens, token.StandsIn text.toList) ∧
    ∀ error position, compile text = .error (.invalid error) →
      error.report.position = some position → StandsAt text.toList error.named position := by
  refine ⟨fun t tokens h hs => Template.standsIn_of_scan h hs, fun t position tokens h hp hs =>
    Condition.Token.standsIn_of_template h hp hs, ?_⟩
  intro error position h hposition
  have hcompile : Meets (fun _ => True) (Failure.PointsInto text.toList) (compile text) := by
    unfold compile
    rw [WideText.encode_ofString]
    exact (meets_readPattern text).bind fun found _ => meets_ok trivial
  exact hcompile.of_error _ h error rfl position hposition

/-- A name in a condition that the pattern does not bind, behind a literal. -/
theorem positions_unknownName :
    (∃ (t : Template) (tokens : List Token), Template.ofText "['ab', x] when y".toList = .ok t ∧
      tokens.map Token.position = [0, 1, 5, 7, 8] ∧
      (∀ token ∈ tokens, token.StandsIn t "['ab', x] when y") ∧ t.conditionPosition = some 10 ∧
      Condition.Token.StandsIn ⟨.name "y", 15, 1⟩ "['ab', x] when y".toList) ∧
    compile "['ab', x] when y" = .error (.invalid (.unknownVariable "y" 15 ["x"] [])) ∧
      StandsAt "['ab', x] when y".toList ['y'] 15 := by
  let t : Template := ⟨[.plain '[' 0, .literal ⟨.text "ab".toList, "'ab'".toList, 1⟩,
    .plain ',' 5, .plain ' ' 6, .plain 'x' 7, .plain ']' 8, .plain ' ' 9, .plain 'w' 10,
    .plain 'h' 11, .plain 'e' 12, .plain 'n' 13, .plain ' ' 14, .plain 'y' 15], some 7⟩
  have ht : Template.ofText "['ab', x] when y".toList = .ok t := by
    rfl
  have hs : Token.scan t.patternCells = .ok [⟨.openBracket, 0, 1⟩, ⟨.literal 1, 1, 4⟩,
      ⟨.comma, 5, 1⟩, ⟨.name "x", 7, 1⟩, ⟨.closeBracket, 8, 1⟩] := by
    rfl
  have hc : Condition.Token.scan ("['ab', x] when y".toList.drop (10 + whenLength))
      ((10 + whenLength : Nat) : Int) = .ok [⟨.name "y", 15, 1⟩] := by
    rfl
  have hp : Pattern.ofTokens ⟨t.literal?, "['ab', x] when y"⟩ [⟨.openBracket, 0, 1⟩, ⟨.literal 1, 1, 4⟩,
      ⟨.comma, 5, 1⟩, ⟨.name "x", 7, 1⟩, ⟨.closeBracket, 8, 1⟩] =
        .ok (.sequence [.text "ab", .variable "x" false]) := by
    rfl
  have hsort : Scope.sortNames ["x"] = ["x"] := List.mergeSort_singleton "x"
  have hsimilar : Text.similarNames "y" ["x"] = [] := by
    change ((List.mergeSort [] Text.ranksBefore).take 3).map Prod.snd = []
    rw [List.mergeSort_nil]
    rfl
  have hy : Condition.ofText ["x"] ("['ab', x] when y".toList.drop (10 + whenLength))
      ((10 + whenLength : Nat) : Int) =
        .error (.invalid (.unknownVariable "y" 15 (Scope.sortNames ["x"])
          (Text.similarNames "y" ["x"]))) := by
    rfl
  rw [hsort, hsimilar] at hy
  have h : compile "['ab', x] when y" = .error (.invalid (.unknownVariable "y" 15 ["x"] [])) :=
    compile_eq_error_iff.mpr ((readPattern_of_ok ht hs hp).trans (congrArg (Except.map _) hy))
  obtain ⟨hpattern, hcondition, herror⟩ := positions_exact "['ab', x] when y"
  have hy := hcondition t 10 _ ht rfl hc _ List.mem_cons_self
  exact ⟨⟨t, _, ht, rfl, (hpattern t _ ht hs).1, rfl, hy⟩, h, herror _ 15 h rfl⟩

end Destructure
