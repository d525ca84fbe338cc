import Destructure.Proofs.Compile
import Destructure.Proofs.Pattern.Reread
import Destructure.Proofs.Template.Herald
import Destructure.Proofs.Template.Markers

namespace Destructure

open Pattern (textOf wordsTally)

section Lifted

variable {pieces : List Piece} {ws : List Word}

theorem countP_contents (w : Word) : w.contents.countP Sum.isRight = w.tally := by
  have hchars (cs : List Char) : (cs.map (Sum.inl : Char → Char ⊕ Payload)).countP Sum.isRight = 0 := by
    rw [List.countP_map]
    exact List.countP_eq_zero.mpr fun _ _ => Bool.false_ne_true
  cases w with
  | literal payload => rfl
  | _ => exact hchars _

/-- What has been lifted out for some words has as many literals as they have. -/
theorem length_literalsOf_words (h : pieces.map Piece.content = ws.flatMap Word.contents) :
    (literalsOf pieces).length = wordsTally ws := by
  have hpieces : (literalsOf pieces).length = (pieces.map Piece.content).countP Sum.isRight := by
    rw [literalsOf, List.length_filterMap_eq_countP, List.countP_map]
    congr 1
    funext piece
    cases piece <;> rfl
  rw [hpieces, h, List.countP_flatMap, wordsTally]
  exact congrArg List.sum (List.map_congr_left fun w _ => countP_contents w)

/-- A literal that has been lifted out for some words is one of them. -/
theorem mem_words_of_mem_literalsOf (h : pieces.map Piece.content = ws.flatMap Word.contents)
    {l : Literal} (hl : l ∈ literalsOf pieces) : .literal l.payload ∈ ws := by
  have hp : Sum.inr l.payload ∈ pieces.map Piece.content :=
    List.mem_map.mpr ⟨_, mem_literalsOf.mp hl, rfl⟩
  rw [h] at hp
  obtain ⟨w, hw, hm⟩ := List.mem_flatMap.mp hp
  cases w with
  | literal payload =>
    cases List.mem_singleton.mp hm
    exact hw
  | _ =>
    obtain ⟨c, -, hc⟩ := List.mem_map.mp hm
    cases hc

end Lifted

namespace Template

/-- What a row of words is lifted to, unless it shows the word `when` between blanks. -/
theorem ofText_words {ws : List Word} (hp : ∀ w ∈ ws, w.IsPlain) (hc : ws.IsChain Word.Meets) :
    (Herald.silent.listen ws = .heard →
      ∀ t, ofText (textOf ws) = .ok t → t.patternPieces.isSome = true) ∧
    (Herald.silent.listen ws ≠ .heard →
      ∃ t, ofText (textOf ws) = .ok t ∧ t.patternPieces = none ∧
        t.pieces.map Piece.content = ws.flatMap Word.contents) := by
  obtain ⟨hheard, hquiet⟩ := Lifting.run_words (s := .start) ⟨rfl, rfl⟩ hp hc fun h => nomatch h
  constructor
  · intro h t ht
    obtain ⟨s, u, hs, hu, rfl⟩ := ofText_eq_ok.mp ht
    exact hheard h u (Run.bind_eq_ok.mpr ⟨s, hs, hu⟩)
  · intro h
    obtain ⟨u, hrun, ⟨-, hnone⟩, hcontents⟩ := hquiet h
    obtain ⟨s, hs, hu⟩ := Run.bind_eq_ok.mp hrun
    refine ⟨_, ofText_eq_ok.mpr ⟨s, u, hs, hu, rfl⟩, hnone, ?_⟩
    have hstart : Lifting.start.contents = [] := rfl
    rw [hstart, List.append_nil] at hcontents
    rw [List.map_reverse]
    exact List.reverse_eq_iff.mpr hcontents

end Template

section Description

variable {text : String} {tree : Pattern} {condition : Option Condition}

/-- The literals of a pattern that has been read were lifted out of its text. -/
theorem isLifted_readPattern (h : readPattern text = .ok (tree, condition)) :
    tree.IsRead Payload.IsLifted :=
  isRead_readPattern h fun _ ht _ hl => Template.isLifted_of_mem_literals ht hl

/-- The markers of what is written for a pattern have numbers that can be read. -/
theorem length_toDigits_le (h : readPattern text = .ok (tree, condition)) {k : Nat}
    (hk : k < 1 + tree.tally) : (Nat.toDigits 10 k).length ≤ Number.maxDigits := by
  obtain ⟨template, tokens, ht, hs, hr, -⟩ := readPattern_eq_ok h
  obtain ⟨count, hcells⟩ := template.patternCells_eq
  rw [hcells] at hs
  have hsound : ∀ piece ∈ template.pieces.take count, piece.IsSound :=
    fun piece hm => Template.isSound_ofText ht piece (List.mem_of_mem_take hm)
  obtain ⟨hnumbers, hdigits⟩ := (scans_of_scanFrom hsound (Nat.zero_le _) hs).numbers
  have htally := Pattern.tally_ofTokens
    (fun t hm name hn => Token.isName_of_scanFrom hs hm hn) hr
  rw [Token.tallyOf_eq, hnumbers, List.length_range'] at htally
  cases k with
  | zero => decide
  | succ k =>
    rw [Nat.add_comm]
    exact hdigits k (by omega)

/-- The words of a pattern that has been read. -/
theorem description_eq_words (h : readPattern text = .ok (tree, condition)) :
    tree.description.toList = textOf tree.words ∧ (∀ w ∈ tree.words, w.IsPlain) ∧
      tree.words.IsChain Word.Meets ∧ (Herald.silent.listen tree.words = .heard ↔ tree.Announces) := by
  have hlifted := isLifted_readPattern h
  have hchain : (tree.words ++ []).IsChain Word.Meets :=
    Pattern.isChain_words hlifted (fun _ hw => nomatch hw) .nil
  rw [List.append_nil] at hchain
  refine ⟨?_, Pattern.isPlain_words hlifted, hchain,
    (Pattern.sounds_of_isRead hlifted).listen_eq_heard (Or.inl rfl)⟩
  rw [Pattern.description, String.toList_ofList, Pattern.textOf_words hlifted]

/-- What is written for a pattern is read as that pattern, if it announces no condition and all its
numbers are finite. -/
theorem readPattern_description (h : readPattern text = .ok (tree, condition))
    (hplain : tree.IsRead Payload.IsPlain) (hquiet : ¬ tree.Announces) :
    readPattern tree.description = .ok (tree, none) := by
  obtain ⟨hwords, hp, hchain, hlisten⟩ := description_eq_words h
  obtain ⟨t, ht, hnone, hcontents⟩ :=
    (Template.ofText_words hp hchain).2 fun hl => hquiet (hlisten.mp hl)
  have hlength : (literalsOf t.pieces).length = tree.tally := length_literalsOf_words hcontents
  let source : Reading.Source := ⟨t.literal?, tree.description⟩
  have hnumbers : Token.Numbers source 1 (literalsOf t.pieces) := by
    constructor
    · intro k hk
      rw [hlength] at hk
      exact length_toDigits_le h hk
    · intro i l hl
      exact (t.literal?_one_add i).trans hl
  have hdash := Pattern.ne_dash_words hplain
  obtain ⟨tokens, hscan, hspell⟩ := Token.scanFrom_words (fun w hw => ⟨hp w hw, hdash w hw⟩) hchain
    hcontents hnumbers
  have hread := Reading.ofTokens_of_spell hplain hspell
  have hcells : t.patternCells = t.cells := by
    rw [Template.patternCells, hnone]
  have hposition : t.conditionPosition = none := by
    rw [Template.conditionPosition, hnone]
    rfl
  unfold readPattern
  rw [hwords]
  refine Run.bind_eq_ok.mpr ⟨t, ht, Run.bind_eq_ok.mpr ⟨tokens, ?_, Run.bind_eq_ok.mpr
    ⟨tree, hread, ?_⟩⟩⟩
  · rw [hcells]
    exact hscan
  · rw [hposition]
    rfl

/-- What is written for a pattern is read without a condition as the same pattern only if it
announces none and all numbers in the pattern are finite. -/
theorem isPlain_of_readPattern_description (h : readPattern text = .ok (tree, condition))
    (hr : readPattern tree.description = .ok (tree, none)) :
    tree.IsRead Payload.IsPlain ∧ ¬ tree.Announces := by
  obtain ⟨hwords, hp, hchain, hlisten⟩ := description_eq_words h
  obtain ⟨hheard, hquiet⟩ := Template.ofText_words hp hchain
  have hnot : ¬ tree.Announces := by
    intro ha
    obtain ⟨template, tokens, ht, -, -, hc⟩ := readPattern_eq_ok hr
    rw [hwords] at ht
    obtain ⟨count, hcount⟩ := Option.isSome_iff_exists.mp (hheard (hlisten.mpr ha) template ht)
    have hposition : template.conditionPosition.isSome = true := by
      rw [Template.conditionPosition, hcount]
      rfl
    obtain ⟨position, hposition⟩ := Option.isSome_iff_exists.mp hposition
    rw [hposition] at hc
    obtain ⟨c, -, hc⟩ := Run.map_eq_ok.mp hc
    cases hc
  refine ⟨isRead_readPattern hr fun template ht l hl => ?_, hnot⟩
  obtain ⟨t, hquiet, -, hcontents⟩ := hquiet fun hl => hnot (hlisten.mp hl)
  rw [hwords, hquiet] at ht
  cases ht
  exact hp _ (mem_words_of_mem_literalsOf hcontents hl)

end Description

/-- Of the numbers that are lifted out of a text only infinite ones cannot be read again. -/
theorem Pattern.isPlain_iff {p : Pattern} (h : p.IsRead Payload.IsLifted) :
    p.IsRead Payload.IsPlain ↔
      ∀ x, .number (.float x) ∈ p.subpatterns → x.isInfinite = false := by
  constructor
  · intro hp x hx
    obtain hread | ⟨name, -, hname⟩ := isRead_of_mem_subpatterns hp hx
    · have hf : x.isFinite = true := hread.2 _ rfl
      exact (Binary64.isFinite_iff.mp hf).2
    · cases hname
  · intro hx
    refine isRead_of_numbers h fun payload hp hn => ⟨hp, fun n hpayload => ?_⟩
    cases n with
    | integer k => rfl
    | float x =>
      subst hpayload
      exact Binary64.isFinite_iff.mpr ⟨hp.2 x rfl, hx x (hn _ rfl)⟩

/-- What is written for a compiled pattern can be written, and it compiles without a condition to the
same pattern if and only if no number in the pattern is infinite, no mapping has the key `when`
behind its first entry, and no sequence has the variable `when` between another element and its
tail. -/
theorem compile_description {text : String} {compiled : Compiled}
    (h : compile text = .ok compiled) :
    compiled.tree.isWritable = true ∧
      ((∃ again, compile compiled.tree.description = .ok again ∧ again.condition = none ∧
          again.tree = compiled.tree) ↔
        (∀ x, .number (.float x) ∈ compiled.tree.subpatterns → x.isInfinite = false) ∧
        (∀ first rest, .mapping (first :: rest) ∈ compiled.tree.subpatterns →
          "when" ∉ rest.map Prod.fst) ∧
        ∀ before name, .sequence (before ++ [.variable "when" false, .variable name true]) ∈
          compiled.tree.subpatterns → before = []) := by
  obtain ⟨hr, -, -⟩ := compile_eq_ok_iff.mp h
  have hlifted := isLifted_readPattern hr
  refine ⟨Pattern.isWritable_of_isRead hlifted fun n hn => hn.1, ?_⟩
  rw [← Pattern.isPlain_iff hlifted, ← Pattern.not_announces_iff]
  constructor
  · rintro ⟨again, hagain, hcondition, htree⟩
    have hread := (compile_eq_ok_iff.mp hagain).1
    rw [hcondition, htree] at hread
    exact isPlain_of_readPattern_description hr hread
  · rintro ⟨hplain, hquiet⟩
    have hread := readPattern_description hr hplain hquiet
    exact ⟨_, compile_of_readPattern hread, rfl, rfl⟩

/-- A sequence with a tail is written and read again, but not one whose variable `when` comes to stand
before the tail. -/
theorem compile_description_tail :
    (∃ compiled again, compile "[x, -5 | rest] when x < 1" = .ok compiled ∧
      compile compiled.tree.description = .ok again ∧ again.condition = none ∧
        again.tree = compiled.tree) ∧
    ∃ compiled, compile "[a, when, | rest]" = .ok compiled ∧
      ¬ ∃ again, compile compiled.tree.description = .ok again ∧ again.condition = none ∧
        again.tree = compiled.tree := by
  have hx : readPattern "[x, -5 | rest] when x < 1" = .ok
      (.sequence [.variable "x" false, .number (.integer (-5)), .variable "rest" true],
        some ⟨"x < 1", .binary .lt (.variable "x") (.constant (.number (.integer 1)))⟩) :=
    readPattern_of_stages rfl rfl rfl rfl
  have ha : readPattern "[a, when, | rest]" = .ok
      (.sequence ([.variable "a" false] ++ [.variable "when" false, .variable "rest" true]),
        none) :=
    readPattern_of_stages rfl rfl rfl rfl
  have hx := compile_of_readPattern hx
  have ha := compile_of_readPattern ha
  constructor
  · obtain ⟨again, hagain⟩ := (compile_description hx).2.mpr (by
      simp only [Pattern.subpatterns, Pattern.subpatternsOfElements, List.append_nil,
        List.cons_append, List.nil_append]
      refine ⟨fun x hm => ?_, fun first rest hm => ?_, fun before name hm => ?_⟩
      · simp at hm
      · simp at hm
      · have hs : before ++ [.variable "when" false, .variable name true] =
            [.variable "x" false] ++ [.number (.integer (-5)), .variable "rest" true] := by
          simpa using hm
        cases List.append_inj_right' hs rfl)
    exact ⟨_, again, hx, hagain⟩
  · refine ⟨_, ha, fun hagain => ?_⟩
    obtain ⟨-, -, h⟩ := (compile_description ha).2.mp hagain
    exact absurd (h [.variable "a" false] "rest" (List.mem_cons_self ..)) (List.cons_ne_nil _ _)

end Destructure
