import Destructure.Proofs.Literal
import Destructure.Proofs.Pattern.Layout

/-!
Blanks between the tokens of a pattern text mean nothing. Main statement: from a pattern text without a
condition, and from every text with the same tokens in which the word `when` does not stand between
blanks, the same pattern is read, however many blanks there are between the tokens and whichever.
-/

namespace Destructure

open Token (scanFrom)

variable {text : String} {t : Template} {tokens : List Token} {tree : Pattern} {y : Layout}

/-- The literals with the same numbers stand for the same if all literals do, one after the other. -/
theorem Template.samePayloads {other : Template}
    (h : other.literals.map Literal.payload = t.literals.map Literal.payload) :
    SamePayloads t.literal? other.literal? := by
  intro number
  unfold literal?
  split
  · rfl
  · rw [← List.getElem?_map, ← List.getElem?_map, h]

/-- A text without a condition is a layout of its tokens. -/
theorem Layout.exists_of_scan (ht : Template.ofText text.toList = .ok t)
    (hs : Token.scan t.cells = .ok tokens) :
    (∃ y : Layout, y.tokens = tokens ∧ y.pieces ⟨t.literal?, text⟩ 0 = t.pieces) ∧
      ∀ token ∈ tokens, token.IsWhole ⟨t.literal?, text⟩ := by
  have hliteral : ∀ i l, (literalsOf t.pieces)[i]? = some l → t.literal? (1 + i) = some l := by
    intro i l hl
    rw [Template.literal?_one_add]
    exact hl
  have haligned := (Template.aligned_ofText ht).2
  let source : Reading.Source := ⟨t.literal?, text⟩
  obtain ⟨y, hy, hpieces, hwhole⟩ : ∃ y : Layout, y.tokens = tokens ∧
      y.pieces source (0 + 0) = t.pieces.drop 0 ∧ ∀ token ∈ tokens, token.IsWhole source :=
    (scans_of_scanFrom (Template.isSound_ofText ht) (Nat.zero_le _) hs).exists_layout haligned hliteral
  exact ⟨⟨y, hy, hpieces⟩, hwhole⟩

/-- The pattern of a text is read from every layout of its tokens in which no condition begins. -/
theorem readPattern_layout (ht : Template.ofText text.toList = .ok t)
    (hs : Token.scan t.cells = .ok tokens)
    (hp : Pattern.ofTokens ⟨t.literal?, text⟩ tokens = .ok tree) (hy : y.tokens = tokens)
    (hwhen : ∀ i, ¬ WhenAmong (y.pieces ⟨t.literal?, text⟩ 0) i) :
    readPattern (String.ofList (y.text ⟨t.literal?, text⟩)) = .ok (tree, none) := by
  obtain ⟨⟨x, hx, hpieces⟩, hwhole⟩ := Layout.exists_of_scan ht hs
  subst hy
  have hderives := Reading.ofTokens_eq_ok.mp hp
  have hapart : Token.AreApart y.tokens := hderives.areApart ⟨List.isChain_nil, nofun⟩
  have hrepeats (number : Nat) (l : Literal) (hl : t.literal? number = some l) : l.Repeats :=
    Template.repeats_of_mem_literals ht (Template.mem_of_literal?_eq_some hl)
  have hrelifts : Relifts false (y.pieces ⟨t.literal?, text⟩ 0) :=
    Layout.relifts_pieces hwhole hrepeats hapart (fun h : false = true => nomatch h) 0
  have hlifted := Template.ofText_written hrelifts (Layout.aligned_pieces hwhole 0) hwhen
  rw [Layout.written_pieces hwhole] at hlifted
  obtain ⟨hnumbers, hdigits⟩ :=
    (scans_of_scanFrom (Template.isSound_ofText ht) (Nat.zero_le _) hs).numbers
  obtain ⟨scanned, hscan, halike⟩ := Layout.scanFrom_pieces hwhole hapart hnumbers hdigits 0
  have hpayloads : (literalsOf (y.pieces ⟨t.literal?, text⟩ 0)).map Literal.payload =
      (literalsOf t.pieces).map Literal.payload := by
    rw [Layout.map_payload_literalsOf hwhole, ← hpieces,
      Layout.map_payload_literalsOf (by rwa [hx]), hx]
  let other : Template := ⟨y.pieces ⟨t.literal?, text⟩ 0, none⟩
  have hliterals : SamePayloads t.literal? other.literal? := Template.samePayloads hpayloads
  obtain ⟨rest, hsame, hrest⟩ := hderives.alike hliterals halike
  obtain rfl : rest = [] := List.map_eq_nil_iff.mp hrest
  rw [← String.toList_ofList (l := y.text _)] at hlifted
  exact readPattern_of_ok hlifted hscan (Reading.ofTokens_eq_ok.mpr hsame)

/-- No condition begins in a layout if the word `when` stands between blanks only in literals. -/
theorem Layout.not_whenAmong (ht : Template.ofText text.toList = .ok t)
    (hs : Token.scan t.cells = .ok tokens) (hy : y.tokens = tokens)
    (hwhen : ∀ k, HasWhenAt (y.text ⟨t.literal?, text⟩) k →
      ∃ l ∈ y.literals ⟨t.literal?, text⟩, l.Covers k) (i : Nat) :
    ¬ WhenAmong (y.pieces ⟨t.literal?, text⟩ 0) i := by
  obtain ⟨-, hwhole⟩ := exists_of_scan ht hs
  subst hy
  have hraw (number : Nat) (l : Literal) (hl : t.literal? number = some l) : l.raw ≠ [] :=
    Template.raw_ne_nil ht (Template.mem_of_literal?_eq_some hl)
  intro hamong
  obtain ⟨hplace, hclear⟩ := (hasWhenAt_written_iff (aligned_pieces hwhole 0)
    (raw_ne_nil_of_mem_pieces hwhole hraw 0)).mpr ⟨i, hamong, rfl⟩
  rw [written_pieces hwhole] at hplace
  obtain ⟨l, hl, hcovers⟩ := hwhen _ hplace
  have hfirst := hclear l hl 1 (by decide)
  rw [Nat.sub_add_cancel hplace.pos] at hfirst
  exact hfirst hcovers

/-- Blanks between tokens mean nothing. Take a text that compiles without a condition. It is a layout of
its tokens, and from every layout of the same tokens the same pattern is read, without a condition,
unless the word `when` stands between blanks outside its literals. In particular the blanks outside
literals may all be deleted. -/
theorem compile_layout {compiled : Compiled} (h : compile text = .ok compiled)
    (hnone : compiled.condition = none) :
    ∃ t tokens, Template.ofText text.toList = .ok t ∧ Token.scan t.cells = .ok tokens ∧
      (∃ y : Layout, y.tokens = tokens ∧ y.pieces ⟨t.literal?, text⟩ 0 = t.pieces ∧
        y.text ⟨t.literal?, text⟩ = text.toList) ∧
      (∀ y : Layout, y.tokens = tokens →
        (∀ k, HasWhenAt (y.text ⟨t.literal?, text⟩) k →
          ∃ l ∈ y.literals ⟨t.literal?, text⟩, l.Covers k) →
        ∃ other, compile (String.ofList (y.text ⟨t.literal?, text⟩)) = .ok other ∧
          other.condition = none ∧ other.tree = compiled.tree) ∧
      ∃ other, compile (String.ofList (written (t.pieces.filter fun piece => !piece.isBlank))) =
          .ok other ∧
        other.condition = none ∧ other.tree = compiled.tree := by
  have hread : readPattern text = .ok (compiled.tree, none) := by
    rw [← hnone]
    exact (compile_eq_ok_iff.mp h).1
  obtain ⟨t, tokens, ht, hs, hp, -⟩ := readPattern_eq_ok hread
  rw [Template.patternCells_eq_cells,
    Template.patternRow_of_none (patternPieces_of_readPattern hread ht)] at hs
  obtain ⟨⟨x, rfl, hpieces⟩, hwhole⟩ := Layout.exists_of_scan ht hs
  refine ⟨t, x.tokens, ht, hs, ⟨x, rfl, hpieces, ?_⟩, ?_, ?_⟩
  · rw [← Layout.written_pieces hwhole 0, hpieces]
    exact (Template.aligned_ofText ht).1
  · intro y hy hwhen
    have hsame := readPattern_layout ht hs hp hy (Layout.not_whenAmong ht hs hy hwhen)
    exact ⟨_, compile_of_readPattern hsame, rfl, rfl⟩
  · have hblank := Layout.isBlank_pieces_map_token hwhole 0
    have hsame := readPattern_layout ht hs hp (Layout.tokens_map_token x.tokens)
      (not_whenAmong_of_isBlank hblank)
    rw [← Layout.written_filter_pieces hwhole 0, hpieces] at hsame
    exact ⟨_, compile_of_readPattern hsame, rfl, rfl⟩

/-- A name that is the word `when`, behind a blank and before a comma, and a text with a blank in it. -/
theorem compile_layout_when :
    let tree := Pattern.sequence
      [.text "a b", .variable "when" false, .number (.integer (-1)), .variable "rest" true]
    compile "['a b' , when,\t-1 | rest ]" =
        .ok ⟨"['a b' , when,\t-1 | rest ]", Text.Digest.ofString "['a b' , when,\t-1 | rest ]",
          tree, none⟩ ∧
      (∃ other, compile "[ 'a b',\n when,-1|rest]" = .ok other ∧ other.condition = none ∧
        other.tree = tree) ∧
      ∃ other, compile "['a b',when,-1|rest]" = .ok other ∧ other.condition = none ∧
        other.tree = tree := by
  intro tree
  have hread : readPattern "['a b' , when,\t-1 | rest ]" = .ok (tree, none) := by
    rfl
  have hcompile := compile_of_readPattern hread
  let template : Template := ⟨[.plain '[' 0, .literal ⟨.text "a b".toList, "'a b'".toList, 1⟩,
    .plain ' ' 6, .plain ',' 7, .plain ' ' 8, .plain 'w' 9, .plain 'h' 10, .plain 'e' 11,
    .plain 'n' 12, .plain ',' 13, .plain '\t' 14,
    .literal ⟨.number (.integer (-1)), "-1".toList, 15⟩, .plain ' ' 17, .plain '|' 18, .plain ' ' 19,
    .plain 'r' 20, .plain 'e' 21, .plain 's' 22, .plain 't' 23, .plain ' ' 24, .plain ']' 25], none⟩
  have htemplate : Template.ofText "['a b' , when,\t-1 | rest ]".toList = .ok template := by
    rfl
  have hscan : Token.scan template.cells = .ok [⟨.openBracket, 0, 1⟩, ⟨.literal 1, 1, 4⟩,
      ⟨.comma, 7, 1⟩, ⟨.name "when", 9, 4⟩, ⟨.comma, 13, 1⟩, ⟨.literal 2, 15, 4⟩, ⟨.pipe, 18, 1⟩,
      ⟨.name "rest", 20, 4⟩, ⟨.closeBracket, 25, 1⟩] := by
    rfl
  obtain ⟨t, tokens, ht, hs, -, hlayout, hcompact⟩ := compile_layout hcompile rfl
  obtain rfl : template = t := Except.ok.inj (htemplate.symm.trans ht)
  obtain rfl := Except.ok.inj (hscan.symm.trans hs)
  let y : Layout := [.token ⟨.openBracket, 0, 1⟩, .blank ' ' (by decide), .token ⟨.literal 1, 1, 4⟩,
    .token ⟨.comma, 7, 1⟩, .blank '\n' (by decide), .blank ' ' (by decide),
    .token ⟨.name "when", 9, 4⟩, .token ⟨.comma, 13, 1⟩, .token ⟨.literal 2, 15, 4⟩,
    .token ⟨.pipe, 18, 1⟩, .token ⟨.name "rest", 20, 4⟩, .token ⟨.closeBracket, 25, 1⟩]
  have htext : y.text ⟨template.literal?, "['a b' , when,\t-1 | rest ]"⟩ =
      "[ 'a b',\n when,-1|rest]".toList := by
    decide +kernel
  refine ⟨hcompile, ?_, hcompact⟩
  have hsame := hlayout y rfl
  rw [htext, String.ofList_toList] at hsame
  apply hsame
  intro k hk
  have hlength : k < 23 := by
    by_contra hbeyond
    have hword := hk.word
    rw [List.drop_eq_nil_of_le ((by decide : _ ≤ 23).trans (Nat.not_lt.mp hbeyond))] at hword
    cases hword
  have hcomma : ∀ k < 23, ("[ 'a b',\n when,-1|rest]".toList.drop k).take 4 = ['w', 'h', 'e', 'n'] →
      "[ 'a b',\n when,-1|rest]".toList[k + 4]? = some ',' := by
    decide
  obtain ⟨c, hc, hblank⟩ := hk.after
  cases (hcomma k hlength hk.word).symm.trans hc
  cases hblank

end Destructure
