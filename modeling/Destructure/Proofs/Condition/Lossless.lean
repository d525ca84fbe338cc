import Destructure.Proofs.Condition.Description
import Destructure.Proofs.Condition.Slice

namespace Destructure.Condition

namespace Token

variable {p : Int} {cs rest text own : List Char} {lexeme : Lexeme} {tokens : List Token}
  {offset : Int}

def slice (text : List Char) (offset : Int) (t : Token) : List Char :=
  (text.drop (t.position - offset).toNat).take t.length

def Covers (t : Token) (place : Int) : Prop :=
  t.position ≤ place ∧ place < t.position + t.length

/-- Tokens come one behind the other, and none begins among the characters to be skipped. -/
theorem Scans.pairwise {skip : Nat} (h : Scans skip p cs tokens) :
    tokens.Pairwise (fun t u : Token => t.position + t.length ≤ u.position) ∧
      ∀ t ∈ tokens, p + skip ≤ t.position := by
  induction h with
  | nil => exact ⟨.nil, fun t ht => nomatch ht⟩
  | skip h ih | blank hb h ih =>
    obtain ⟨hapart, hfrom⟩ := ih
    refine ⟨hapart, fun t ht => ?_⟩
    have hle := hfrom t ht
    omega
  | token hb hl h ih =>
    obtain ⟨hapart, hfrom⟩ := ih
    refine ⟨List.pairwise_cons.mpr ⟨fun t ht => ?_, hapart⟩,
      List.forall_mem_cons.mpr ⟨by simp, fun t ht => ?_⟩⟩
    · have hle := hfrom t ht
      dsimp only
      omega
    · have hle := hfrom t ht
      omega

/-- What lies in no token is blank, apart from the characters to be skipped. -/
theorem Scans.isBlank {skip : Nat} (h : Scans skip p cs tokens) {i : Nat} (hi : i < cs.length)
    (hs : skip ≤ i) (ho : ∀ t ∈ tokens, ¬ t.Covers (p + i)) : Text.isBlank cs[i] = true := by
  induction h generalizing i with
  | nil => exact absurd hi (Nat.not_lt_zero i)
  | @skip skip p c rest tokens h ih =>
    cases i with
    | zero => omega
    | succ i =>
      refine ih (Nat.lt_of_succ_lt_succ hi) (Nat.le_of_succ_le_succ hs) fun t ht => ?_
      rw [Int.add_assoc, Int.add_comm 1]
      exact ho t ht
  | @blank p c rest tokens hb h ih =>
    cases i with
    | zero => exact hb
    | succ i =>
      refine ih (Nat.lt_of_succ_lt_succ hi) (Nat.zero_le i) fun t ht => ?_
      rw [Int.add_assoc, Int.add_comm 1]
      exact ho t ht
  | @token p c rest lexeme length more hb hl h ih =>
    obtain ⟨hhead, hrest⟩ := List.forall_mem_cons.mp ho
    obtain ⟨own, after, -, hne, rfl, -⟩ := lexemeAt_front hl
    have hown := List.length_pos_iff.mpr hne
    have hbehind : own.length ≤ i := by
      rw [← Nat.not_lt]
      intro hlt
      refine hhead ⟨?_, ?_⟩ <;> dsimp only <;> omega
    cases i with
    | zero => omega
    | succ i =>
      refine ih (Nat.lt_of_succ_lt_succ hi) (by omega) fun t ht => ?_
      rw [Int.add_assoc, Int.add_comm 1]
      exact hrest t ht

/-- A token stands in its text as a slice of as many characters as its length says. -/
theorem slice_of_scan (h : scan text offset = .ok tokens) {t : Token} (ht : t ∈ tokens) :
    offset ≤ t.position ∧ (slice text offset t).length = t.length ∧ slice text offset t ≠ [] ∧
      t.lexeme.IsWrittenAs (slice text offset t) := by
  obtain ⟨before, own, after, rfl, hposition, hne, hlength, hwritten⟩ :=
    (scanFrom_eq_ok.mp h).exists_slice ht
  have hskip : (t.position - offset).toNat = before.length := by
    omega
  have hslice : slice (before ++ (own ++ after)) offset t = own := by
    rw [slice, hskip, List.drop_left, ← hlength, List.take_left]
  rw [hslice]
  exact ⟨by omega, hlength, hne, hwritten⟩

theorem isBoundary_of_blank (hr : ∀ d ∈ rest.head?, d = ' ') : IsBoundary rest := by
  intro d hd
  rw [hr d hd]
  decide

/-- What a token is written as is read as that token, if nothing but a blank follows. -/
theorem readsAs_of_isWrittenAs (hs : lexeme.IsScanned) (hw : lexeme.IsWrittenAs own)
    (hr : ∀ d ∈ rest.head?, d = ' ') : ReadsAs own rest [lexeme] := by
  have hboundary := isBoundary_of_blank hr
  have hname (d : Char) (hd : d ∈ rest.head?) := (hboundary d hd).1
  match lexeme with
  | .openParen =>
    obtain rfl : own = ['('] := hw
    exact readsAs_openParen rest
  | .closeParen =>
    obtain rfl : own = [')'] := hw
    exact readsAs_closeParen rest
  | .constant (.number value) =>
    obtain ⟨n, hsplit, hnumeral⟩ := hw
    exact readsAs_numeral hsplit (fun d hd => (hboundary d hd).2) hnumeral
  | .constant (.text value) =>
    obtain ⟨quote, inner, hq, rfl, hquoted⟩ := hw
    have hread := readsAs_quoted hq hquoted rest
    rwa [String.ofList_toList] at hread
  | .constant (.boolean true) =>
    obtain rfl : own = ['t', 'r', 'u', 'e'] := hw
    have hword : ∀ d ∈ ['r', 'u', 'e'], Text.isNameChar d = true := List.all_eq_true.mp rfl
    exact readsAs_word (by decide) hword hname
  | .constant (.boolean false) =>
    obtain rfl : own = ['f', 'a', 'l', 's', 'e'] := hw
    have hword : ∀ d ∈ ['a', 'l', 's', 'e'], Text.isNameChar d = true := List.all_eq_true.mp rfl
    exact readsAs_word (by decide) hword hname
  | .name name =>
    obtain rfl : own = name.toList := hw
    exact readsAs_name hs hboundary
  | .negation =>
    obtain rfl : own = ['n', 'o', 't'] := hw
    have hword : ∀ d ∈ ['o', 't'], Text.isNameChar d = true := List.all_eq_true.mp rfl
    exact readsAs_word (by decide) hword hname
  | .operator op =>
    obtain rfl : own = op.text.toList := hw
    exact readsAs_operator_of_blank op hr

/-- What tokens are written as, with single blanks between, is read as these tokens. -/
theorem readsAs_intercalate {slices : List (List Char)} {lexemes : List Lexeme}
    (h : List.Forall₂ (fun own lexeme => lexeme.IsScanned ∧ lexeme.IsWrittenAs own) slices lexemes) :
    ReadsAs (List.intercalate [' '] slices) [] lexemes := by
  induction h with
  | nil => exact readsAs_blanks fun c hc => nomatch hc
  | @cons own lexeme slices lexemes hown hrest ih =>
    cases hrest with
    | nil =>
      rw [List.intercalate_singleton]
      exact readsAs_of_isWrittenAs hown.1 hown.2 fun d hd => nomatch hd
    | cons hnext hlater =>
      rw [List.intercalate_cons_cons, List.append_assoc]
      refine (readsAs_of_isWrittenAs hown.1 hown.2 ?_).append ((readsAs_blank _).append ih)
      exact fun d hd => (Option.some.inj hd).symm

/-- Cutting a condition into tokens loses nothing but blanks, and looks at no more than one token at a
time. -/
theorem scan_lossless (h : scan text offset = .ok tokens) :
    (∀ t ∈ tokens, offset ≤ t.position ∧ (slice text offset t).length = t.length ∧
      slice text offset t ≠ []) ∧
    tokens.Pairwise (fun t u : Token => t.position + t.length ≤ u.position) ∧
    (∀ (i : Nat) (hi : i < text.length), (∀ t ∈ tokens, ¬ t.Covers (offset + i)) →
      Text.isBlank text[i] = true) ∧
    (∀ t ∈ tokens, ∀ place, ∃ alone, scan (slice text offset t) place = .ok [alone] ∧
      alone.lexeme = t.lexeme) ∧
    ∀ place, ∃ spaced,
      scan (List.intercalate [' '] (tokens.map (slice text offset))) place = .ok spaced ∧
        spaced.map Token.lexeme = tokens.map Token.lexeme := by
  have hscans := scanFrom_eq_ok.mp h
  have hown (t : Token) (ht : t ∈ tokens) :
      t.lexeme.IsScanned ∧ t.lexeme.IsWrittenAs (slice text offset t) :=
    ⟨isScanned_of_scans hscans t ht, (slice_of_scan h ht).2.2.2⟩
  refine ⟨fun t ht => ?_, hscans.pairwise.1, fun i hi ho => hscans.isBlank hi (Nat.zero_le i) ho,
    fun t ht place => ?_, fun place => ?_⟩
  · obtain ⟨hoffset, hlength, hne, -⟩ := slice_of_scan h ht
    exact ⟨hoffset, hlength, hne⟩
  · have hread : ReadsAs (slice text offset t) [] [t.lexeme] :=
      readsAs_of_isWrittenAs (hown t ht).1 (hown t ht).2 fun d hd => nomatch hd
    obtain ⟨found, hfound, hlexemes⟩ := hread.scan place
    obtain ⟨alone, rfl, hlexeme⟩ := List.map_eq_singleton_iff.mp hlexemes
    exact ⟨alone, hfound, hlexeme⟩
  · refine (readsAs_intercalate ?_).scan place
    rw [List.forall₂_map_left_iff, List.forall₂_map_right_iff, List.forall₂_same]
    exact hown

/-- Words, operators, quotes and numbers need no blanks between them: a number goes no further than its
digits, and another one may begin with the next point. -/
theorem scan_lossless_adjacent :
    let tokens : List Token := [⟨.name "n1and", 7, 5⟩, ⟨.operator .le, 12, 2⟩,
      ⟨.constant (.text "a"), 14, 3⟩, ⟨.constant (.text "b"), 17, 3⟩,
      ⟨.constant (.number (.integer 1)), 21, 1⟩, ⟨.name "e", 22, 1⟩,
      ⟨.constant (.number (.float (.zero false))), 23, 2⟩,
      ⟨.constant (.number (.float (.zero false))), 25, 2⟩]
    scan "n1and<='a''b' 1e.0.0".toList 7 = .ok tokens ∧
      ∃ spaced, scan "n1and <= 'a' 'b' 1 e .0 .0".toList 0 = .ok spaced ∧
        spaced.map Token.lexeme = tokens.map Token.lexeme := by
  intro tokens
  have h : scan "n1and<='a''b' 1e.0.0".toList 7 = .ok tokens := by rfl
  have hslices : List.intercalate [' '] (tokens.map (slice "n1and<='a''b' 1e.0.0".toList 7)) =
      "n1and <= 'a' 'b' 1 e .0 .0".toList := by rfl
  have hspaced := (scan_lossless h).2.2.2.2 0
  rw [hslices] at hspaced
  exact ⟨h, hspaced⟩

end Token

end Destructure.Condition
