import Destructure.Proofs.Template.Occurrence
import Mathlib.Data.List.Flatten
import Mathlib.Order.Bounds.Image

/-!
The search for the condition is exact. While the literals are lifted out, character after character,
the place of the condition is decided from the word that has been read last, and once. Main statement:
what has been decided at the end is where a plain search of the template text first finds the word
`when` between two blanks, and where a search of the pattern text first finds it outside literals.
-/

namespace Destructure

def Finds (found : Option Nat) (places : Set Nat) : Prop :=
  match found with
  | some k => IsLeast places k
  | none => places = ∅

section Finds

variable {found : Option Nat} {places : Set Nat} {k : Nat}

theorem Finds.eq_some_iff (h : Finds found places) : found = some k ↔ IsLeast places k := by
  cases found with
  | none =>
    obtain rfl : places = ∅ := h
    exact ⟨fun hk => (nomatch hk), fun hk => absurd hk.1 (Set.notMem_empty k)⟩
  | some n =>
    have hn : IsLeast places n := h
    constructor
    · rintro ⟨⟩
      exact hn
    · intro hk
      rw [hn.unique hk]

theorem Finds.eq_none_iff (h : Finds found places) : found = none ↔ ∀ k, k ∉ places := by
  cases found with
  | none => exact ⟨fun _ => Set.eq_empty_iff_forall_notMem.mp h, fun _ => rfl⟩
  | some n =>
    have hn : IsLeast places n := h
    exact ⟨fun hk => (nomatch hk), fun hk => absurd hn.1 (hk n)⟩

/-- What has been found in a set is found in the image of the set where its image is. -/
theorem Finds.map (h : Finds found places) {g : Nat → Nat} (hg : Monotone g) :
    Finds (found.map g) (g '' places) := by
  cases found with
  | none =>
    obtain rfl : places = ∅ := h
    exact Set.image_empty g
  | some n => exact hg.map_isLeast h

end Finds

namespace Lifting

variable {s t : Lifting} {c : Char} {cs : List Char} {piece : Piece} {i p : Nat}

theorem lt_of_whenAmong {pieces : List Piece} (h : WhenAmong pieces i) : i + 4 < pieces.length := by
  obtain ⟨before, b, c, after, -, -, hpieces, rfl⟩ := h
  have hlength := congrArg List.length hpieces
  simp only [List.length_map, List.length_append, delimitedWhen, List.length_cons,
    List.length_nil] at hlength
  omega

/-- The last pieces are the word behind a blank. -/
theorem endsInWhen_iff_reverse :
    s.endsInWhen = true ↔
      ∃ before b, Text.isBlank b = true ∧
        s.pieces.reverse.map Piece.char? = before ++ [some b, some 'w', some 'h', some 'e', some 'n'] := by
  rw [endsInWhen_iff, List.map_reverse]
  constructor
  · rintro ⟨b, hb, more, hmore⟩
    refine ⟨more.reverse, b, hb, ?_⟩
    rw [← hmore, List.reverse_append]
    rfl
  · rintro ⟨before, b, hb, h⟩
    refine ⟨b, hb, before.reverse, ?_⟩
    have hpieces := congrArg List.reverse h
    rw [List.reverse_reverse, List.reverse_append] at hpieces
    exact hpieces.symm

/-- One more piece completes the word if it is a blank and the word with a blank before it comes right
before. -/
theorem whenAmong_push :
    WhenAmong (piece :: s.pieces).reverse i ↔
      WhenAmong s.pieces.reverse i ∨
        (s.endsInWhen = true ∧ ∃ c ∈ piece.char?, Text.isBlank c = true) ∧
          i = s.pieces.length - 4 := by
  have hpush : (piece :: s.pieces).reverse.map Piece.char? =
      s.pieces.reverse.map Piece.char? ++ [piece.char?] := by
    rw [List.reverse_cons, List.map_append]
    rfl
  have hlength : s.pieces.length = (s.pieces.reverse.map Piece.char?).length := by
    rw [List.length_map, List.length_reverse]
  constructor
  · rintro ⟨before, b, c, after, hb, hc, hpieces, hi⟩
    rw [hpush] at hpieces
    rcases List.eq_nil_or_concat after with rfl | ⟨after, last, rfl⟩
    · have hsplit : s.pieces.reverse.map Piece.char? ++ [piece.char?] =
          (before ++ [some b, some 'w', some 'h', some 'e', some 'n']) ++ [some c] := by
        rw [hpieces]
        simp [delimitedWhen]
      obtain ⟨hwhen, hlast⟩ := List.append_inj' hsplit rfl
      refine Or.inr ⟨⟨endsInWhen_iff_reverse.mpr ⟨before, b, hb, hwhen⟩, c, ?_, hc⟩, ?_⟩
      · exact List.head_eq_of_cons_eq hlast
      · rw [hlength, hwhen, List.length_append, ← hi]
        rfl
    · have hsplit : s.pieces.reverse.map Piece.char? ++ [piece.char?] =
          (before ++ ((delimitedWhen b c).map some ++ after)) ++ [last] := by
        rw [hpieces]
        simp
      obtain ⟨hbefore, -⟩ := List.append_inj' hsplit rfl
      exact Or.inl ⟨before, b, c, after, hb, hc, hbefore, hi⟩
  · rintro (⟨before, b, c, after, hb, hc, hpieces, hi⟩ | ⟨⟨hwhen, c, hlast, hc⟩, rfl⟩)
    · refine ⟨before, b, c, after ++ [piece.char?], hb, hc, ?_, hi⟩
      rw [hpush, hpieces]
      simp
    · obtain ⟨before, b, hb, hpieces⟩ := endsInWhen_iff_reverse.mp hwhen
      refine ⟨before, b, c, [], hb, hc, ?_, ?_⟩
      · rw [hpush, hpieces, Option.mem_def.mp hlast]
        simp [delimitedWhen]
      · rw [hlength, hpieces, List.length_append]
        rfl

def FindsWhen (s : Lifting) : Prop :=
  Finds s.patternPieces {i | WhenAmong s.pieces.reverse i}

/-- A piece is added that does not complete the word. -/
theorem FindsWhen.keep (hs : s.FindsWhen) (piece : Piece)
    (hpiece : ¬ (s.endsInWhen = true ∧ ∃ c ∈ piece.char?, Text.isBlank c = true))
    (hp : t.pieces = piece :: s.pieces) (hk : t.patternPieces = s.patternPieces) : t.FindsWhen := by
  unfold FindsWhen
  simp only [hp, hk, whenAmong_push, hpiece, false_and, or_false]
  exact hs

/-- A blank completes the word. If the condition has not begun yet, it begins there. -/
theorem FindsWhen.begin (hs : s.FindsWhen) (hwhen : s.endsInWhen = true)
    (hc : Text.isBlank c = true) (hp : t.pieces = .plain c p :: s.pieces)
    (hk : t.patternPieces = (s.beginCondition c).patternPieces) : t.FindsWhen := by
  have hplaces : {i | WhenAmong t.pieces.reverse i} =
      {i | WhenAmong s.pieces.reverse i ∨ i = s.pieces.length - 4} := by
    ext i
    rw [hp, Set.mem_ofPred_eq, whenAmong_push, and_iff_right ⟨hwhen, c, rfl, hc⟩]
    rfl
  have hbegin : (s.beginCondition c).patternPieces =
      some (s.patternPieces.getD (s.pieces.length - 4)) := by
    rw [beginCondition, hc, hwhen]
    cases hfound : s.patternPieces <;> simp [hfound]
  unfold FindsWhen at hs ⊢
  rw [hk, hplaces, hbegin]
  cases hfound : s.patternPieces with
  | none =>
    rw [hfound] at hs
    have hnone : ∀ i, ¬ WhenAmong s.pieces.reverse i := hs.eq_none_iff.mp rfl
    refine ⟨Or.inr rfl, ?_⟩
    rintro i (hi | rfl)
    · exact absurd hi (hnone i)
    · exact Nat.le_refl _
  | some n =>
    rw [hfound] at hs
    obtain ⟨hn, hleast⟩ : IsLeast {i | WhenAmong s.pieces.reverse i} n := hs
    have hlt : n + 4 < s.pieces.length := by
      have h := lt_of_whenAmong hn
      rwa [List.length_reverse] at h
    refine ⟨Or.inl hn, ?_⟩
    rintro i (hi | rfl)
    · exact hleast hi
    · change n ≤ s.pieces.length - 4
      omega

theorem FindsWhen.settles (hs : s.FindsWhen) (hsign : s.HoldsSign) (h : s.Settles t) :
    t.FindsWhen := by
  cases h with
  | outside hm => exact hs
  | sign d hm =>
    have hd : Text.isBlank d = false := isBlank_of_opens (.inr (.inr (.inr (hsign d hm))))
    refine hs.keep (.plain d (s.position - 1)) ?_ rfl rfl
    rintro ⟨-, e, he, hblank⟩
    cases he
    cases hd.symm.trans hblank
  | close opened payload hm =>
    refine hs.keep (.literal ⟨payload, opened.raw.reverse, opened.start⟩) ?_ rfl rfl
    rintro ⟨-, e, he, -⟩
    cases he

theorem findsWhen_outside (hs : s.FindsWhen) (h : s.outside c = .ok t) : t.FindsWhen := by
  obtain ⟨-, rfl⟩ := outside_eq_ok.mp h
  by_cases hcomplete : s.endsInWhen = true ∧ Text.isBlank c = true
  · obtain ⟨hwhen, hc⟩ := hcomplete
    rw [enter_of_isBlank hc]
    refine hs.begin (p := (s.beginCondition c).position) hwhen hc ?_ rfl
    rw [emit_eq_state, pieces_state, pieces_beginCondition]
  · have hsame : s.beginCondition c = s := by
      apply beginCondition_of_not_blank
      rw [← Bool.not_eq_true, ← Bool.not_eq_true]
      exact (not_and_or.mp hcomplete).symm
    rw [hsame]
    rcases s.enter_cases c with henter | ⟨mode, -, henter⟩
    · rw [henter]
      refine hs.keep (.plain c s.position) ?_ rfl rfl
      rintro ⟨hwhen, d, hd, hblank⟩
      cases hd
      exact hcomplete ⟨hwhen, hblank⟩
    · rw [henter]
      exact hs

theorem findsWhen_step (hs : s.FindsWhen) (hsign : s.HoldsSign) (h : s.step c = .ok t) :
    t.FindsWhen := by
  obtain ⟨u, hu, rfl⟩ := step_eq_ok.mp h
  change u.FindsWhen
  rcases advance_cases hu with ⟨mode, -, rfl⟩ | hsettles | ⟨v, hv, houtside⟩
  · exact hs
  · exact hs.settles hsign hsettles
  · exact findsWhen_outside (hs.settles hsign hv) houtside

theorem findsWhen_foldlM (h : cs.foldlM step start = .ok s) : s.FindsWhen := by
  have hstart : start.FindsWhen ∧ start.HoldsSign := by
    refine ⟨?_, fun d hd => nomatch hd⟩
    apply Set.eq_empty_iff_forall_notMem.mpr
    intro i hi
    exact absurd (lt_of_whenAmong hi) (Nat.not_lt_zero _)
  exact (Run.invariant (P := fun s => s.FindsWhen ∧ s.HoldsSign)
    (fun _ _ _ _ hs h => ⟨findsWhen_step hs.1 hs.2 h, holdsSign_step h⟩) hstart h).1

end Lifting

namespace Template

variable {text : List Char} {t : Template}

/-- Lifting finds the first place of the word among the pieces. -/
theorem finds_patternPieces (h : ofText text = .ok t) :
    Finds t.patternPieces {i | WhenAmong t.pieces i} := by
  obtain ⟨s, u, hs, hu, rfl⟩ := ofText_eq_ok.mp h
  exact (Lifting.findsWhen_foldlM hs).settles (Lifting.holdsSign_foldlM hs) (Lifting.finish_settles hu)

theorem monotone_length_written (pieces : List Piece) :
    Monotone fun i => (written (pieces.take i)).length := by
  intro i j hij
  have hsublist : (pieces.take i).Sublist (pieces.take j) := (List.take_prefix_take_left hij).sublist
  exact (hsublist.flatMap Piece.raw).length_le

theorem monotone_length_cells (pieces : List Piece) :
    Monotone fun i => (Destructure.cells 1 (pieces.take i)).length := by
  have hlength (i : Nat) : (Destructure.cells 1 (pieces.take i)).length =
      (written ((marked 1 0 pieces).take i)).length := by
    rw [take_marked, written_marked, List.length_map]
  intro i j hij
  dsimp only
  rw [hlength, hlength]
  exact monotone_length_written _ hij

/-- Lifting finds the first place of the word in the template text. -/
theorem finds_conditionOffset (h : ofText text = .ok t) :
    Finds t.conditionOffset {k | HasWhenAt t.text k} := by
  have hplaces : {k | HasWhenAt t.text k} =
      (fun i => (Destructure.cells 1 (t.pieces.take i)).length) '' {i | WhenAmong t.pieces i} :=
    Set.ext fun k => hasWhenAt_cells_iff
  rw [hplaces]
  exact (finds_patternPieces h).map (monotone_length_cells t.pieces)

theorem hasWhenAt_outside_iff (h : ofText text = .ok t) {p : Nat} :
    (HasWhenAt text p ∧ ∀ l ∈ t.literals, ¬ l.Covers p) ↔
      ∃ i, WhenAmong t.pieces i ∧ (written (t.pieces.take i)).length = p := by
  obtain ⟨rfl, haligned⟩ := aligned_ofText h
  have hdelimited {l : Literal} (hl : l ∈ t.literals) := isDelimited_of_mem_literals h hl
  have hne : ∀ piece ∈ t.pieces, piece.raw ≠ [] := by
    intro piece hm
    cases piece with
    | plain c position => exact List.cons_ne_nil _ _
    | literal l =>
      obtain ⟨c, rest, hraw, -⟩ := (hdelimited (mem_literalsOf.mpr hm)).first
      rw [Piece.raw, hraw]
      exact List.cons_ne_nil _ _
  rw [← hasWhenAt_written_iff haligned hne]
  apply and_congr_right
  intro hwhen
  constructor
  · intro hclear l hl i hi
    have hslice : l.raw <+: (written t.pieces).drop l.position :=
      haligned.isPrefix_drop (mem_literalsOf.mp hl)
    exact (hdelimited hl).clear hslice hwhen (hclear l hl) hi
  · intro hclear l hl
    have hfirst := hclear l hl 1 (by decide)
    rwa [Nat.sub_add_cancel hwhen.pos] at hfirst

/-- Lifting finds the first place of the word outside literals in the pattern text. -/
theorem finds_conditionPosition (h : ofText text = .ok t) :
    Finds t.conditionPosition {p | HasWhenAt text p ∧ ∀ l ∈ t.literals, ¬ l.Covers p} := by
  have hplaces : {p | HasWhenAt text p ∧ ∀ l ∈ t.literals, ¬ l.Covers p} =
      (fun i => (written (t.pieces.take i)).length) '' {i | WhenAmong t.pieces i} :=
    Set.ext fun p => hasWhenAt_outside_iff h
  rw [hplaces]
  exact (finds_patternPieces h).map (monotone_length_written t.pieces)

/-- Where the condition begins in the template text, there begins the part of the pattern text that it
begins with. -/
theorem offsets_conditionOffset (h : ofText text = .ok t) {k : Nat} (hk : t.conditionOffset = some k) :
    ∃ p : Nat, t.conditionPosition = some p ∧ t.offsets[k]? = some (p : Int) := by
  obtain ⟨count, hcount, rfl⟩ := Option.map_eq_some_iff.mp hk
  have hfinds := finds_patternPieces h
  rw [hcount] at hfinds
  obtain ⟨before, b, c, after, -, -, hpieces, hlength⟩ : WhenAmong t.pieces count := hfinds.1
  have hdrop : (t.pieces.drop count).map Piece.char? =
      some 'w' :: ([some 'h', some 'e', some 'n', some c] ++ after) := by
    rw [List.map_drop, hpieces, ← hlength, List.drop_append, List.drop_eq_nil_of_le (Nat.le_succ _),
      Nat.add_sub_cancel_left]
    rfl
  obtain ⟨q, rest, hrest, -⟩ := Piece.map_char?_eq_cons.mp hdrop
  have hsplit : t.pieces = t.pieces.take count ++ .plain 'w' q :: rest := by
    rw [← hrest, List.take_append_drop]
  have hplace : q = (written (t.pieces.take count)).length := by
    have haligned := (aligned_ofText h).2
    rw [hsplit] at haligned
    have hq := (aligned_append.mp haligned).2.1
    rwa [Nat.zero_add] at hq
  refine ⟨q, ?_, ?_⟩
  · rw [conditionPosition, hcount, hplace]
    rfl
  · have hcells : t.cells = Destructure.cells 1 (t.pieces.take count) ++
        Destructure.cells (1 + (literalsOf (t.pieces.take count)).length) (.plain 'w' q :: rest) := by
      rw [← cells_append, ← hsplit]
      rfl
    rw [offsets, hcells, List.map_append, List.getElem?_append_right (by rw [List.length_map]),
      List.length_map, Nat.sub_self]
    rfl

/-- The condition begins at the first place of the template text where the word `when` stands between
two blanks, and there is none if the word stands so nowhere. In the pattern text that is its first
place outside literals, and the positions lead from the one to the other. -/
theorem condition_exact (h : ofText text = .ok t) :
    (∀ k, t.conditionOffset = some k ↔ IsLeast {k | HasWhenAt t.text k} k) ∧
    (t.conditionOffset = none ↔ ∀ k, ¬ HasWhenAt t.text k) ∧
    (∀ p, t.conditionPosition = some p ↔
      IsLeast {p | HasWhenAt text p ∧ ∀ l ∈ t.literals, ¬ l.Covers p} p) ∧
    (t.conditionPosition = none ↔ ∀ p, HasWhenAt text p → ∃ l ∈ t.literals, l.Covers p) ∧
    ∀ k, t.conditionOffset = some k →
      ∃ p : Nat, t.conditionPosition = some p ∧ t.offsets[k]? = some (p : Int) := by
  have hoffset := finds_conditionOffset h
  have hposition := finds_conditionPosition h
  refine ⟨fun k => hoffset.eq_some_iff, hoffset.eq_none_iff, fun p => hposition.eq_some_iff, ?_,
    fun k hk => offsets_conditionOffset h hk⟩
  rw [hposition.eq_none_iff]
  apply forall_congr'
  intro p
  simp only [Set.mem_ofPred_eq, not_and, not_forall, not_not, exists_prop]

/-- The word in a literal and in a longer name begins no condition. -/
theorem condition_exact_words :
    ∃ t, ofText "[' when ', whenever] when x".toList = .ok t ∧
      t.text = "[\x00S1\x00, whenever] when x".toList ∧ IsLeast {k | HasWhenAt t.text k} 17 ∧
      t.conditionOffset = some 17 ∧ t.conditionPosition = some 21 := by
  let t : Template := ⟨[.plain '[' 0, .literal ⟨.text " when ".toList, "' when '".toList, 1⟩,
    .plain ',' 9, .plain ' ' 10, .plain 'w' 11, .plain 'h' 12, .plain 'e' 13, .plain 'n' 14,
    .plain 'e' 15, .plain 'v' 16, .plain 'e' 17, .plain 'r' 18, .plain ']' 19, .plain ' ' 20,
    .plain 'w' 21, .plain 'h' 22, .plain 'e' 23, .plain 'n' 24, .plain ' ' 25, .plain 'x' 26],
    some 14⟩
  have h : ofText "[' when ', whenever] when x".toList = .ok t := by
    rfl
  obtain ⟨hsome, -⟩ := condition_exact h
  exact ⟨t, h, rfl, (hsome 17).mp rfl, rfl, rfl⟩

end Template

end Destructure
