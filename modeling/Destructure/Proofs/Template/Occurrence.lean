import Destructure.Proofs.Template.Delimiter
import Destructure.Proofs.Template.Segments

namespace Destructure

def delimitedWhen (b c : Char) : List Char :=
  [b, 'w', 'h', 'e', 'n', c]

structure HasWhenAt (text : List Char) (k : Nat) : Prop where
  pos : 0 < k
  word : (text.drop k).take 4 = ['w', 'h', 'e', 'n']
  before : ∃ b ∈ text[k - 1]?, Text.isBlank b = true
  after : ∃ c ∈ text[k + 4]?, Text.isBlank c = true

theorem drop_eq_cons {α : Type} {l : List α} {i : Nat} {a : α} (h : l[i]? = some a) :
    l.drop i = a :: l.drop (i + 1) := by
  obtain ⟨hi, rfl⟩ := List.getElem?_eq_some_iff.mp h
  exact List.drop_eq_getElem_cons hi

theorem hasWhenAt_iff {text : List Char} {k : Nat} :
    HasWhenAt text k ↔
      ∃ before b c after, Text.isBlank b = true ∧ Text.isBlank c = true ∧
        text = before ++ (delimitedWhen b c ++ after) ∧ before.length + 1 = k := by
  constructor
  · rintro ⟨hpos, hword, ⟨b, hb, hblank⟩, c, hc, hblank'⟩
    obtain ⟨j, rfl⟩ := Nat.exists_eq_succ_of_ne_zero hpos.ne'
    have hfirst : text.drop j = b :: text.drop (j + 1) := drop_eq_cons hb
    have hlast : text.drop (j + 1 + 4) = c :: text.drop (j + 1 + 5) := drop_eq_cons hc
    have hlength : j < text.length := (List.getElem?_eq_some_iff.mp hb).1
    refine ⟨text.take j, b, c, text.drop (j + 1 + 5), hblank, hblank', ?_, ?_⟩
    · calc text = text.take j ++ text.drop j := (List.take_append_drop j text).symm
        _ = text.take j ++ b :: ((text.drop (j + 1)).take 4 ++ (text.drop (j + 1)).drop 4) := by
          rw [hfirst, List.take_append_drop]
        _ = text.take j ++ (delimitedWhen b c ++ text.drop (j + 1 + 5)) := by
          rw [hword, List.drop_drop, hlast]
          rfl
    · rw [List.length_take, Nat.min_eq_left hlength.le]
  · rintro ⟨before, b, c, after, hb, hc, rfl, rfl⟩
    have hdrop (i : Nat) : (before ++ (delimitedWhen b c ++ after))[before.length + i]? =
        (delimitedWhen b c ++ after)[i]? := by
      rw [List.getElem?_append_right (Nat.le_add_right ..), Nat.add_sub_cancel_left]
    refine ⟨Nat.succ_pos _, ?_, ⟨b, hdrop 0, hb⟩, c, hdrop 5, hc⟩
    rw [List.drop_append, List.drop_eq_nil_of_le (Nat.le_succ _), Nat.add_sub_cancel_left]
    rfl

def WhenAmong (pieces : List Piece) (i : Nat) : Prop :=
  ∃ before b c after, Text.isBlank b = true ∧ Text.isBlank c = true ∧
    pieces.map Piece.char? = before ++ ((delimitedWhen b c).map some ++ after) ∧
    before.length + 1 = i

section Written

variable {pieces row : List Piece} {position : Nat} {text before rest word : List Char} {c : Char}

theorem written_of_map_char? (h : pieces.map Piece.char? = text.map some) : written pieces = text := by
  induction text generalizing pieces with
  | nil =>
    obtain rfl := List.map_eq_nil_iff.mp h
    rfl
  | cons c text ih =>
    obtain ⟨p, rest, rfl, hrest⟩ := Piece.map_char?_eq_cons.mp h
    have hwritten := ih hrest
    exact congrArg (c :: ·) hwritten

theorem literalsOf_of_map_char? (h : pieces.map Piece.char? = text.map some) :
    literalsOf pieces = [] := by
  induction text generalizing pieces with
  | nil =>
    obtain rfl := List.map_eq_nil_iff.mp h
    rfl
  | cons c text ih =>
    obtain ⟨p, rest, rfl, hrest⟩ := Piece.map_char?_eq_cons.mp h
    rw [literalsOf_plain]
    exact ih hrest

/-- A text outside literals is made of characters. -/
theorem exists_characters (ha : Aligned position pieces) (hne : ∀ piece ∈ pieces, piece.raw ≠ [])
    (h : written pieces = word ++ rest)
    (hclear : ∀ l ∈ literalsOf pieces, ∀ i < word.length, ¬ l.Covers (position + i : Nat)) :
    ∃ among back, pieces = among ++ back ∧ among.map Piece.char? = word.map some := by
  induction word generalizing pieces position with
  | nil => exact ⟨[], pieces, rfl, rfl⟩
  | cons c word ih =>
    cases pieces with
    | nil => cases h
    | cons piece pieces =>
      obtain ⟨hposition, ha⟩ := ha
      obtain ⟨hraw, hmore⟩ := List.forall_mem_cons.mp hne
      cases piece with
      | literal l =>
        have hlength : 0 < l.raw.length := List.length_pos_iff.mpr hraw
        have hcovers : l.Covers (position + 0 : Nat) := by
          have hl : l.position = position := hposition
          exact ⟨by omega, by omega⟩
        exact absurd hcovers (hclear l (List.mem_cons_self ..) 0 (Nat.succ_pos _))
      | plain d p =>
        obtain ⟨rfl, hrest⟩ := List.cons.inj h
        have hlater : ∀ l ∈ literalsOf pieces, ∀ i < word.length,
            ¬ l.Covers (position + 1 + i : Nat) := by
          intro l hl i hi
          rw [Nat.add_assoc, Nat.add_comm 1 i]
          exact hclear l hl (i + 1) (Nat.succ_lt_succ hi)
        obtain ⟨among, back, rfl, hmid⟩ := ih ha hmore hrest hlater
        exact ⟨.plain d p :: among, back, rfl, congrArg (some d :: ·) hmid⟩

/-- A row can be cut in two before a character outside literals. -/
theorem exists_front (ha : Aligned position pieces) (h : written pieces = before ++ c :: rest)
    (hclear : ∀ l ∈ literalsOf pieces, ¬ l.Covers (position + before.length : Nat)) :
    ∃ front back, pieces = front ++ back ∧ written front = before ∧ written back = c :: rest := by
  induction pieces generalizing position before with
  | nil => simp [written] at h
  | cons piece pieces ih =>
    obtain ⟨hposition, ha⟩ := ha
    have hsplit : piece.raw ++ written pieces = before ++ c :: rest := h
    rcases List.append_eq_append_iff.mp hsplit with ⟨more, rfl, hrest⟩ | ⟨more, hraw, hrest⟩
    · obtain ⟨front, back, rfl, rfl, hback⟩ := ih ha hrest fun l hl => by
        have hl := hclear l (by
          cases piece with
          | plain d p => exact hl
          | literal other => exact List.mem_cons_of_mem _ hl)
        rwa [List.length_append, ← Nat.add_assoc] at hl
      exact ⟨piece :: front, back, rfl, rfl, hback⟩
    · cases before with
      | nil => exact ⟨[], piece :: pieces, rfl, rfl, h⟩
      | cons d before =>
        cases more with
        | nil =>
          rw [List.append_nil] at hraw
          exact ⟨[piece], pieces, rfl, (List.append_nil _).trans hraw, hrest.symm⟩
        | cons e more =>
          cases piece with
          | plain f p =>
            have hlength := congrArg List.length hraw
            simp [Piece.raw] at hlength
          | literal l =>
            have hlength : l.raw.length = (d :: before).length + (more.length + 1) := by
              rw [show l.raw = (d :: before) ++ e :: more from hraw, List.length_append]
              rfl
            have hl : l.position = position := hposition
            exact absurd ⟨by omega, by omega⟩ (hclear l (List.mem_cons_self ..))

/-- The places of the word in what a row is written as, outside literals and not next to any, are its
places in the row. -/
theorem hasWhenAt_written_iff (ha : Aligned 0 row) (hne : ∀ piece ∈ row, piece.raw ≠ []) {k : Nat} :
    (HasWhenAt (written row) k ∧ ∀ l ∈ literalsOf row, ∀ i < 6, ¬ l.Covers (k - 1 + i : Nat)) ↔
      ∃ i, WhenAmong row i ∧ (written (row.take i)).length = k := by
  constructor
  · rintro ⟨hwhen, hclear⟩
    obtain ⟨before, b, c, after, hb, hc, hwritten, rfl⟩ := hasWhenAt_iff.mp hwhen
    rw [Nat.add_sub_cancel] at hclear
    have hfirst : ∀ l ∈ literalsOf row, ¬ l.Covers (0 + before.length : Nat) := by
      intro l hl
      rw [Nat.zero_add]
      exact hclear l hl 0 (by decide)
    obtain ⟨front, behind, rfl, hfront, hbehind⟩ := exists_front ha hwritten hfirst
    obtain ⟨-, hbehindAligned⟩ := aligned_append.mp ha
    rw [Nat.zero_add, hfront] at hbehindAligned
    have hbehindClear : ∀ l ∈ literalsOf behind, ∀ i < (delimitedWhen b c).length,
        ¬ l.Covers (before.length + i : Nat) := by
      intro l hl
      rw [literalsOf_append] at hclear
      exact hclear l (List.mem_append_right _ hl)
    obtain ⟨among, back, rfl, hmid⟩ := exists_characters hbehindAligned
      (fun piece hp => hne piece (List.mem_append_right _ hp)) hbehind hbehindClear
    refine ⟨front.length + 1, ⟨front.map Piece.char?, b, c, back.map Piece.char?, hb, hc, ?_, ?_⟩, ?_⟩
    · rw [List.map_append, List.map_append, hmid]
    · rw [List.length_map]
    · obtain ⟨p, among, rfl, -⟩ := Piece.map_char?_eq_cons.mp hmid
      rw [List.take_append, List.take_of_length_le (Nat.le_succ _), Nat.add_sub_cancel_left,
        written_append, List.length_append, hfront]
      rfl
  · rintro ⟨i, ⟨before, b, c, after, hb, hc, hrow, rfl⟩, rfl⟩
    obtain ⟨front, behind, rfl, rfl, hbehind⟩ := List.map_eq_append_iff.mp hrow
    obtain ⟨among, back, rfl, hmid, rfl⟩ := List.map_eq_append_iff.mp hbehind
    have hlength : (written ((front ++ (among ++ back)).take ((front.map Piece.char?).length + 1))).length =
        (written front).length + 1 := by
      obtain ⟨p, among, rfl, -⟩ := Piece.map_char?_eq_cons.mp hmid
      rw [List.length_map, List.take_append, List.take_of_length_le (Nat.le_succ _),
        Nat.add_sub_cancel_left, written_append, List.length_append]
      rfl
    have hwhen : HasWhenAt (written (front ++ (among ++ back))) ((written front).length + 1) := by
      refine hasWhenAt_iff.mpr ⟨written front, b, c, written back, hb, hc, ?_, rfl⟩
      rw [written_append, written_append, written_of_map_char? hmid]
    rw [hlength]
    refine ⟨hwhen, fun l hl i hi hcovers => ?_⟩
    -- a literal lies before or behind the word with its blanks
    obtain ⟨hfront, hbehind⟩ := aligned_append.mp ha
    obtain ⟨-, hback⟩ := aligned_append.mp hbehind
    rw [written_of_map_char? hmid] at hback
    rw [literalsOf_append, literalsOf_append, literalsOf_of_map_char? hmid, List.nil_append,
      List.mem_append, mem_literalsOf, mem_literalsOf] at hl
    obtain ⟨hle, hlt⟩ := hcovers
    rcases hl with hl | hl
    · have hend := (hfront.le_of_mem hl).2
      simp only [Piece.position, Piece.raw] at hend
      omega
    · have hstart := (hback.le_of_mem hl).1
      simp only [Piece.position, delimitedWhen, List.length_cons, List.length_nil] at hstart
      omega

end Written

section Cover

variable {text before after : List Char} {l : Literal} {b c : Char} {i k q : Nat}

/-- What stands at a place within a literal. -/
theorem Literal.getElem?_of_covers (h : l.raw <+: text.drop l.position) (hq : l.Covers (q : Nat)) :
    ∃ i < l.raw.length, q = l.position + i ∧ text[q]? = l.raw[i]? := by
  obtain ⟨hle, hlt⟩ := hq
  obtain ⟨i, rfl⟩ := Nat.exists_eq_add_of_le (Int.ofNat_le.mp hle)
  have hi : i < l.raw.length := by omega
  obtain ⟨more, hmore⟩ := h
  refine ⟨i, hi, rfl, ?_⟩
  rw [← List.getElem?_drop, ← hmore, List.getElem?_append_left hi]

/-- The characters of the word and the blanks around it. -/
theorem getElem?_delimitedWhen (i : Nat) (hi : i < 6) :
    (before ++ (delimitedWhen b c ++ after))[before.length + i]? = (delimitedWhen b c)[i]? := by
  rw [List.getElem?_append_right (Nat.le_add_right ..), Nat.add_sub_cancel_left,
    List.getElem?_append_left hi]

/-- A literal that is delimited keeps clear of the word and the blanks around it, unless it covers the
beginning of the word. -/
theorem Literal.IsDelimited.clear (hl : l.IsDelimited) (hslice : l.raw <+: text.drop l.position)
    (hwhen : HasWhenAt text k) (hk : ¬ l.Covers (k : Nat)) (hi : i < 6) :
    ¬ l.Covers (k - 1 + i : Nat) := by
  intro hcovers
  obtain ⟨before, b, c, after, hb, hc, rfl, rfl⟩ := hasWhenAt_iff.mp hwhen
  rw [Nat.add_sub_cancel] at hcovers
  obtain ⟨hle, hlt⟩ := hcovers
  by_cases hposition : before.length + 1 < l.position
  · obtain ⟨first, rest, hraw, hopens⟩ := hl.first
    obtain ⟨j, hj⟩ := Nat.exists_eq_add_of_le (by omega : before.length ≤ l.position)
    have hfirst : (delimitedWhen b c)[j]? = some first := by
      obtain ⟨n, hn, hq, hget⟩ := Literal.getElem?_of_covers (q := l.position) hslice
        ⟨Int.le_refl _, by rw [hraw]; simp⟩
      obtain rfl : n = 0 := by omega
      rw [hraw, hj, getElem?_delimitedWhen j (by omega)] at hget
      exact hget
    obtain rfl | rfl | rfl | rfl : j = 2 ∨ j = 3 ∨ j = 4 ∨ j = 5 := by omega
    all_goals cases hfirst
    · cases isDigit_of_opens hopens (by decide)
    · cases isDigit_of_opens hopens (by decide)
    · cases isDigit_of_opens hopens (by decide)
    · cases hc.symm.trans (isBlank_of_opens hopens)
  · obtain ⟨front, last, hraw, hlast⟩ := hl.last
    have hend : l.position + l.raw.length ≤ before.length + 1 := by
      by_contra hbeyond
      exact hk ⟨by omega, by omega⟩
    have hblank : (delimitedWhen b c)[0]? = some last := by
      obtain ⟨n, hn, hq, hget⟩ := Literal.getElem?_of_covers (q := before.length + 0) hslice
        ⟨by omega, by omega⟩
      have hlength : l.raw.length = front.length + 1 := by rw [hraw, List.length_append]; rfl
      obtain rfl : n = front.length := by omega
      rw [getElem?_delimitedWhen 0 (by decide), hraw, List.getElem?_concat_length] at hget
      exact hget
    cases hblank
    cases hb.symm.trans hlast

end Cover

section Marked

variable {pieces : List Piece} {number position : Nat}

def marked (number position : Nat) : List Piece → List Piece
  | [] => []
  | .plain c _ :: rest => .plain c position :: marked number (position + 1) rest
  | .literal l :: rest =>
    .literal ⟨l.payload, marker number l, position⟩ ::
      marked (number + 1) (position + (marker number l).length) rest

theorem aligned_marked : Aligned position (marked number position pieces) := by
  induction pieces generalizing number position with
  | nil => exact trivial
  | cons piece rest ih =>
    cases piece with
    | plain c p => exact ⟨rfl, ih⟩
    | literal l => exact ⟨rfl, ih⟩

theorem written_marked (number position : Nat) (pieces : List Piece) :
    written (marked number position pieces) = (cells number pieces).map (·.1) := by
  induction pieces generalizing number position with
  | nil => rfl
  | cons piece rest ih =>
    cases piece with
    | plain c p => exact congrArg (c :: ·) (ih number (position + 1))
    | literal l =>
      rw [cells, List.map_append, List.map_map, ← ih]
      exact congrArg (· ++ _) (List.map_id _).symm

theorem map_char?_marked (number position : Nat) (pieces : List Piece) :
    (marked number position pieces).map Piece.char? = pieces.map Piece.char? := by
  induction pieces generalizing number position with
  | nil => rfl
  | cons piece rest ih =>
    cases piece with
    | plain c p => exact congrArg (some c :: ·) (ih number (position + 1))
    | literal l => exact congrArg (none :: ·) (ih (number + 1) _)

theorem take_marked (number position i : Nat) (pieces : List Piece) :
    (marked number position pieces).take i = marked number position (pieces.take i) := by
  induction pieces generalizing number position i with
  | nil => simp [marked]
  | cons piece rest ih =>
    cases i with
    | zero => rfl
    | succ i =>
      cases piece with
      | plain c p => exact congrArg (Piece.plain c position :: ·) (ih number (position + 1) i)
      | literal l => exact congrArg (Piece.literal _ :: ·) (ih (number + 1) _ i)

theorem exists_marker_of_mem_marked {piece : Piece} (h : piece ∈ marked number position pieces) :
    (∃ c p, piece = .plain c p) ∨ ∃ k l p, piece = .literal ⟨l.payload, marker k l, p⟩ := by
  induction pieces generalizing number position with
  | nil => cases h
  | cons other rest ih =>
    cases other with
    | plain c p =>
      rcases List.mem_cons.mp h with rfl | h
      · exact Or.inl ⟨c, position, rfl⟩
      · exact ih h
    | literal l =>
      rcases List.mem_cons.mp h with rfl | h
      · exact Or.inr ⟨number, l, position, rfl⟩
      · exact ih h

theorem whenAmong_marked {i : Nat} :
    WhenAmong (marked number position pieces) i ↔ WhenAmong pieces i := by
  unfold WhenAmong
  rw [map_char?_marked]

/-- A marker has no characters of the word, and no blanks. -/
theorem not_mem_marker {b c d : Char} (hb : Text.isBlank b = true) (hc : Text.isBlank c = true)
    (hd : d ∈ delimitedWhen b c) (number : Nat) (l : Literal) : d ∉ marker number l := by
  have hletter : Text.isBlank l.letter = false ∧ l.letter ∉ ['w', 'h', 'e', 'n'] := by
    unfold Literal.letter
    split <;> decide
  have hdigit {e : Char} (he : e.isDigit = true) :
      Text.isBlank e = false ∧ e ∉ ['w', 'h', 'e', 'n'] := by
    refine ⟨Text.isBlank_of_isNameChar (Text.isNameChar_of_isDigit he), fun hm => ?_⟩
    simp only [List.mem_cons, List.not_mem_nil, or_false] at hm
    rcases hm with rfl | rfl | rfl | rfl <;> cases he
  have hmarker : ∀ e ∈ marker number l, Text.isBlank e = false ∧ e ∉ ['w', 'h', 'e', 'n'] := by
    intro e he
    simp only [marker, List.mem_cons, List.mem_append, List.cons_append] at he
    rcases he with rfl | rfl | he | rfl | he
    · decide
    · exact hletter
    · exact hdigit (Nat.isDigit_of_mem_toDigits (by decide) (by decide) he)
    · decide
    · cases he
  intro hm
  obtain ⟨hblank, hword⟩ := hmarker d hm
  simp only [delimitedWhen, List.mem_cons, List.not_mem_nil, or_false] at hd hword
  rcases hd with rfl | hd | hd | hd | hd | rfl
  · cases hb.symm.trans hblank
  all_goals first
    | cases hc.symm.trans hblank
    | exact hword (by simp [hd])

/-- The places of the word in a template text are its places in the row. -/
theorem hasWhenAt_cells_iff {k : Nat} :
    HasWhenAt ((cells number pieces).map (·.1)) k ↔
      ∃ i, WhenAmong pieces i ∧ (cells number (pieces.take i)).length = k := by
  have hne : ∀ piece ∈ marked number 0 pieces, piece.raw ≠ [] := by
    intro piece hm
    rcases exists_marker_of_mem_marked hm with ⟨c, p, rfl⟩ | ⟨k, l, p, rfl⟩ <;>
      exact List.cons_ne_nil _ _
  have hclear (hwhen : HasWhenAt (written (marked number 0 pieces)) k) :
      ∀ l ∈ literalsOf (marked number 0 pieces), ∀ i < 6, ¬ l.Covers (k - 1 + i : Nat) := by
    intro l hl i hi hcovers
    have hm := mem_literalsOf.mp hl
    have hslice : l.raw <+: (written (marked number 0 pieces)).drop l.position :=
      aligned_marked.isPrefix_drop hm
    obtain ⟨j, hj, -, hget⟩ := Literal.getElem?_of_covers hslice hcovers
    obtain ⟨before, b, c, after, hb, hc, hwritten, rfl⟩ := hasWhenAt_iff.mp hwhen
    rw [hwritten, Nat.add_sub_cancel, getElem?_delimitedWhen i hi, List.getElem?_eq_getElem hj] at hget
    have hshown := List.mem_of_getElem? hget
    rcases exists_marker_of_mem_marked hm with ⟨d, p, h⟩ | ⟨n, other, p, h⟩
    · cases h
    · cases h
      exact not_mem_marker hb hc hshown n other (List.getElem_mem hj)
  rw [← written_marked number 0, ← and_iff_left_of_imp hclear,
    hasWhenAt_written_iff aligned_marked hne]
  apply exists_congr
  intro i
  rw [whenAmong_marked, take_marked, written_marked, List.length_map]

end Marked

end Destructure
