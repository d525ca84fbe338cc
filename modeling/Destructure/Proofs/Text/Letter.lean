import Destructure.Token

namespace Destructure

namespace Text

section Prefix

variable {α : Type} {p : α → Bool} {w r : List α}

theorem takeWhile_append_stop (hw : ∀ c ∈ w, p c = true) (hr : ∀ c ∈ r.head?, p c = false) :
    (w ++ r).takeWhile p = w := by
  rw [List.takeWhile_append_of_pos hw]
  cases r with
  | nil => rw [List.takeWhile_nil, List.append_nil]
  | cons c after =>
    rw [List.takeWhile_cons_of_neg (by rw [hr c rfl]; decide), List.append_nil]

theorem dropWhile_append_stop (hw : ∀ c ∈ w, p c = true) (hr : ∀ c ∈ r.head?, p c = false) :
    (w ++ r).dropWhile p = r := by
  rw [List.dropWhile_append_of_pos hw]
  cases r with
  | nil => rfl
  | cons c after => rw [List.dropWhile_cons_of_neg (by rw [hr c rfl]; decide)]

end Prefix

variable {c : Char}

/-- What holds of every ASCII character. -/
theorem forall_ascii {Q : Char → Prop} (h : ∀ n : Fin 128, Q (Char.ofNat n)) (hc : c.toNat < 128) :
    Q c := by
  have hq := h ⟨c.toNat, hc⟩
  rwa [Char.ofNat_toNat] at hq

theorem toNat_lt_of_isNameChar (h : isNameChar c = true) : c.toNat < 128 := by
  have hv : c.toNat = c.val.toNat := rfl
  delta isNameChar Char.isAlphanum Char.isAlpha Char.isUpper Char.isLower Char.isDigit at h
  simp only [Bool.or_eq_true, Bool.and_eq_true, decide_eq_true_eq, beq_iff_eq, ge_iff_le,
    UInt32.le_iff_toNat_le] at h
  have hz : 'Z'.val.toNat < 128 := by decide
  have hl : 'z'.val.toNat < 128 := by decide
  have hn : '9'.val.toNat < 128 := by decide
  rcases h with ((h | h) | h) | rfl
  · omega
  · omega
  · omega
  · decide

/-- What holds of every character of a name. -/
theorem forall_nameChar {Q : Char → Prop}
    (h : ∀ n : Fin 128, isNameChar (Char.ofNat n) = true → Q (Char.ofNat n))
    (hc : isNameChar c = true) : Q c :=
  forall_ascii (Q := fun c => isNameChar c = true → Q c) h (toNat_lt_of_isNameChar hc) hc

theorem isBlank_of_isNameChar (h : isNameChar c = true) : isBlank c = false :=
  forall_nameChar (Q := fun c => isBlank c = false) (by decide) h

theorem isNameChar_of_isBlank (h : isBlank c = true) : isNameChar c = false := by
  rw [← Bool.not_eq_true]
  intro hc
  cases h.symm.trans (isBlank_of_isNameChar hc)

theorem ne_markerChar_of_isNameChar (h : isNameChar c = true) : c ≠ markerChar :=
  forall_nameChar (Q := fun c => c ≠ markerChar) (by decide) h

theorem isNameChar_of_isNameStart (h : isNameStart c = true) : isNameChar c = true := by
  simp only [isNameStart, isNameChar, Char.isAlphanum, Bool.or_eq_true] at h ⊢
  rcases h with h | h
  · exact Or.inl (Or.inl h)
  · exact Or.inr h

theorem isNameChar_of_isDigit (h : c.isDigit = true) : isNameChar c = true := by
  simp only [isNameChar, Char.isAlphanum, Bool.or_eq_true]
  exact Or.inl (Or.inr h)

theorem isDigit_of_isNameStart (h : isNameStart c = true) : c.isDigit = false :=
  forall_nameChar (Q := fun c => isNameStart c = true → c.isDigit = false) (by decide)
    (isNameChar_of_isNameStart h) h

end Text

/-- What holds of every mark. -/
theorem Lexeme.forall_punctuation {Q : Char → Prop}
    (h : Q '[' ∧ Q ']' ∧ Q '\x7b' ∧ Q '\x7d' ∧ Q ',' ∧ Q '=' ∧ Q '|') {c : Char}
    (hc : (punctuation? c).isSome = true) : Q c := by
  obtain ⟨hopen, hclose, hleft, hright, hcomma, hequals, hbar⟩ := h
  unfold punctuation? at hc
  split at hc
  all_goals first
    | assumption
    | cases hc

end Destructure
