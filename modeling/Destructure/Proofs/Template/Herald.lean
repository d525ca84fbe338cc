import Destructure.Proofs.Pattern.Herald
import Destructure.Proofs.Template.Words

namespace Destructure.Lifting

open Pattern (textOf textOf_cons)
open Word (Meets SoftHeaded)

def endsInBlank (s : Lifting) : Bool :=
  match s.pieces with
  | .plain c _ :: _ => Text.isBlank c
  | _ => false

def herald (s : Lifting) : Herald :=
  if s.endsInWhen then .word else if s.endsInBlank then .blank else .silent

variable {s t : Lifting} {w : Word} {ws : List Word}

theorem herald_eq_word : s.herald = .word ↔ s.endsInWhen = true := by
  unfold herald
  constructor
  · intro h
    by_contra hw
    rw [if_neg hw] at h
    split at h <;> cases h
  · exact fun h => if_pos h

theorem herald_ne_heard : s.herald ≠ .heard := by
  unfold herald
  split
  · decide
  · split <;> decide

def chars (s : Lifting) : List (Option Char) :=
  s.pieces.map Piece.char?

theorem chars_of_extends {more : List (Char ⊕ Payload)} (he : s.Extends t more) :
    t.chars = more.reverse.map Sum.getLeft? ++ s.chars := by
  have hchars (s : Lifting) : s.chars = s.contents.map Sum.getLeft? := by
    rw [chars, contents, List.map_map]
    refine List.map_congr_left fun piece _ => ?_
    cases piece <;> rfl
  rw [hchars, hchars, he.2, List.map_append]

theorem endsInBlank_iff :
    s.endsInBlank = true ↔ ∃ b, Text.isBlank b = true ∧ [some b] <+: s.chars := by
  obtain ⟨position, pieces, patternPieces, mode⟩ := s
  cases pieces with
  | nil => simp [endsInBlank, chars]
  | cons piece rest => cases piece <;> simp [endsInBlank, chars, Piece.char?]

/-- Behind a mark or a literal nothing of the word is left. -/
theorem herald_of_head {x : Option Char} {more : List (Option Char)} (h : t.chars = x :: more)
    (hx : ∀ c ∈ x, c ≠ 'n' ∧ Text.isBlank c = false) : t.herald = .silent := by
  have hw : ¬ t.endsInWhen = true := by
    intro hw
    obtain ⟨b, -, hp⟩ := endsInWhen_iff.mp hw
    change _ <+: t.chars at hp
    rw [h, List.cons_prefix_cons] at hp
    exact (hx 'n' hp.1.symm).1 rfl
  have hb : ¬ t.endsInBlank = true := by
    intro hb
    obtain ⟨b, hb, hp⟩ := endsInBlank_iff.mp hb
    rw [h, List.cons_prefix_cons] at hp
    rw [(hx b hp.1.symm).2] at hb
    cases hb
  rw [herald, if_neg hw, if_neg hb]

theorem after_eq_silent (h : s.herald ≠ .heard) (hw : w ≠ .blank) (hname : ∀ cs, w ≠ .name cs) :
    s.herald.after w = .silent := by
  cases hh : s.herald with
  | heard => exact absurd hh h
  | _ =>
    cases w with
    | blank => exact absurd rfl hw
    | name cs => exact absurd rfl (hname cs)
    | _ => rfl

/-- Whether a name is the word `when` behind a blank. -/
theorem endsInWhen_name {cs : List Char} (hn : s.endsInName = false)
    (hcs : ∀ c ∈ cs, Text.isNameChar c = true) (ht : t.chars = (cs.map some).reverse ++ s.chars) :
    t.endsInWhen = true ↔ s.endsInBlank = true ∧ cs = ['w', 'h', 'e', 'n'] := by
  rw [endsInWhen_iff, endsInBlank_iff]
  change (∃ b, _ ∧ _ <+: t.chars) ↔ _
  rw [ht]
  constructor
  · rintro ⟨b, hb, more, h⟩
    have hbname : Text.isNameChar b = false := by
      rw [← Bool.not_eq_true]
      intro hc
      rw [Text.isBlank_of_isNameChar hc] at hb
      cases hb
    have hfirst : ∀ x ∈ (cs.map some).reverse, x.any Text.isNameChar = true := by
      intro x hx
      obtain ⟨c, hc, rfl⟩ := List.mem_map.mp (List.mem_reverse.mp hx)
      exact hcs c hc
    have hrest : ∀ x ∈ s.chars.head?, x.any Text.isNameChar = false := by
      intro x hx
      cases x with
      | none => rfl
      | some c =>
        rw [← Bool.not_eq_true]
        intro hc
        refine absurd (endsInName_iff.mpr ⟨c, hc, ?_⟩) (by rw [hn]; decide)
        exact List.singleton_prefix_iff_head?_eq_some.mpr hx
    have htake := Text.takeWhile_append_stop hfirst hrest
    have hwhen : ([some 'n', some 'e', some 'h', some 'w', some b] ++ more).takeWhile
        (·.any Text.isNameChar) = ['w', 'h', 'e', 'n'].reverse.map some := by
      simp [List.takeWhile, hbname, show Text.isNameChar 'n' = true from rfl,
        show Text.isNameChar 'e' = true from rfl, show Text.isNameChar 'h' = true from rfl,
        show Text.isNameChar 'w' = true from rfl]
    rw [← h, hwhen, List.map_reverse, List.reverse_inj] at htake
    rw [← htake] at h
    refine ⟨⟨b, hb, more, (List.append_right_inj (['n', 'e', 'h', 'w'].map some)).mp h⟩, ?_⟩
    exact (List.map_injective_iff.mpr (Option.some_injective _) htake).symm
  · rintro ⟨⟨b, hb, more, h⟩, rfl⟩
    exact ⟨b, hb, more, by rw [← h]; rfl⟩

theorem endsInName_of_endsInWhen (h : s.endsInWhen = true) : s.endsInName = true := by
  obtain ⟨b, -, hp⟩ := endsInWhen_iff.mp h
  have hn : [some 'n'] <+: [some 'n', some 'e', some 'h', some 'w', some b] := ⟨_, rfl⟩
  exact endsInName_iff.mpr ⟨'n', by decide, hn.trans hp⟩

/-- Behind a blank the word may begin, unless it has been read before the blank. -/
theorem herald_of_blank {more : List (Option Char)} (ht : t.chars = some ' ' :: more)
    (hs : s.endsInWhen = false) : t.herald = s.herald.after .blank := by
  have hnot : ¬ t.endsInWhen = true := by
    intro hw
    obtain ⟨b, -, hp⟩ := endsInWhen_iff.mp hw
    change _ <+: t.chars at hp
    rw [ht] at hp
    exact absurd (List.cons_prefix_cons.mp hp).1 (by decide)
  have hblank : t.endsInBlank = true := endsInBlank_iff.mpr ⟨' ', by decide, _, ht.symm⟩
  have hword : s.herald ≠ .word := by
    rw [Ne, herald_eq_word, hs]
    decide
  rw [herald, if_neg hnot, if_pos hblank]
  cases h : s.herald with
  | heard => exact absurd h herald_ne_heard
  | word => exact absurd h hword
  | _ => rfl

/-- Behind a name the word has been read if it is that name, with a blank before it. -/
theorem herald_of_name {cs : List Char} (hn : s.endsInName = false) (hne : cs ≠ [])
    (hcs : ∀ c ∈ cs, Text.isNameChar c = true) (ht : t.chars = (cs.map some).reverse ++ s.chars) :
    t.herald = s.herald.after (.name cs) := by
  have hblank : ¬ t.endsInBlank = true := by
    intro hb
    obtain ⟨b, hb, hp⟩ := endsInBlank_iff.mp hb
    obtain ⟨c, ds, hr⟩ := List.exists_cons_of_ne_nil (List.reverse_ne_nil_iff.mpr hne)
    rw [ht, ← List.map_reverse, hr, List.map_cons, List.cons_append, List.cons_prefix_cons] at hp
    have hm : c ∈ cs := List.mem_reverse.mp (hr ▸ List.mem_cons_self ..)
    rw [Option.some.inj hp.1, Text.isBlank_of_isNameChar (hcs c hm)] at hb
    cases hb
  have hnot : ¬ s.endsInWhen = true := by
    intro h
    rw [endsInName_of_endsInWhen h] at hn
    cases hn
  rw [herald, if_neg hblank, herald, if_neg hnot]
  simp only [endsInWhen_name hn hcs ht]
  by_cases hs : s.endsInBlank = true
  · simp only [hs, true_and, if_true]
    rfl
  · rw [if_neg hs, if_neg fun h => hs h.1]
    rfl

/-- Lifting knows of the last pieces what is heard of the words. -/
theorem herald_of_extends (hw : w.IsPlain) (hn : s.endsInName = true → w.isSoft = true)
    (hb : w = .blank → s.endsInWhen = false) (he : s.Extends t w.contents) :
    t.herald = s.herald.after w := by
  have hchars := chars_of_extends he
  cases w with
  | mark c =>
    rw [after_eq_silent herald_ne_heard (by simp) (by simp)]
    refine herald_of_head hchars fun d hd => ?_
    cases hd
    exact Lexeme.forall_punctuation (Q := fun c => c ≠ 'n' ∧ Text.isBlank c = false) (by decide) hw
  | dash =>
    rw [after_eq_silent herald_ne_heard (by simp) (by simp)]
    refine herald_of_head hchars fun d hd => ?_
    cases hd
    decide
  | literal payload =>
    rw [after_eq_silent herald_ne_heard (by simp) (by simp)]
    exact herald_of_head hchars fun d hd => nomatch hd
  | blank => exact herald_of_blank hchars (hb rfl)
  | name cs =>
    have hname : s.endsInName = false := by
      rw [← Bool.not_eq_true]
      exact fun h => nomatch hn h
    obtain ⟨hne, hall⟩ : cs ≠ [] ∧ ∀ c ∈ cs, Text.isNameChar c = true := by
      cases cs with
      | nil => cases hw
      | cons c cs =>
        obtain ⟨hstart, hall⟩ := Bool.and_eq_true_iff.mp hw
        exact ⟨List.cons_ne_nil c cs, List.forall_mem_cons.mpr
          ⟨Text.isNameChar_of_isNameStart hstart, List.all_eq_true.mp hall⟩⟩
    refine herald_of_name hname hne hall ?_
    have hcontents : (Word.name cs).contents = cs.map .inl := rfl
    rw [hchars, hcontents, ← List.map_reverse, ← List.map_reverse, List.map_map]
    rfl

theorem isSeparator_of_isSoft (hw : w.IsPlain) (hs : w.isSoft = true) {c : Char} {rest : List Char}
    (hc : c ∈ (w.text ++ rest).head?) : IsSeparator c := by
  cases w with
  | mark d =>
    cases hc
    exact Or.inr hw
  | blank =>
    cases hc
    exact Or.inl rfl
  | _ => cases hs

/-- The first character of a word may follow the word before it. -/
theorem allows_textOf (hw : (w :: ws).IsChain Meets) (hp : ∀ v ∈ ws, v.IsPlain) :
    ∀ c ∈ (textOf ws).head?, Allows w c := by
  intro c hc
  cases ws with
  | nil => cases hc
  | cons v ws =>
    obtain ⟨hmeets, -⟩ := List.isChain_cons_cons.mp hw
    have hv := hp v (List.mem_cons_self ..)
    rw [textOf_cons] at hc
    cases w with
    | literal payload =>
      obtain hmeets | hsoft | ⟨hmeets, -⟩ := hmeets
      · cases hmeets
      · exact isSeparator_of_isSoft hv hsoft hc
      · cases hmeets
    | dash =>
      obtain hmeets | hsoft | ⟨-, cs, rfl⟩ := hmeets
      · cases hmeets
      · exact forall_separator (Q := fun c => c.isDigit = false) (by decide) (by decide)
          (isSeparator_of_isSoft hv hsoft hc)
      · cases cs with
        | nil => cases hv
        | cons d ds =>
          cases hc
          exact Text.isDigit_of_isNameStart (Bool.and_eq_true_iff.mp hv).1
    | _ => trivial

theorem isName_of_extends (hw : w.IsPlain) (he : s.Extends t w.contents)
    (hn : t.endsInName = true) : ∃ cs, w = .name cs := by
  have hchars := chars_of_extends he
  obtain ⟨c, hc, hp⟩ := endsInName_iff.mp hn
  change _ <+: t.chars at hp
  rw [hchars] at hp
  cases w with
  | name cs => exact ⟨cs, rfl⟩
  | mark d =>
    obtain rfl := Option.some.inj (List.cons_prefix_cons.mp hp).1
    have hd := Lexeme.forall_punctuation (Q := fun c => Text.isNameChar c = false) (by decide) hw
    rw [hc] at hd
    cases hd
  | blank =>
    obtain rfl := Option.some.inj (List.cons_prefix_cons.mp hp).1
    cases hc
  | dash =>
    obtain rfl := Option.some.inj (List.cons_prefix_cons.mp hp).1
    cases hc
  | literal payload => cases (List.cons_prefix_cons.mp hp).1

/-- The words of a written pattern are lifted out one by one, unless the word `when` is heard between
blanks, which begins a condition. -/
theorem run_words (hs : s.IsIdle) (hp : ∀ w ∈ ws, w.IsPlain) (hc : ws.IsChain Meets)
    (hn : s.endsInName = true → SoftHeaded ws) :
    (s.herald.listen ws = .heard → ∀ t, run s (textOf ws) = .ok t → t.patternPieces.isSome = true) ∧
      (s.herald.listen ws ≠ .heard →
        ∃ t, run s (textOf ws) = .ok t ∧ s.Extends t (ws.flatMap Word.contents)) := by
  induction ws generalizing s with
  | nil => exact ⟨fun h => absurd h herald_ne_heard, fun _ => ⟨s, run_nil hs.1, hs, rfl⟩⟩
  | cons w ws ih =>
    obtain ⟨hw, hws⟩ := List.forall_mem_cons.mp hp
    have hsoft : s.endsInName = true → w.isSoft = true := fun h => hn h w rfl
    by_cases hwhen : w = .blank ∧ s.endsInWhen = true
    · obtain ⟨rfl, hwhen⟩ := hwhen
      have hheard : s.herald.listen (.blank :: ws) = .heard := by
        rw [Herald.listen_cons, herald_eq_word.mpr hwhen]
        exact Herald.listen_heard ws
      exact ⟨fun _ t ht => isSome_of_endsInWhen hs hwhen ht, fun h => absurd hheard h⟩
    · have hblank : w = .blank → s.endsInWhen = false := fun h =>
        Bool.eq_false_iff.mpr fun hw => hwhen ⟨h, hw⟩
      obtain ⟨t, he, hrun⟩ := run_word hs hw hsoft hblank (allows_textOf hc hws)
      have hnext : t.endsInName = true → SoftHeaded ws := by
        intro ht v hv
        obtain ⟨cs, rfl⟩ := isName_of_extends hw he ht
        obtain h | h | ⟨h, -⟩ := (List.isChain_cons.mp hc).1 v hv
        · cases h
        · exact h
        · cases h
      obtain ⟨ihheard, ihquiet⟩ := ih he.1 hws (List.isChain_cons.mp hc).2 hnext
      rw [herald_of_extends hw hsoft hblank he, ← Herald.listen_cons] at ihheard ihquiet
      rw [textOf_cons, hrun]
      refine ⟨ihheard, fun hquiet => ?_⟩
      obtain ⟨u, hu, hext⟩ := ihquiet hquiet
      exact ⟨u, hu, he.trans hext⟩

end Destructure.Lifting
