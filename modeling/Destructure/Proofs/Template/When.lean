import Destructure.Compile
import Destructure.Proofs.Template.Alignment
import Destructure.Proofs.Template.Words

namespace Destructure

def Mode.sign? : Mode → Option Char
  | .sign c => some c
  | _ => none

def Mode.quote? : Mode → Option Char
  | .quoted _ quote _ _ => some quote
  | _ => none

namespace Mode

variable {position : Nat} {c : Char} {mode next : Mode}

theorem Takes.sign?_eq (h : mode.Takes position c next) : next.sign? = none := by
  cases h with
  | regex opened escaping =>
    unfold inRegex
    repeat' split
    all_goals rfl
  | _ => rfl

theorem Takes.mem_quote? (h : mode.Takes position c next) {quote : Char} (hq : quote ∈ next.quote?) :
    quote ∈ mode.quote? := by
  cases h with
  | regex opened escaping =>
    unfold inRegex at hq
    repeat' split at hq
    all_goals cases hq
  | digit sign hc => cases hq
  | number opened hc => cases hq
  | _ => exact hq

end Mode

namespace Lifting

variable {s t u : Lifting} {c : Char} {cs rest : List Char} {count : Nat}

def HoldsSign (s : Lifting) : Prop :=
  ∀ c, s.mode = .sign c → c = '+' ∨ c = '-'

theorem holdsSign_step (h : s.step c = .ok t) : t.HoldsSign := by
  intro d hd
  rcases mode_step h with hm | hm | hm
  · rw [hd] at hm
    cases hm
  · rw [hd] at hm
    cases hm with
    | sign hc => exact hc
  · have hnone := hm.sign?_eq
    rw [hd] at hnone
    cases hnone

theorem holdsSign_foldlM (h : cs.foldlM step start = .ok s) : s.HoldsSign := by
  have hstart : start.HoldsSign := by
    intro d hd
    nomatch hd
  exact Run.invariant (P := HoldsSign) (fun _ _ _ _ _ h => holdsSign_step h) hstart h

/-- The word that introduces a condition does not end in a sign or a literal. -/
theorem Settles.eq_of_endsInWhen (h : s.Settles t) (hsign : s.HoldsSign)
    (hw : t.endsInWhen = true) : t = s := by
  cases h with
  | outside hm => rfl
  | sign d hm =>
    rcases hsign d hm with rfl | rfl
    · cases hw
    · cases hw
  | close opened payload hm => cases hw

/-- The last pieces, when they are the word that introduces a condition. -/
theorem exists_word (hw : s.endsInWhen = true) :
    ∃ word before, s.pieces = word ++ before ∧ word.length = 4 ∧ literalsOf word = [] ∧
      written word.reverse = ['w', 'h', 'e', 'n'] := by
  obtain ⟨name, b, position, before, hpieces, hname, -, -⟩ := exists_of_endsInWhen hw
  obtain ⟨_, afterN, rfl, hn⟩ := Piece.map_char?_eq_cons.mp hname
  obtain ⟨_, afterE, rfl, he⟩ := Piece.map_char?_eq_cons.mp hn
  obtain ⟨_, afterH, rfl, hh⟩ := Piece.map_char?_eq_cons.mp he
  obtain ⟨_, afterW, rfl, hw⟩ := Piece.map_char?_eq_cons.mp hh
  obtain rfl := List.map_eq_nil_iff.mp hw
  exact ⟨_, _, hpieces, rfl, rfl, rfl⟩

/-- A condition begins before a character or not at all. -/
theorem patternPieces_step_of_none (hs : s.patternPieces = none) (hsign : s.HoldsSign)
    (h : s.step c = .ok t) :
    t.patternPieces = none ∨
      (s.mode = .outside ∧ s.endsInWhen = true ∧ Text.isBlank c = true ∧
        t.patternPieces = some (s.pieces.length - 4)) := by
  obtain ⟨u, hu, rfl⟩ := step_eq_ok.mp h
  rcases advance_cases hu with ⟨mode, -, rfl⟩ | h | ⟨v, hv, h⟩
  · exact Or.inl hs
  · exact Or.inl (h.patternPieces_eq.trans hs)
  · obtain ⟨-, rfl⟩ := outside_eq_ok.mp h
    have hnone : v.patternPieces = none := hv.patternPieces_eq.trans hs
    change (enter _ c).patternPieces = none ∨ _ ∧ _ ∧ _ ∧ (enter _ c).patternPieces = _
    rw [patternPieces_enter]
    by_cases hbegin : Text.isBlank c = true ∧ v.endsInWhen = true
    · obtain ⟨hblank, hwhen⟩ := hbegin
      have hmode := hv.mode_eq
      obtain rfl := hv.eq_of_endsInWhen hsign hwhen
      refine Or.inr ⟨hmode, hwhen, hblank, ?_⟩
      rw [beginCondition, hnone, hblank, hwhen]
      rfl
    · have hsame : v.beginCondition c = v := by
        apply beginCondition_of_not_blank
        rw [← Bool.not_eq_true, ← Bool.not_eq_true]
        exact not_and_or.mp hbegin
      rw [hsame]
      exact Or.inl hnone

/-- Before a condition has begun, it had not begun either. -/
theorem patternPieces_of_step (h : s.step c = .ok t) (ht : t.patternPieces = none) :
    s.patternPieces = none := by
  cases hs : s.patternPieces with
  | none => rfl
  | some count => exact absurd (patternPieces_step hs h) (by rw [ht]; simp)

/-- A run that ends in a condition has come upon the word that introduces it and a blank. -/
theorem exists_begin (h : cs.foldlM step start = .ok t) (hk : t.patternPieces = some count) :
    ∃ pre blank post s, cs = pre ++ blank :: post ∧ pre.foldlM step start = .ok s ∧ s.IsIdle ∧
      s.endsInWhen = true ∧ Text.isBlank blank = true ∧ count = s.pieces.length - 4 := by
  induction cs using List.reverseRecOn generalizing t with
  | nil =>
    cases h
    cases hk
  | append_singleton cs c ih =>
    obtain ⟨s, hs, hc⟩ := Run.foldlM_append_eq_ok.mp h
    obtain ⟨u, hu, ht⟩ := Run.foldlM_cons_eq_ok.mp hc
    cases ht
    cases hsk : s.patternPieces with
    | some n =>
      have hn := patternPieces_step hsk hu
      obtain ⟨pre, blank, post, a, rfl, ha⟩ := ih hs (hsk.trans (hn.symm.trans hk))
      exact ⟨pre, blank, post ++ [c], a, by rw [List.append_assoc]; rfl, ha⟩
    | none =>
      rcases patternPieces_step_of_none hsk (holdsSign_foldlM hs) hu with hn | ⟨hm, hw, hb, hn⟩
      · cases hn.symm.trans hk
      · exact ⟨cs, c, [], s, rfl, hs, ⟨hm, hsk⟩, hw, hb, Option.some.inj (hk.symm.trans hn)⟩

/-- A character behind the beginning of a condition is kept, unless it is a quote. -/
theorem step_plain (hm : s.mode = .outside) (hk : s.patternPieces.isSome = true)
    (hc : c ≠ markerChar) (hq : ¬ (c = '\'' ∨ c = '"')) :
    s.step c = .ok (state (s.position + 1) (.plain c s.position :: s.pieces) s.patternPieces
      .outside) := by
  have hbegin : s.beginCondition c = s := by
    rw [beginCondition, Option.isNone_eq_false_iff.mpr hk]
    rfl
  refine step_eq_ok.mpr ⟨s.emit c s.position, ?_, eq_of_fields rfl rfl rfl rfl⟩
  unfold advance
  rw [hm]
  dsimp only
  rw [outside_eq _ hc, hbegin, enter, if_neg hq, if_pos hk]

/-- The blank with which a condition begins. -/
theorem step_blank (hs : s.IsIdle) (hw : s.endsInWhen = true) (hb : Text.isBlank c = true) :
    s.step c = .ok (state (s.position + 1) (.plain c s.position :: s.pieces)
      (some (s.pieces.length - 4)) .outside) := by
  have hc : c ≠ markerChar := by
    rintro rfl
    exact absurd hb (by decide)
  have hq : ¬ (c = '\'' ∨ c = '"') := by
    rintro (rfl | rfl)
    · exact absurd hb (by decide)
    · exact absurd hb (by decide)
  have hbegin : s.beginCondition c = { s with patternPieces := some (s.pieces.length - 4) } := by
    rw [beginCondition, hs.2, hb, hw]
    rfl
  refine step_eq_ok.mpr ⟨emit { s with patternPieces := some (s.pieces.length - 4) } c
    s.position, ?_, eq_of_fields rfl rfl rfl rfl⟩
  unfold advance
  rw [hs.1]
  dsimp only
  rw [outside_eq _ hc, hbegin, enter, if_neg hq]
  exact congrArg Except.ok (if_pos rfl)

theorem Settles.isSuffix_pieces (h : s.Settles t) : s.pieces <:+ t.pieces := by
  cases h with
  | outside hm => exact List.suffix_refl _
  | sign d hm => exact List.suffix_cons _ _
  | close opened payload hm => exact List.suffix_cons _ _

theorem isSuffix_pieces_enter : s.pieces <:+ (s.enter c).pieces := by
  rcases enter_cases s c with h | ⟨mode, -, h⟩
  · exact ⟨[.plain c s.position], (congrArg pieces h).symm⟩
  · exact ⟨[], (congrArg pieces h).symm⟩

theorem isSuffix_pieces_step (h : s.step c = .ok t) : s.pieces <:+ t.pieces := by
  obtain ⟨u, hu, rfl⟩ := step_eq_ok.mp h
  change s.pieces <:+ u.pieces
  rcases advance_cases hu with ⟨mode, -, rfl⟩ | h | ⟨v, hv, h⟩
  · exact List.suffix_refl _
  · exact h.isSuffix_pieces
  · obtain ⟨-, rfl⟩ := outside_eq_ok.mp h
    have henter := (v.beginCondition c).isSuffix_pieces_enter (c := c)
    rw [pieces_beginCondition] at henter
    exact hv.isSuffix_pieces.trans henter

/-- Pieces that have been found are kept. -/
theorem isSuffix_pieces_run (h : run s cs = .ok t) : s.pieces <:+ t.pieces := by
  obtain ⟨u, hu, ht⟩ := Run.bind_eq_ok.mp h
  have hrun := Run.invariant (P := fun u => s.pieces <:+ u.pieces)
    (fun _ _ _ _ hs h => hs.trans (isSuffix_pieces_step h)) (List.suffix_refl _) hu
  exact hrun.trans (finish_settles ht).isSuffix_pieces

end Lifting

namespace Template

/-- A template with a condition: its text has the word that introduces the condition with a blank
behind it, and the rest of the text is read from there on. -/
theorem exists_begin_of_ofText {text : List Char} {t : Template} {count : Nat}
    (h : ofText text = .ok t) (hk : t.patternPieces = some count) :
    ∃ pre blank post s u, text = pre ++ blank :: post ∧ pre.foldlM Lifting.step .start = .ok s ∧
      s.IsIdle ∧ s.endsInWhen = true ∧ Text.isBlank blank = true ∧ count = s.pieces.length - 4 ∧
      s.run (blank :: post) = .ok u ∧ t.pieces = u.pieces.reverse := by
  obtain ⟨s, u, hs, hu, rfl⟩ := ofText_eq_ok.mp h
  have hcount : s.patternPieces = some count := (Lifting.finish_settles hu).patternPieces_eq ▸ hk
  obtain ⟨pre, blank, post, a, rfl, ha, hidle, hw, hb, hc⟩ := Lifting.exists_begin hs hcount
  obtain ⟨a', ha', hr⟩ := Run.foldlM_append_eq_ok.mp hs
  obtain rfl : a = a' := Except.ok.inj (ha.symm.trans ha')
  exact ⟨pre, blank, post, a, u, rfl, ha, hidle, hw, hb, hc, Run.bind_eq_ok.mpr ⟨s, hr, hu⟩, rfl⟩

/-- The position of a condition is the position of the word that introduces it. -/
theorem length_of_conditionPosition {t : Template} {pre : List Char} {s : Lifting} {position : Nat}
    (ha : s.IsAligned pre) (hm : s.mode = .outside) (hw : s.endsInWhen = true)
    (hpieces : s.pieces <:+ t.pieces.reverse) (hk : t.patternPieces = some (s.pieces.length - 4))
    (hp : t.conditionPosition = some position) : pre.length = position + whenLength := by
  obtain ⟨word, before, hs, hlength, -, hword⟩ := Lifting.exists_word hw
  obtain ⟨more, hmore⟩ := hpieces
  have hcount : s.pieces.length - 4 = before.reverse.length := by
    rw [hs, List.length_append, hlength, List.length_reverse, Nat.add_sub_cancel_left]
  have hsplit : t.pieces = before.reverse ++ (word.reverse ++ more.reverse) := by
    rw [← List.reverse_reverse t.pieces, ← hmore, hs]
    simp only [List.reverse_append, List.append_assoc]
  have hposition : position = (written before.reverse).length := by
    rw [conditionPosition, hk, hcount, hsplit, Option.map_some, List.take_left] at hp
    exact (Option.some.inj hp).symm
  rw [← ha.written_eq hm, hs, List.reverse_append, written_append, hword, List.length_append,
    hposition]
  rfl

end Template

end Destructure
