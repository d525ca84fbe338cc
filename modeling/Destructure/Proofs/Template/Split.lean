import Destructure.Proofs.Condition.Place
import Destructure.Proofs.Template.PatternPart

namespace Destructure

open Condition (IsQuote)

def IsSign (c : Char) : Prop :=
  c = '+' ∨ c = '-'

namespace Lifting

variable {s t u : Lifting} {b c d e : Char} {cs rest : List Char} {p q : Nat} {before : List Piece}

theorem ne_of_isBlank (hc : Text.isBlank c = true) (hd : Text.isBlank d = false) : c ≠ d := by
  rintro rfl
  cases hc.symm.trans hd

theorem not_isQuote_of_isBlank (hc : Text.isBlank c = true) : ¬ IsQuote c :=
  fun h => h.elim (ne_of_isBlank hc (by decide)) (ne_of_isBlank hc (by decide))

theorem not_isSign_of_isBlank (hc : Text.isBlank c = true) : ¬ IsSign c :=
  fun h => h.elim (ne_of_isBlank hc (by decide)) (ne_of_isBlank hc (by decide))

theorem isDigit_of_isBlank (hc : Text.isBlank c = true) : c.isDigit = false := by
  rw [← Bool.not_eq_true]
  intro hd
  cases (Text.isNameChar_of_isDigit hd).symm.trans (Text.isNameChar_of_isBlank hc)

theorem isNumberChar_of_isBlank (hc : Text.isBlank c = true) : isNumberChar c = false := by
  have hne {d : Char} (hd : Text.isBlank d = false) : (c == d) = false :=
    beq_eq_false_iff_ne.mpr (ne_of_isBlank hc hd)
  rw [isNumberChar, isDigit_of_isBlank hc, hne (by decide), hne (by decide), hne (by decide),
    hne (by decide), hne (by decide)]
  rfl

/-- Outside literals a blank is kept. -/
theorem enter_of_isBlank (hc : Text.isBlank c = true) : s.enter c = s.emit c s.position := by
  have hdigit : ¬ c.isDigit = true := by
    rw [isDigit_of_isBlank hc]
    exact Bool.false_ne_true
  have hq : ¬ (c = '\'' ∨ c = '"') := not_isQuote_of_isBlank hc
  have hsign : ¬ (c = '+' ∨ c = '-') := not_isSign_of_isBlank hc
  have hslash : c ≠ '/' := ne_of_isBlank hc (by decide)
  unfold enter
  rw [if_neg hq, if_neg hslash, if_neg hdigit, if_neg hsign]
  simp only [ite_self]

def HoldsQuote (s : Lifting) : Prop :=
  ∀ quote ∈ s.mode.quote?, IsQuote quote

theorem holdsQuote_step (hs : s.HoldsQuote) (h : s.step c = .ok t) : t.HoldsQuote := by
  intro quote hq
  rcases mode_step h with hm | hm | hm
  · rw [hm] at hq
    cases hq
  · generalize t.mode = mode at hm hq
    cases hm with
    | quote hc =>
      cases hq
      exact hc
    | _ => cases hq
  · exact hs quote (hm.mem_quote? hq)

theorem holdsQuote_foldlM (h : cs.foldlM step start = .ok s) : s.HoldsQuote := by
  have hstart : start.HoldsQuote := by
    intro quote hq
    nomatch hq
  exact Run.invariant (P := HoldsQuote) (fun _ _ _ _ hs h => holdsQuote_step hs h) hstart h

/-- A blank is taken within quotes and between slashes only, where no text may end. -/
theorem not_finish_of_takes {position : Nat} {mode : Mode} (hc : Text.isBlank c = true)
    (hm : mode.Takes position c t.mode) : t.finish ≠ .ok u := by
  intro hf
  unfold finish at hf
  generalize t.mode = next at hm hf
  cases hm with
  | digit sign hd => cases (isDigit_of_isBlank hc).symm.trans hd
  | number opened hn => cases (isNumberChar_of_isBlank hc).symm.trans hn
  | regex opened escaping =>
    unfold Mode.inRegex at hf
    rw [if_neg (ne_of_isBlank hc (by decide)), if_neg (ne_of_isBlank hc (by decide)), ite_self] at hf
    cases hf
  | _ => cases hf

theorem not_ends_of_isBlank {opened : Opened} {payload : Payload} (hs : s.HoldsQuote)
    (hc : Text.isBlank c = true) : ¬ s.mode.Ends c opened payload := by
  unfold HoldsQuote at hs
  generalize s.mode = mode at hs
  rintro (⟨opened, value, -⟩ | ⟨opened, hi⟩)
  · exact not_isQuote_of_isBlank hc (hs c rfl)
  · exact ne_of_isBlank hc (by decide) hi

/-- A text that may end with a blank ends outside literals there, and the blank is kept. -/
theorem settled_of_isBlank (hs : s.HoldsQuote) (hc : Text.isBlank c = true) (h : s.step c = .ok t)
    (hf : t.finish = .ok u) : t.mode = .outside ∧ ∃ p before, t.pieces = .plain c p :: before := by
  obtain ⟨v, hv, rfl⟩ := step_eq_ok.mp h
  cases advance_eq_ok.mp hv with
  | takes mode hm => exact absurd hf (not_finish_of_takes hc hm)
  | ends opened payload hl => exact absurd hl (not_ends_of_isBlank hs hc)
  | outside _ _ hout =>
    obtain ⟨-, rfl⟩ := outside_eq_ok.mp hout
    rw [enter_of_isBlank hc]
    exact ⟨rfl, _, _, rfl⟩

/-- The letters that can begin a name are kept wherever they stand outside literals. -/
theorem step_nameStart (hs : s.IsIdle) (hc : Text.isNameStart c = true) :
    s.step c = .ok (state (s.position + 1) (.plain c s.position :: s.pieces) none .outside) := by
  have hname := Text.isNameChar_of_isNameStart hc
  have hne : c ≠ '\'' ∧ c ≠ '"' ∧ c ≠ '/' ∧ c ≠ '+' ∧ c ≠ '-' :=
    Text.forall_nameChar (Q := fun c => c ≠ '\'' ∧ c ≠ '"' ∧ c ≠ '/' ∧ c ≠ '+' ∧ c ≠ '-')
      (by decide) hname
  obtain ⟨hsingle, hdouble, hslash, hplus, hminus⟩ := hne
  have henter := enter_eq_emit hs.2 ⟨hsingle, hdouble, hslash⟩
    (Or.inr ⟨Text.isDigit_of_isNameStart hc, hplus, hminus⟩)
  rw [step_enter hs.1 (Text.ne_markerChar_of_isNameChar hname)
    (Or.inl (Text.isBlank_of_isNameChar hname)), henter]
  exact congrArg Except.ok (eq_of_fields rfl rfl hs.2 rfl)

/-- The word that introduces a condition, with a blank behind it, where there is one before it. -/
theorem foldlM_step_when (hs : s.IsIdle) (hp : s.pieces = .plain b p :: before)
    (hb : Text.isBlank b = true) (hc : Text.isBlank c = true) :
    ∃ word, ['w', 'h', 'e', 'n', c].foldlM step s =
      .ok (state (s.position + 5) (word ++ s.pieces) (some s.pieces.length) .outside) := by
  refine ⟨[.plain c (s.position + 4), .plain 'n' (s.position + 3), .plain 'e' (s.position + 2),
    .plain 'h' (s.position + 1), .plain 'w' s.position], ?_⟩
  rw [Run.foldlM_cons_of_ok (step_nameStart hs (by decide)),
    Run.foldlM_cons_of_ok (step_nameStart ⟨rfl, rfl⟩ (by decide)),
    Run.foldlM_cons_of_ok (step_nameStart ⟨rfl, rfl⟩ (by decide)),
    Run.foldlM_cons_of_ok (step_nameStart ⟨rfl, rfl⟩ (by decide))]
  simp only [position_state, pieces_state]
  have hword : endsInWhen (state (s.position + 1 + 1 + 1 + 1)
      (.plain 'n' (s.position + 1 + 1 + 1) :: .plain 'e' (s.position + 1 + 1) ::
        .plain 'h' (s.position + 1) :: .plain 'w' s.position :: s.pieces) none .outside) = true := by
    refine endsInWhen_iff.mpr ⟨b, hb, before.map Piece.char?, ?_⟩
    rw [pieces_state, hp]
    rfl
  rw [Run.foldlM_cons_of_ok (step_blank ⟨rfl, rfl⟩ hword hc)]
  rfl

section Back

theorem enter_of_outside (h : (s.enter c).mode = .outside) : s.enter c = s.emit c s.position := by
  rcases enter_cases s c with henter | ⟨mode, hmode, henter⟩
  · exact henter
  · rw [henter] at h
    obtain rfl : mode = .outside := h
    cases hmode

theorem Settles.isSign (h : s.Settles t) (hs : s.mode ≠ .outside) (hsign : s.HoldsSign)
    (hp : t.pieces = .plain c p :: before) : IsSign c := by
  cases h with
  | outside hm => exact absurd hm hs
  | sign d hm =>
    cases hp
    exact hsign _ hm
  | close opened payload hm => cases hp

/-- Two characters that are kept, none of them a sign, were read one after the other. -/
theorem step_back (hsign : s.HoldsSign) (h : s.step c = .ok t) (hm : t.mode = .outside)
    (hp : t.pieces = .plain d p :: .plain e q :: before) (hd : ¬ IsSign d) (he : ¬ IsSign e) :
    c = d ∧ s.mode = .outside ∧ s.pieces = .plain e q :: before := by
  obtain ⟨u, hu, rfl⟩ := step_eq_ok.mp h
  have houtside {v : Lifting} (h : v.outside c = .ok u) :
      c = d ∧ v.pieces = .plain e q :: before := by
    obtain ⟨-, rfl⟩ := outside_eq_ok.mp h
    have hpieces : ((v.beginCondition c).enter c).pieces = .plain d p :: .plain e q :: before := hp
    rw [enter_of_outside hm, emit_eq_state, pieces_state, pieces_beginCondition] at hpieces
    obtain ⟨hlast, hbefore⟩ := List.cons.inj hpieces
    cases hlast
    exact ⟨rfl, hbefore⟩
  by_cases hs : s.mode = .outside
  · unfold advance at hu
    rw [hs] at hu
    obtain ⟨hc, hpieces⟩ := houtside hu
    exact ⟨hc, hs, hpieces⟩
  · rcases advance_cases hu with ⟨mode, hstart, rfl⟩ | hsettles | ⟨v, hv, hv'⟩
    · obtain rfl : mode = .outside := hm
      cases hmode : s.mode with
      | outside => exact absurd hmode hs
      | _ =>
        rw [hmode] at hstart
        cases hstart
    · exact absurd (hsettles.isSign hs hsign hp) hd
    · exact absurd (hv.isSign hs hsign (houtside hv').2) he

/-- A text of which two such characters are kept last ends in the second of them. -/
theorem foldlM_back (h : cs.foldlM step start = .ok t) (ht : t.IsIdle)
    (hp : t.pieces = .plain d p :: .plain e q :: before) (hd : ¬ IsSign d) (he : ¬ IsSign e) :
    ∃ front s, cs = front ++ [d] ∧ front.foldlM step start = .ok s ∧ s.IsIdle ∧
      s.pieces = .plain e q :: before := by
  rcases List.eq_nil_or_concat cs with rfl | ⟨front, c, rfl⟩
  · cases h
    cases hp
  · rw [List.concat_eq_append] at h ⊢
    obtain ⟨s, hs, hc⟩ := Run.foldlM_append_eq_ok.mp h
    obtain ⟨u, hu, hnil⟩ := Run.foldlM_cons_eq_ok.mp hc
    cases hnil
    obtain ⟨rfl, hm, hpieces⟩ := step_back (holdsSign_foldlM hs) hu ht.1 hp hd he
    exact ⟨front, s, rfl, hs, ⟨hm, patternPieces_of_step hu ht.2⟩, hpieces⟩

/-- What was read before the word that introduces a condition. -/
theorem exists_before_when (h : cs.foldlM step start = .ok t) (ht : t.IsIdle)
    (hw : t.endsInWhen = true) :
    ∃ front s b p before, cs = front ++ ['w', 'h', 'e', 'n'] ∧ front.foldlM step start = .ok s ∧
      s.IsIdle ∧ s.pieces = .plain b p :: before ∧ Text.isBlank b = true := by
  have hsign {c : Char} (hc : c ≠ '+' ∧ c ≠ '-') : ¬ IsSign c := fun h => h.elim hc.1 hc.2
  obtain ⟨b, hblank, rest, hletters⟩ := endsInWhen_iff.mp hw
  obtain ⟨_, _, hp, hn⟩ := Piece.map_char?_eq_cons.mp hletters.symm
  obtain ⟨_, _, rfl, he⟩ := Piece.map_char?_eq_cons.mp hn
  obtain ⟨_, _, rfl, hh⟩ := Piece.map_char?_eq_cons.mp he
  obtain ⟨_, _, rfl, hw⟩ := Piece.map_char?_eq_cons.mp hh
  obtain ⟨p, before, rfl, -⟩ := Piece.map_char?_eq_cons.mp hw
  have hb := not_isSign_of_isBlank hblank
  obtain ⟨front, s, rfl, hs, hidle, hp⟩ := foldlM_back h ht hp (hsign (by decide)) (hsign (by decide))
  obtain ⟨front, s, rfl, hs, hidle, hp⟩ :=
    foldlM_back hs hidle hp (hsign (by decide)) (hsign (by decide))
  obtain ⟨front, s, rfl, hs, hidle, hp⟩ :=
    foldlM_back hs hidle hp (hsign (by decide)) (hsign (by decide))
  obtain ⟨front, s, rfl, hs, hidle, hp⟩ := foldlM_back hs hidle hp (hsign (by decide)) hb
  refine ⟨front, s, b, p, before, ?_, hs, hidle, hp, hblank⟩
  simp only [List.append_assoc, List.cons_append, List.nil_append]

end Back

end Lifting

structure Template.Continues (whole t : Template) : Prop where
  count : whole.patternPieces = some t.pieces.length
  pieces : t.pieces <+: whole.pieces

namespace Template

variable {front rest : List Char} {t whole : Template} {c : Char}

def IsFront (front : List Char) (t : Template) : Prop :=
  ofText front = .ok t ∧ t.patternPieces = none ∧ ∃ b ∈ front.getLast?, Text.isBlank b = true

/-- The word that introduces a condition ends a text that can stand before it. -/
theorem IsFront.exists_foldlM (h : IsFront front t) (hc : Text.isBlank c = true) :
    ∃ s : Lifting, (front ++ ['w', 'h', 'e', 'n', c]).foldlM Lifting.step .start = .ok s ∧
      s.mode = .outside ∧ s.patternPieces = some t.pieces.length ∧
      t.pieces.reverse <:+ s.pieces := by
  obtain ⟨ht, hk, b, hlast, hb⟩ := h
  obtain ⟨s, u, hs, hu, rfl⟩ := ofText_eq_ok.mp ht
  obtain ⟨init, rfl⟩ := List.getLast?_eq_some_iff.mp hlast
  obtain ⟨v, hv, hstep⟩ := Run.foldlM_append_eq_ok.mp hs
  obtain ⟨w, hw, hnil⟩ := Run.foldlM_cons_eq_ok.mp hstep
  cases hnil
  obtain ⟨hm, p, before, hp⟩ := Lifting.settled_of_isBlank (Lifting.holdsQuote_foldlM hv) hb hw hu
  obtain rfl : s = u := by
    unfold Lifting.finish at hu
    rw [hm] at hu
    exact Except.ok.inj hu
  obtain ⟨word, hword⟩ := Lifting.foldlM_step_when ⟨hm, hk⟩ hp hb hc
  refine ⟨_, (Run.foldlM_append_of_ok hs _).trans hword, rfl, ?_, word, ?_⟩
  · rw [List.length_reverse, Lifting.patternPieces_state]
  · rw [List.reverse_reverse, Lifting.pieces_state]

/-- What comes behind the word that introduces a condition does not change what comes before it. -/
theorem IsFront.continues (h : IsFront front t) (hc : Text.isBlank c = true)
    (hw : ofText (front ++ ['w', 'h', 'e', 'n'] ++ c :: rest) = .ok whole) : whole.Continues t := by
  obtain ⟨s, hs, -, hk, hpieces⟩ := h.exists_foldlM hc
  obtain ⟨v, u, hv, hu, rfl⟩ := ofText_eq_ok.mp hw
  have hsplit : front ++ ['w', 'h', 'e', 'n'] ++ c :: rest =
      front ++ ['w', 'h', 'e', 'n', c] ++ rest := by simp
  rw [hsplit, Run.foldlM_append_of_ok hs] at hv
  have hrun : s.run rest = .ok u := Run.bind_eq_ok.mpr ⟨v, hv, hu⟩
  refine ⟨Lifting.patternPieces_run hk hrun, ?_⟩
  have hsuffix := hpieces.trans (Lifting.isSuffix_pieces_run hrun)
  have := List.reverse_prefix.mpr hsuffix
  rwa [List.reverse_reverse] at this

/-- A condition that has tokens can be written behind a text that can stand before it. -/
theorem IsFront.exists_ofText (h : IsFront front t) (hc : Text.isBlank c = true) {place : Int}
    {tokens : List Condition.Token}
    (hscan : Condition.Token.scanFrom 0 place rest = .ok tokens) :
    ∃ whole, ofText (front ++ ['w', 'h', 'e', 'n'] ++ c :: rest) = .ok whole := by
  obtain ⟨s, hs, hm, hk, -⟩ := h.exists_foldlM hc
  have hsome : s.patternPieces.isSome = true := by
    rw [hk]
    rfl
  obtain ⟨u, hu⟩ := Lifting.exists_run_of_scans hm hsome (fun d hd => by nomatch hd)
    (Condition.Token.scanFrom_eq_ok.mp hscan)
  obtain ⟨v, hv, hu⟩ := Run.bind_eq_ok.mp hu
  have hsplit : front ++ ['w', 'h', 'e', 'n'] ++ c :: rest =
      front ++ ['w', 'h', 'e', 'n', c] ++ rest := by simp
  refine ⟨_, ofText_eq_ok.mpr ⟨v, u, ?_, hu, rfl⟩⟩
  rw [hsplit, Run.foldlM_append_of_ok hs]
  exact hv

/-- A text with a condition can be split at the word that introduces it. -/
theorem exists_isFront {text : List Char} {position : Nat} (h : ofText text = .ok whole)
    (hp : whole.conditionPosition = some position) :
    ∃ front t c rest, text = front ++ ['w', 'h', 'e', 'n'] ++ c :: rest ∧ IsFront front t ∧
      Text.isBlank c = true ∧ front.length = position := by
  obtain ⟨count, hk, -⟩ := Option.map_eq_some_iff.mp hp
  obtain ⟨pre, c, rest, s, u, rfl, hs, hidle, hwhen, hc, rfl, hrun, hpieces⟩ :=
    exists_begin_of_ofText h hk
  have haligned := Lifting.isAligned_foldlM Lifting.isAligned_start hs
  have hsuffix : s.pieces <:+ whole.pieces.reverse := by
    rw [hpieces, List.reverse_reverse]
    exact Lifting.isSuffix_pieces_run hrun
  have hlength := length_of_conditionPosition haligned hidle.1 hwhen hsuffix hk hp
  obtain ⟨front, v, b, p, before, rfl, hv, hvidle, hvp, hb⟩ :=
    Lifting.exists_before_when hs hidle hwhen
  have hfront : v.IsAligned front := Lifting.isAligned_foldlM Lifting.isAligned_start hv
  refine ⟨front, ⟨v.pieces.reverse, none⟩, c, rest, rfl, ⟨?_, rfl, b, ?_, hb⟩, hc, ?_⟩
  · refine ofText_eq_ok.mpr ⟨v, v, hv, ?_, ?_⟩
    · exact (Lifting.run_nil hvidle.1)
    · rw [hvidle.2]
  · rw [← hfront.written_eq hvidle.1, hvp, List.reverse_cons, written_concat]
    exact List.getLast?_concat ..
  · simp only [List.nil_append, List.length_append, List.length_cons, List.length_nil,
      whenLength] at hlength
    omega

section Continues

theorem Continues.take_eq (h : whole.Continues t) : whole.pieces.take t.pieces.length = t.pieces := by
  obtain ⟨more, hmore⟩ := h.pieces
  rw [← hmore, List.take_left]

theorem Continues.patternCells_eq (h : whole.Continues t) : whole.patternCells = t.cells := by
  rw [patternCells, h.count]
  dsimp only
  rw [h.take_eq]
  rfl

theorem Continues.conditionPosition_eq (h : whole.Continues t) :
    whole.conditionPosition = some (written t.pieces).length := by
  rw [conditionPosition_of_some h.count, h.take_eq]

/-- Literals keep their numbers. -/
theorem Continues.literal?_eq (h : whole.Continues t) {number : Nat} {l : Literal}
    (hl : t.literal? number = some l) : whole.literal? number = some l := by
  obtain ⟨more, hmore⟩ := h.pieces
  have hliterals : whole.literals = t.literals ++ literalsOf more := by
    rw [literals, ← hmore, literalsOf_append]
    rfl
  unfold literal? at hl ⊢
  split at hl
  · cases hl
  · rename_i hnumber
    obtain ⟨hlt, -⟩ := List.getElem?_eq_some_iff.mp hl
    rw [if_neg hnumber, hliterals, List.getElem?_append_left hlt]
    exact hl

end Continues

end Template

end Destructure
