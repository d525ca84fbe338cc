import Destructure.Proofs.Pattern.Words
import Destructure.Proofs.Template.Lift
import Destructure.Proofs.Text.Letter

namespace Destructure

open Pattern (textOf quoteText escapeChar)

def Piece.content : Piece → Char ⊕ Payload
  | .plain c _ => .inl c
  | .literal l => .inr l.payload

def Word.contents : Word → List (Char ⊕ Payload)
  | .literal payload => [.inr payload]
  | w => w.text.map .inl

namespace Lifting

def run (s : Lifting) (cs : List Char) : Except Failure Lifting :=
  cs.foldlM step s >>= finish

def IsIdle (s : Lifting) : Prop :=
  s.mode = .outside ∧ s.patternPieces = none

def contents (s : Lifting) : List (Char ⊕ Payload) :=
  s.pieces.map Piece.content

def Extends (s t : Lifting) (more : List (Char ⊕ Payload)) : Prop :=
  t.IsIdle ∧ t.contents = more.reverse ++ s.contents

variable {s t u : Lifting} {c : Char} {cs rest : List Char}

theorem Extends.trans {a b : List (Char ⊕ Payload)} (h : s.Extends t a) (g : t.Extends u b) :
    s.Extends u (a ++ b) := by
  refine ⟨g.1, ?_⟩
  rw [g.2, h.2, List.reverse_append, List.append_assoc]

theorem run_append_of_ok (h : cs.foldlM step s = .ok t) : run s (cs ++ rest) = run t rest := by
  rw [run, Run.foldlM_append_of_ok h]
  rfl

theorem run_cons_of_ok (h : step s c = .ok t) : run s (c :: rest) = run t rest := by
  rw [run, Run.foldlM_cons_of_ok h]
  rfl

theorem run_nil (hs : s.mode = .outside) : run s [] = .ok s := by
  change s.finish = .ok s
  unfold finish
  rw [hs]

/-- A literal that waits for the next character to end may end before that. -/
theorem run_of_pending (ht : t.mode = .outside) (hf : s.finish = .ok t)
    (hr : ∀ c ∈ rest.head?, s.advance c = t.outside c) : run s rest = run t rest := by
  cases rest with
  | nil => exact hf.trans (run_nil ht).symm
  | cons c rest =>
    have ha : t.advance c = t.outside c := by
      unfold advance
      rw [ht]
    have hstep : s.step c = t.step c := by
      rw [step, step, hr c rfl, ha]
    rw [run, run, List.foldlM_cons, List.foldlM_cons, hstep]

theorem beginCondition_of_not_blank (h : Text.isBlank c = false ∨ s.endsInWhen = false) :
    s.beginCondition c = s := by
  unfold beginCondition
  rcases h with h | h <;> rw [h] <;> simp

theorem enter_eq_emit (hs : s.patternPieces = none) (hq : c ≠ '\'' ∧ c ≠ '"' ∧ c ≠ '/')
    (hd : s.endsInName = true ∨ c.isDigit = false ∧ c ≠ '+' ∧ c ≠ '-') :
    s.enter c = s.emit c s.position := by
  have hsome : ¬ s.patternPieces.isSome = true := by
    rw [hs]
    exact Bool.false_ne_true
  unfold enter
  rw [if_neg fun h => h.elim hq.1 hq.2.1, if_neg hsome, if_neg hq.2.2]
  split
  · rfl
  · rename_i hn
    obtain hd | ⟨hd, hsign⟩ := hd
    · exact absurd hd hn
    · rw [if_neg (by rw [hd]; exact Bool.false_ne_true), if_neg fun h => h.elim hsign.1 hsign.2]

theorem step_enter (hs : s.mode = .outside) (hc : c ≠ markerChar)
    (hb : Text.isBlank c = false ∨ s.endsInWhen = false) :
    s.step c = .ok { s.enter c with position := s.position + 1 } := by
  refine step_eq_ok.mpr ⟨s.enter c, ?_, by rw [position_enter]⟩
  unfold advance
  rw [hs]
  dsimp only
  rw [outside_eq _ hc, beginCondition_of_not_blank hb]

/-- A character that neither begins a literal nor ends the word before a condition. -/
theorem step_emit (hs : s.IsIdle) (hq : c ≠ markerChar ∧ c ≠ '\'' ∧ c ≠ '"' ∧ c ≠ '/')
    (hb : Text.isBlank c = false ∨ s.endsInWhen = false)
    (hd : s.endsInName = true ∨ c.isDigit = false ∧ c ≠ '+' ∧ c ≠ '-') :
    ∃ t, s.step c = .ok t ∧ s.Extends t [.inl c] := by
  refine ⟨_, step_enter hs.1 hq.1 hb, ?_⟩
  rw [enter_eq_emit hs.2 hq.2 hd]
  exact ⟨⟨rfl, hs.2⟩, rfl⟩

theorem endsInName_of_contents {more : List (Char ⊕ Payload)} (h : s.contents = .inl c :: more) :
    s.endsInName = Text.isNameChar c := by
  obtain ⟨position, pieces, patternPieces, mode, _, rfl⟩ := s
  cases pieces with
  | nil => cases h
  | cons piece pieces =>
    cases piece with
    | literal l => cases h
    | plain d p =>
      cases h
      exact congrArg Text.isNameChar (Trail.last_emit _ c)

/-- The characters of a name, behind a name or from its first character on. -/
theorem foldlM_step_nameChars (hs : s.IsIdle) (hcs : ∀ c ∈ cs, Text.isNameChar c = true)
    (hd : s.endsInName = true ∨ ∀ c ∈ cs.head?, c.isDigit = false) :
    ∃ t, cs.foldlM step s = .ok t ∧ s.Extends t (cs.map .inl) := by
  induction cs generalizing s with
  | nil => exact ⟨s, rfl, hs, rfl⟩
  | cons c cs ih =>
    obtain ⟨hc, hcs⟩ := List.forall_mem_cons.mp hcs
    have hq : c ≠ markerChar ∧ c ≠ '\'' ∧ c ≠ '"' ∧ c ≠ '/' :=
      Text.forall_nameChar (Q := fun c => c ≠ markerChar ∧ c ≠ '\'' ∧ c ≠ '"' ∧ c ≠ '/')
        (by decide) hc
    have hsign : c ≠ '+' ∧ c ≠ '-' :=
      Text.forall_nameChar (Q := fun c => c ≠ '+' ∧ c ≠ '-') (by decide) hc
    obtain ⟨t, ht, he⟩ := step_emit hs hq (Or.inl (Text.isBlank_of_isNameChar hc))
      (hd.imp_right fun h => ⟨h c rfl, hsign⟩)
    have hname : t.endsInName = true := (endsInName_of_contents he.2).trans hc
    obtain ⟨u, hu, hext⟩ := ih he.1 hcs (Or.inl hname)
    exact ⟨u, Run.foldlM_cons_eq_ok.mpr ⟨t, ht, hu⟩, he.trans hext⟩

/-- A quoted text. -/
theorem run_text (hs : s.IsIdle) (value : List Char) :
    ∃ t, s.Extends t [.inr (.text value)] ∧ run s (quoteText value ++ rest) = run t rest := by
  have hopen : s.step '\'' = .ok (state (s.position + 1) s.pieces s.patternPieces
      (.quoted ⟨s.position, ['\'']⟩ '\'' [] false)) := by
    rw [step_enter hs.1 (by decide) (Or.inl (by decide)), enter, if_pos (Or.inl rfl)]
    exact congrArg Except.ok (eq_of_fields rfl rfl rfl rfl)
  have hq : quoteText value = '\'' :: (value.flatMap escapeChar ++ ['\'']) := rfl
  refine ⟨state (s.position + 1 + (value.flatMap escapeChar).length + 1)
    (.literal ⟨.text value, quoteText value, s.position⟩ :: s.pieces) s.patternPieces .outside,
    ⟨⟨rfl, hs.2⟩, rfl⟩, ?_⟩
  rw [hq, List.cons_append, run_cons_of_ok hopen, run_append_of_ok (foldlM_step_quoted ..)]
  rfl

/-- The characters of a number behind the first. -/
theorem foldlM_step_number (position : Nat) (pieces : List Piece) (patternPieces : Option Nat)
    (opened : Opened) (hcs : ∀ c ∈ cs, isNumberChar c = true) :
    cs.foldlM step (state position pieces patternPieces (.number opened)) =
      .ok (state (position + cs.length) pieces patternPieces
        (.number ⟨opened.start, cs.reverse ++ opened.raw⟩)) := by
  induction cs generalizing position opened with
  | nil => rfl
  | cons c cs ih =>
    obtain ⟨hc, hcs⟩ := List.forall_mem_cons.mp hcs
    have hstep : step (state position pieces patternPieces (.number opened)) c =
        .ok (state (position + 1) pieces patternPieces (.number (opened.push c))) := by
      unfold step advance state
      dsimp only
      rw [if_pos hc]
      rfl
    rw [Run.foldlM_cons_of_ok hstep, ih _ _ hcs, List.length_cons, List.reverse_cons,
      List.append_assoc, Nat.add_right_comm, Nat.add_assoc]
    rfl

theorem step_digit (hs : s.IsIdle) (hn : s.endsInName = false) (hc : c.isDigit = true) :
    s.step c =
      .ok (state (s.position + 1) s.pieces s.patternPieces (.number ⟨s.position, [c]⟩)) := by
  have hname := Text.isNameChar_of_isDigit hc
  have hq : c ≠ '\'' ∧ c ≠ '"' ∧ c ≠ '/' :=
    Text.forall_nameChar (Q := fun c => c ≠ '\'' ∧ c ≠ '"' ∧ c ≠ '/') (by decide) hname
  have hsome : ¬ s.patternPieces.isSome = true := by
    rw [hs.2]
    exact Bool.false_ne_true
  rw [step_enter hs.1 (Text.ne_markerChar_of_isNameChar hname)
    (Or.inl (Text.isBlank_of_isNameChar hname)), enter, if_neg fun h => h.elim hq.1 hq.2.1,
    if_neg hsome, if_neg hq.2.2, if_neg (by rw [hn]; decide), if_pos hc]
  exact congrArg Except.ok (eq_of_fields rfl rfl rfl rfl)

theorem step_minus (hs : s.IsIdle) (hn : s.endsInName = false) :
    s.step '-' = .ok (state (s.position + 1) s.pieces s.patternPieces (.sign '-')) := by
  have hsome : ¬ s.patternPieces.isSome = true := by
    rw [hs.2]
    exact Bool.false_ne_true
  rw [step_enter hs.1 (by decide) (Or.inl (by decide)), enter, if_neg (by decide), if_neg hsome,
    if_neg (by decide), if_neg (by rw [hn]; decide), if_neg (by decide), if_pos (Or.inr rfl)]
  exact congrArg Except.ok (eq_of_fields rfl rfl rfl rfl)

/-- A numeral with its sign up to its end. -/
theorem foldlM_step_numeral (hs : s.IsIdle) (hn : s.endsInName = false) (negative : Bool)
    (hc : c.isDigit = true) (hcs : ∀ d ∈ cs, isNumberChar d = true) :
    ∃ position, (signed negative (c :: cs)).foldlM step s =
      .ok (state position s.pieces s.patternPieces
        (.number ⟨s.position, (signed negative (c :: cs)).reverse⟩)) := by
  cases negative with
  | false =>
    refine ⟨s.position + 1 + cs.length, ?_⟩
    rw [signed, if_neg (by decide), Run.foldlM_cons_of_ok (step_digit hs hn hc),
      foldlM_step_number _ _ _ _ hcs, List.reverse_cons]
  | true =>
    have hdigit : step (state (s.position + 1) s.pieces s.patternPieces (.sign '-')) c =
        .ok (state (s.position + 2) s.pieces s.patternPieces (.number ⟨s.position, [c, '-']⟩)) := by
      unfold step advance state
      dsimp only
      rw [if_pos hc]
      rfl
    refine ⟨s.position + 2 + cs.length, ?_⟩
    rw [signed, if_pos rfl, Run.foldlM_cons_of_ok (step_minus hs hn), Run.foldlM_cons_of_ok hdigit,
      foldlM_step_number _ _ _ _ hcs, List.reverse_cons, List.reverse_cons, List.append_assoc]
    rfl

def IsSeparator (c : Char) : Prop :=
  c = ' ' ∨ (Lexeme.punctuation? c).isSome = true

theorem forall_separator {Q : Char → Prop} (hb : Q ' ')
    (h : Q '[' ∧ Q ']' ∧ Q '\x7b' ∧ Q '\x7d' ∧ Q ',' ∧ Q '=' ∧ Q '|') (hc : IsSeparator c) : Q c := by
  rcases hc with rfl | hc
  · exact hb
  · exact Lexeme.forall_punctuation h hc

/-- A finite number. -/
theorem run_number (hs : s.IsIdle) (hn : s.endsInName = false) {number : Number}
    (hw : number.isWritable = true) (hf : number.isFinite = true)
    (hr : ∀ c ∈ rest.head?, IsSeparator c) :
    ∃ t, s.Extends t [.inr (.number number)] ∧ run s (number.render ++ rest) = run t rest := by
  obtain ⟨negative, first, digits, hrender, hfirst, hdigits, hread⟩ :=
    Number.readNumber_render hw hf
  obtain ⟨position, hfold⟩ := foldlM_step_numeral hs hn negative hfirst hdigits
  rw [← hrender] at hfold
  have hclose : closeNumber (state position s.pieces s.patternPieces
      (.number ⟨s.position, number.render.reverse⟩)) ⟨s.position, number.render.reverse⟩ =
      .ok (state position
        (.literal ⟨.number number, number.render.reverse.reverse, s.position⟩ :: s.pieces)
        s.patternPieces .outside) := by
    rw [closeNumber, hread]
    rfl
  refine ⟨state position
    (.literal ⟨.number number, number.render.reverse.reverse, s.position⟩ :: s.pieces)
    s.patternPieces .outside, ⟨⟨rfl, hs.2⟩, rfl⟩, ?_⟩
  rw [run_append_of_ok hfold]
  refine run_of_pending rfl hclose fun c hc => ?_
  have hstop : isNumberChar c = false :=
    forall_separator (Q := fun c => isNumberChar c = false) (by decide) (by decide) (hr c hc)
  refine (if_neg (Bool.eq_false_iff.mp hstop)).trans ?_
  rw [hclose]
  rfl

/-- The characters between slashes. -/
theorem foldlM_step_inSlashes (position : Nat) (pieces : List Piece) (patternPieces : Option Nat)
    (opened : Opened) {escaping : Bool} (hcs : fitsSlashes escaping cs = true) :
    cs.foldlM step (state position pieces patternPieces (.regex opened escaping)) =
      .ok (state (position + cs.length) pieces patternPieces
        (.regex ⟨opened.start, cs.reverse ++ opened.raw⟩ false)) := by
  induction cs generalizing position opened escaping with
  | nil =>
    rw [fitsSlashes, Bool.not_eq_true'] at hcs
    rw [hcs]
    rfl
  | cons c cs ih =>
    obtain ⟨next, hstep, hnext⟩ : ∃ next,
        step (state position pieces patternPieces (.regex opened escaping)) c =
          .ok (state (position + 1) pieces patternPieces (.regex (opened.push c) next)) ∧
        fitsSlashes next cs = true := by
      cases escaping with
      | true => exact ⟨false, rfl, hcs⟩
      | false =>
        rw [fitsSlashes] at hcs
        by_cases hb : c = '\\'
        · rw [if_pos hb] at hcs
          refine ⟨true, ?_, hcs⟩
          unfold step advance state
          dsimp only
          rw [if_neg Bool.false_ne_true, if_pos hb]
          rfl
        · rw [if_neg hb, Bool.and_eq_true, bne_iff_ne] at hcs
          refine ⟨false, ?_, hcs.2⟩
          unfold step advance state
          dsimp only
          rw [if_neg Bool.false_ne_true, if_neg hb, if_neg hcs.1]
          rfl
    rw [Run.foldlM_cons_of_ok hstep, ih _ _ hnext, List.length_cons, List.reverse_cons,
      List.append_assoc, Nat.add_right_comm, Nat.add_assoc]
    rfl

/-- A regular expression with its flag. -/
theorem run_regex (hs : s.IsIdle) {source : List Char} (hf : fitsSlashes false source = true)
    (ignoreCase : Bool) (hr : ∀ c ∈ rest.head?, IsSeparator c) :
    ∃ t, s.Extends t [.inr (.regex source ignoreCase)] ∧
      run s ((Payload.regex source ignoreCase).written ++ rest) = run t rest := by
  have hsome : ¬ s.patternPieces.isSome = true := by
    rw [hs.2]
    exact Bool.false_ne_true
  have hopen : s.step '/' =
      .ok (state (s.position + 1) s.pieces s.patternPieces
        (.regex ⟨s.position, ['/']⟩ false)) := by
    rw [step_enter hs.1 (by decide) (Or.inl (by decide)), enter, if_neg (by decide), if_neg hsome,
      if_pos rfl]
    exact congrArg Except.ok (eq_of_fields rfl rfl rfl rfl)
  have hbody := foldlM_step_inSlashes (s.position + 1) s.pieces s.patternPieces ⟨s.position, ['/']⟩ hf
  let ended : Lifting := state (s.position + 1 + source.length + 1) s.pieces s.patternPieces
    (.regexEnd ⟨s.position, '/' :: (source.reverse ++ ['/'])⟩)
  have hend : (source ++ ['/']).foldlM step
      (state (s.position + 1) s.pieces s.patternPieces (.regex ⟨s.position, ['/']⟩ false)) =
        .ok ended := by
    rw [Run.foldlM_append_of_ok hbody]
    rfl
  have hsource : ((source.reverse ++ ['/']).reverse).drop 1 = source := by
    rw [List.reverse_append, List.reverse_reverse]
    rfl
  have hw : (Payload.regex source ignoreCase).written =
      '/' :: (source ++ ['/'] ++ if ignoreCase then ['i'] else []) := by
    rw [Payload.written, List.append_assoc]
    rfl
  rw [hw, List.cons_append, run_cons_of_ok hopen, List.append_assoc, run_append_of_ok hend]
  cases ignoreCase with
  | true =>
    refine ⟨state (ended.position + 1) _ s.patternPieces .outside, ⟨⟨rfl, hs.2⟩, ?_⟩,
      run_cons_of_ok rfl⟩
    exact congrArg (fun content => .inr (.regex content true) :: s.contents) hsource
  | false =>
    refine ⟨state ended.position _ s.patternPieces .outside, ⟨⟨rfl, hs.2⟩, ?_⟩,
      run_of_pending rfl rfl fun c hc => ?_⟩
    · exact congrArg (fun content => .inr (.regex content false) :: s.contents) hsource
    · have hi : c ≠ 'i' :=
        forall_separator (Q := fun c => c ≠ 'i') (by decide) (by decide) (hr c hc)
      exact if_neg hi

def Allows : Word → Char → Prop
  | .literal _, c => IsSeparator c
  | .dash, c => c.isDigit = false
  | _, _ => True

/-- A word is lifted out as it was written. -/
theorem run_word (hs : s.IsIdle) {w : Word} (hw : w.IsPlain)
    (hn : s.endsInName = true → w.isSoft = true) (hb : w = .blank → s.endsInWhen = false)
    (hr : ∀ c ∈ rest.head?, Allows w c) :
    ∃ t, s.Extends t w.contents ∧ run s (w.text ++ rest) = run t rest := by
  have hname (hsoft : w.isSoft = false) : s.endsInName = false := by
    rw [← Bool.not_eq_true]
    intro h
    rw [hn h] at hsoft
    cases hsoft
  cases w with
  | mark c =>
    have hq := Lexeme.forall_punctuation (Q := fun c => c ≠ markerChar ∧ c ≠ '\'' ∧ c ≠ '"' ∧ c ≠ '/')
      (by decide) hw
    have hd := Lexeme.forall_punctuation
      (Q := fun c => Text.isBlank c = false ∧ c.isDigit = false ∧ c ≠ '+' ∧ c ≠ '-') (by decide) hw
    obtain ⟨t, ht, he⟩ := step_emit hs hq (Or.inl hd.1) (Or.inr hd.2)
    exact ⟨t, he, run_cons_of_ok ht⟩
  | blank =>
    obtain ⟨t, ht, he⟩ := step_emit (c := ' ') hs (by decide) (Or.inr (hb rfl)) (Or.inr (by decide))
    exact ⟨t, he, run_cons_of_ok ht⟩
  | dash =>
    have hm := step_minus hs (hname rfl)
    refine ⟨state (s.position + 1) (.plain '-' s.position :: s.pieces) s.patternPieces .outside,
      ⟨⟨rfl, hs.2⟩, rfl⟩, ?_⟩
    rw [Word.text, List.cons_append, run_cons_of_ok hm]
    refine run_of_pending rfl rfl fun c hc => ?_
    have hd : ¬ c.isDigit = true := by
      rw [hr c hc]
      exact Bool.false_ne_true
    exact if_neg hd
  | name cs =>
    obtain ⟨c, cs, rfl⟩ : ∃ d ds, cs = d :: ds := by
      cases cs with
      | nil => cases hw
      | cons d ds => exact ⟨d, ds, rfl⟩
    obtain ⟨hstart, hall⟩ := Bool.and_eq_true_iff.mp hw
    have hchars : ∀ d ∈ c :: cs, Text.isNameChar d = true :=
      List.forall_mem_cons.mpr
        ⟨Text.isNameChar_of_isNameStart hstart, List.all_eq_true.mp hall⟩
    obtain ⟨t, ht, he⟩ := foldlM_step_nameChars hs hchars (Or.inr fun d hd => by
      cases hd
      exact Text.isDigit_of_isNameStart hstart)
    exact ⟨t, he, run_append_of_ok ht⟩
  | literal payload =>
    cases payload with
    | text value => exact run_text hs value
    | number n => exact run_number hs (hname rfl) hw.1.1 (hw.2 n rfl) hr
    | regex source ignoreCase => exact run_regex hs hw.1 ignoreCase hr

theorem patternPieces_enter (s : Lifting) (c : Char) :
    (s.enter c).patternPieces = s.patternPieces := by
  rcases enter_cases s c with h | ⟨mode, -, h⟩ <;> rw [h]
  rfl

theorem Settles.patternPieces_eq (h : s.Settles t) : t.patternPieces = s.patternPieces := by
  cases h <;> rfl

/-- Once a condition has begun, it goes on to the end. -/
theorem patternPieces_step {count : Nat} (hs : s.patternPieces = some count)
    (h : s.step c = .ok t) : t.patternPieces = some count := by
  obtain ⟨u, hu, rfl⟩ := step_eq_ok.mp h
  rcases advance_cases hu with ⟨mode, -, rfl⟩ | h | ⟨v, hv, h⟩
  · exact hs
  · exact h.patternPieces_eq.trans hs
  · obtain ⟨-, rfl⟩ := outside_eq_ok.mp h
    have hsome : v.patternPieces = some count := hv.patternPieces_eq.trans hs
    have hbegin : v.beginCondition c = v := by
      rw [beginCondition, hsome]
      rfl
    change (enter _ c).patternPieces = some count
    rw [patternPieces_enter, hbegin, hsome]

theorem patternPieces_run {count : Nat} (hs : s.patternPieces = some count)
    (h : run s cs = .ok t) : t.patternPieces = some count := by
  obtain ⟨u, hu, ht⟩ := Run.bind_eq_ok.mp h
  have hcount := Run.invariant (P := fun s => s.patternPieces = some count)
    (fun _ _ _ _ hs h => patternPieces_step hs h) hs hu
  exact (finish_settles ht).patternPieces_eq.trans hcount

/-- A blank behind the word that introduces a condition. -/
theorem isSome_of_endsInWhen (hs : s.IsIdle) (hw : s.endsInWhen = true)
    (h : run s (' ' :: cs) = .ok t) : t.patternPieces.isSome = true := by
  obtain ⟨u, hu, ht⟩ := Run.bind_eq_ok.mp h
  obtain ⟨v, hv, hr⟩ := Run.foldlM_cons_eq_ok.mp hu
  have hrun : run v cs = .ok t := Run.bind_eq_ok.mpr ⟨u, hr, ht⟩
  have hv : v.patternPieces = some (s.pieces.length - 4) := by
    obtain ⟨w, hstep, rfl⟩ := step_eq_ok.mp hv
    unfold advance at hstep
    rw [hs.1] at hstep
    obtain ⟨-, rfl⟩ := outside_eq_ok.mp hstep
    change (enter _ ' ').patternPieces = _
    rw [patternPieces_enter, beginCondition, hs.2, hw, if_pos (by decide)]
  rw [patternPieces_run hv hrun]
  rfl

end Lifting

end Destructure
