import Destructure.Proofs.Run
import Destructure.Proofs.Template.Trail

namespace Destructure

namespace Mode

def start? (position : Nat) : Mode → Option Nat
  | .outside => none
  | .sign _ => some (position - 1)
  | .quoted opened _ _ _ | .regex opened _ | .regexEnd opened | .number opened => some opened.start

def inRegex (opened : Opened) (escaping : Bool) (c : Char) : Mode :=
  if escaping then .regex (opened.push c) false
  else if c = '\\' then .regex (opened.push c) true
  else if c = '/' then .regexEnd (opened.push c)
  else .regex (opened.push c) false

inductive StartsAt (position : Nat) (c : Char) : Mode → Prop
  | quote (hc : c = '\'' ∨ c = '"') : StartsAt position c (.quoted ⟨position, [c]⟩ c [] false)
  | slash (hc : c = '/') : StartsAt position c (.regex ⟨position, [c]⟩ false)
  | digit (hc : c.isDigit = true) : StartsAt position c (.number ⟨position, [c]⟩)
  | sign (hc : c = '+' ∨ c = '-') : StartsAt position c (.sign c)

inductive Takes (position : Nat) (c : Char) : Mode → Mode → Prop
  | digit (sign : Char) (hc : c.isDigit = true) :
      Takes position c (.sign sign) (.number ⟨position - 1, [c, sign]⟩)
  | escaped (opened : Opened) (quote : Char) (value : List Char) {d : Char}
      (hd : Lifting.unescape? c = some d) :
      Takes position c (.quoted opened quote value true)
        (.quoted (opened.push c) quote (d :: value) false)
  | backslash (opened : Opened) (quote : Char) (value : List Char) (hc : c = '\\') :
      Takes position c (.quoted opened quote value false) (.quoted (opened.push c) quote value true)
  | plain (opened : Opened) {quote : Char} (value : List Char) (hb : c ≠ '\\') (hq : c ≠ quote) :
      Takes position c (.quoted opened quote value false)
        (.quoted (opened.push c) quote (c :: value) false)
  | regex (opened : Opened) (escaping : Bool) :
      Takes position c (.regex opened escaping) (.inRegex opened escaping c)
  | number (opened : Opened) (hc : Lifting.isNumberChar c = true) :
      Takes position c (.number opened) (.number (opened.push c))

inductive Ends (c : Char) : Mode → Opened → Payload → Prop
  | quote (opened : Opened) (value : List Char) (hb : c ≠ '\\') :
      Ends c (.quoted opened c value false) (opened.push c) (.text value.reverse)
  | flag (opened : Opened) (hc : c = 'i') :
      Ends c (.regexEnd opened) (opened.push c)
        (.regex (((opened.push c).raw.drop 2).reverse.drop 1) true)

inductive Completes : Mode → Opened → Payload → Prop
  | regex (opened : Opened) :
      Completes (.regexEnd opened) opened (.regex ((opened.raw.drop 1).reverse.drop 1) false)
  | number (opened : Opened) {value : Number} (h : Lifting.readNumber opened = .ok value) :
      Completes (.number opened) opened (.number value)

def Stops (c : Char) : Mode → Prop
  | .outside => True
  | .sign _ => ¬ c.isDigit = true
  | .quoted _ _ _ _ | .regex _ _ => False
  | .regexEnd _ => c ≠ 'i'
  | .number _ => ¬ Lifting.isNumberChar c = true

variable {position : Nat} {c : Char} {mode next : Mode} {opened : Opened} {payload : Payload}

theorem StartsAt.start_eq (h : mode.StartsAt position c) :
    mode.start? (position + 1) = some position := by
  cases h <;> rfl

theorem Takes.start_eq (h : mode.Takes position c next) :
    next.start? (position + 1) = mode.start? position := by
  cases h with
  | regex opened escaping =>
    unfold inRegex
    repeat' split
    all_goals rfl
  | _ => rfl

theorem Ends.start_eq (h : mode.Ends c opened payload) : mode.start? position = some opened.start := by
  cases h <;> rfl

theorem Completes.start_eq (h : mode.Completes opened payload) :
    mode.start? position = some opened.start := by
  cases h <;> rfl

end Mode

namespace Lifting

def beginCondition (s : Lifting) (c : Char) : Lifting :=
  if s.patternPieces.isNone && Text.isBlank c && s.endsInWhen then
    { s with patternPieces := some (s.pieces.length - 4) }
  else s

def enter (s : Lifting) (c : Char) : Lifting :=
  if c = '\'' ∨ c = '"' then { s with mode := .quoted ⟨s.position, [c]⟩ c [] false }
  else if s.patternPieces.isSome then s.emit c s.position
  else if c = '/' then { s with mode := .regex ⟨s.position, [c]⟩ false }
  else if s.endsInName then s.emit c s.position
  else if c.isDigit then { s with mode := .number ⟨s.position, [c]⟩ }
  else if c = '+' ∨ c = '-' then { s with mode := .sign c }
  else s.emit c s.position

inductive Releases (s : Lifting) : Lifting → Prop
  | outside (h : s.mode = .outside) : Releases s s
  | sign (c : Char) (h : s.mode = .sign c) : Releases s (s.emit c (s.position - 1))
  | literal (opened : Opened) (payload : Payload) (h : s.mode.Completes opened payload) :
      Releases s (s.close opened payload)

inductive Advances (s : Lifting) (c : Char) : Lifting → Prop
  | takes (mode : Mode) (h : s.mode.Takes s.position c mode) : Advances s c { s with mode := mode }
  | ends (opened : Opened) (payload : Payload) (h : s.mode.Ends c opened payload) :
      Advances s c (s.close opened payload)
  | outside {u t : Lifting} (hu : s.Releases u) (hc : s.mode.Stops c) (h : u.outside c = .ok t) :
      Advances s c t

variable {s t : Lifting} {c : Char} {opened : Opened}

theorem step_eq_ok :
    s.step c = .ok t ↔
      ∃ u, s.advance c = .ok u ∧ { u with position := u.position + 1 } = t :=
  Run.map_eq_ok

/-- Outside literals nothing is rejected but the character that encloses markers. -/
theorem outside_eq (s : Lifting) {c : Char} (hc : c ≠ markerChar) :
    s.outside c = .ok ((s.beginCondition c).enter c) := by
  have hbegin : s.beginCondition c =
      if s.patternPieces.isNone && Text.isBlank c && s.endsInWhen then
        { s with patternPieces := some s.trail.start }
      else s := by
    unfold beginCondition
    split
    · rename_i h
      rw [start_eq_of_endsInWhen (Bool.and_eq_true_iff.mp h).2]
    · rfl
  unfold enter
  simp only [apply_ite Except.ok]
  rw [hbegin]
  exact if_neg hc

theorem outside_eq_ok : s.outside c = .ok t ↔ c ≠ markerChar ∧ (s.beginCondition c).enter c = t := by
  by_cases hc : c = markerChar
  · subst hc
    constructor
    · intro h
      cases h
    · exact fun h => absurd rfl h.1
  · rw [outside_eq s hc]
    constructor
    · exact fun h => ⟨hc, Except.ok.inj h⟩
    · exact fun h => congrArg _ h.2

/-- A character outside literals is a piece of its own or begins a literal. -/
theorem enter_cases (s : Lifting) (c : Char) :
    s.enter c = s.emit c s.position ∨
      ∃ mode : Mode, mode.StartsAt s.position c ∧ s.enter c = { s with mode := mode } := by
  unfold enter
  repeat' split
  · rename_i hc
    exact Or.inr ⟨_, .quote hc, rfl⟩
  · exact Or.inl rfl
  · rename_i hc
    exact Or.inr ⟨_, .slash hc, rfl⟩
  · exact Or.inl rfl
  · rename_i hc
    exact Or.inr ⟨_, .digit hc, rfl⟩
  · rename_i hc
    exact Or.inr ⟨_, .sign hc, rfl⟩
  · exact Or.inl rfl

theorem closeNumber_eq_ok :
    s.closeNumber opened = .ok t ↔
      ∃ value, readNumber opened = .ok value ∧ s.close opened (.number value) = t := by
  unfold closeNumber
  rw [Run.bind_eq_ok]
  exact exists_congr fun value => and_congr_right fun _ => ⟨Except.ok.inj, congrArg _⟩

/-- A character of a regular expression. -/
theorem advance_regex {escaping : Bool} (hm : s.mode = .regex opened escaping) (c : Char) :
    s.advance c = .ok { s with mode := .inRegex opened escaping c } := by
  unfold advance Mode.inRegex
  rw [hm]
  dsimp only
  repeat' split
  all_goals rfl

/-- A character inside quotes. -/
theorem Advances.of_inQuotes {quote : Char} {value : List Char} {escaping : Bool}
    (hm : s.mode = .quoted opened quote value escaping)
    (h : s.inQuotes opened quote value escaping c = .ok t) : s.Advances c t := by
  unfold inQuotes at h
  dsimp only at h
  cases escaping with
  | true =>
    rw [if_pos rfl] at h
    split at h
    · rename_i hd
      cases h
      exact .takes _ (by rw [hm]; exact .escaped opened quote value hd)
    · cases h
  | false =>
    rw [if_neg Bool.false_ne_true] at h
    split at h
    · rename_i hb
      cases h
      exact .takes _ (by rw [hm]; exact .backslash opened quote value hb)
    · rename_i hb
      split at h
      · rename_i hq
        cases h
        subst hq
        exact .ends _ _ (by rw [hm]; exact .quote opened value hb)
      · rename_i hq
        cases h
        exact .takes _ (by rw [hm]; exact .plain opened value hb hq)

theorem advances_of_eq_ok (h : s.advance c = .ok t) : s.Advances c t := by
  cases hm : s.mode with
  | outside =>
    rw [advance, hm] at h
    exact .outside (.outside hm) (by rw [hm]; trivial) h
  | sign sign =>
    rw [advance, hm] at h
    dsimp only at h
    split at h
    · rename_i hc
      cases h
      exact .takes _ (by rw [hm]; exact .digit sign hc)
    · rename_i hc
      exact .outside (.sign sign hm) (by rw [hm]; exact hc) h
  | quoted opened quote value escaping =>
    rw [advance, hm] at h
    exact .of_inQuotes hm h
  | regex opened escaping =>
    rw [advance_regex hm] at h
    cases h
    exact .takes _ (by rw [hm]; exact .regex opened escaping)
  | regexEnd opened =>
    rw [advance, hm] at h
    dsimp only at h
    split at h
    · rename_i hc
      cases h
      exact .ends _ _ (by rw [hm]; exact .flag opened hc)
    · rename_i hc
      exact .outside (.literal opened _ (by rw [hm]; exact .regex opened)) (by rw [hm]; exact hc) h
  | number opened =>
    rw [advance, hm] at h
    dsimp only at h
    split at h
    · rename_i hc
      cases h
      exact .takes _ (by rw [hm]; exact .number opened hc)
    · rename_i hc
      obtain ⟨u, hu, h⟩ := Run.bind_eq_ok.mp h
      obtain ⟨value, hvalue, rfl⟩ := closeNumber_eq_ok.mp hu
      exact .outside (.literal opened _ (by rw [hm]; exact .number opened hvalue))
        (by rw [hm]; exact hc) h

/-- A character that does not belong to what is being read stands outside literals behind it. -/
theorem advance_eq_outside {u : Lifting} (hu : s.Releases u) (hc : s.mode.Stops c) :
    s.advance c = u.outside c := by
  obtain ⟨position, pieces, patternPieces, mode, _, rfl⟩ := s
  cases hu with
  | outside hm =>
    obtain rfl : mode = .outside := hm
    rfl
  | sign sign hm =>
    obtain rfl : mode = .sign sign := hm
    exact if_neg hc
  | literal opened payload hl =>
    obtain ⟨opened⟩ | ⟨opened, hvalue⟩ := hl
    · exact if_neg hc
    · refine (if_neg hc).trans ?_
      rw [closeNumber_eq_ok.mpr ⟨_, hvalue, rfl⟩]
      rfl

/-- A character is taken when it goes on with what is being read or ends it, or when it may stand
outside literals behind what it ends before. -/
theorem advance_eq_ok : s.advance c = .ok t ↔ s.Advances c t := by
  refine ⟨advances_of_eq_ok, fun h => ?_⟩
  obtain ⟨position, pieces, patternPieces, mode, _, rfl⟩ := s
  cases h with
  | takes next h =>
    cases h with
    | digit sign hc => exact if_pos hc
    | escaped opened quote value hd =>
      simp only [advance, inQuotes, if_true, hd]
    | backslash opened quote value hc =>
      subst hc
      rfl
    | plain opened value hb hq =>
      simp only [advance, inQuotes, Bool.false_eq_true, if_false, if_neg hb, if_neg hq]
    | regex opened escaping => exact advance_regex rfl c
    | number opened hc => exact if_pos hc
  | ends opened payload h =>
    cases h with
    | quote opened value hb =>
      simp only [advance, inQuotes, Bool.false_eq_true, if_false, if_neg hb, if_true]
    | flag opened hc => exact if_pos hc
  | outside hu hc h => exact (advance_eq_outside hu hc).trans h

/-- A text can end where what is being read is over unless more of it follows. -/
theorem finish_eq_ok : s.finish = .ok t ↔ s.Releases t := by
  constructor
  · intro h
    unfold finish at h
    split at h
    · rename_i hm
      cases h
      exact .outside hm
    · rename_i sign hm
      cases h
      exact .sign sign hm
    · cases h
    · cases h
    · rename_i opened hm
      cases h
      exact .literal opened _ (by rw [hm]; exact .regex opened)
    · rename_i opened hm
      obtain ⟨value, hvalue, rfl⟩ := closeNumber_eq_ok.mp h
      exact .literal opened _ (by rw [hm]; exact .number opened hvalue)
  · intro h
    obtain ⟨position, pieces, patternPieces, mode, _, rfl⟩ := s
    cases h with
    | outside hm =>
      obtain rfl : mode = .outside := hm
      rfl
    | sign sign hm =>
      obtain rfl : mode = .sign sign := hm
      rfl
    | literal opened payload hl =>
      obtain ⟨opened⟩ | ⟨opened, hvalue⟩ := hl
      · rfl
      · exact closeNumber_eq_ok.mpr ⟨_, hvalue, rfl⟩

end Lifting

end Destructure
