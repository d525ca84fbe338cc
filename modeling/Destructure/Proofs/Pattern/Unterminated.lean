import Destructure.Proofs.Pattern.Bracket
import Destructure.Proofs.Pattern.Step
import Mathlib.Data.List.Induction

/-!
Patterns that are not finished. The open frames are the brackets that are not closed again, innermost
first, and what may come next fits the innermost one. Main statement: when the tokens run out inside a
frame, the missing brackets are those of the unmatched openers and would make the tokens balanced; a
closing bracket is only taken by a frame that it closes; and a pattern leaves no frame open.
-/

namespace Destructure

def Failure.MissesNothing (failure : Failure) : Prop :=
  ∀ closers position text, failure ≠ .invalid (.unterminated closers position text)

section Brackets

variable {literal? : Nat → Option Literal} {t : Token}

theorem Token.Carries.not_bracket {payload : Payload} (h : t.Carries literal? payload) :
    t.lexeme.closer? = none ∧ t.lexeme.closing? = none := by
  obtain ⟨number, l, ht, -⟩ := h
  rw [ht]
  exact ⟨rfl, rfl⟩

/-- A key is no bracket. -/
theorem Token.IsKey.not_bracket {key : String} (h : t.IsKey literal? key) :
    t.lexeme.closer? = none ∧ t.lexeme.closing? = none := by
  cases h with
  | name ht =>
    rw [ht]
    exact ⟨rfl, rfl⟩
  | text h => exact h.not_bracket

end Brackets

namespace Reading

def Frame.mark (frame : Frame) : Char × Int :=
  (frame.closer, frame.start)

def marks (r : Reading) : List (Char × Int) :=
  r.frames.map Frame.mark

def Fits : List Frame → Expecting → Prop
  | [], .pattern | [], .captures _ | [], .nothing _ => True
  | .sequence _ _ _ :: _, .captures _ | .sequence _ _ _ :: _, .element _
  | .sequence _ _ _ :: _, .afterElement | .sequence _ _ _ :: _, .tailName _
  | .sequence _ _ _ :: _, .afterTail => True
  | .mapping _ _ (some _) :: _, .pattern | .mapping _ _ (some _) :: _, .captures _
  | .mapping _ _ (some _) :: _, .equals => True
  | .mapping _ _ none :: _, .key _ | .mapping _ _ none :: _, .afterEntry => True
  | _, _ => False

variable {source : Source} {r : Reading} {frames outer : List Frame} {frame : Frame} {t : Token}
  {marks : List (Char × Int)}

theorem fits_complete (frames : List Frame) (p : Pattern) :
    Fits (complete frames p).frames (complete frames p).expecting := by
  unfold complete
  split <;> trivial

theorem marks_complete (frames : List Frame) (p : Pattern) :
    (complete frames p).marks = frames.map Frame.mark := by
  unfold complete
  split <;> rfl

/-- A frame that is closed leaves the others as they are. -/
theorem exists_close_eq_complete (frame : Frame) (outer : List Frame) :
    ∃ p, close frame outer = complete outer p := by
  cases frame with
  | sequence start captured elements => cases captured <;> exact ⟨_, rfl⟩
  | mapping start entries pending => exact ⟨_, rfl⟩

structure Follows (t : Token) (marks : List (Char × Int)) (next : Reading) : Prop where
  fits : Fits next.frames next.expecting
  moves : t.Moves marks next.marks

theorem follows_complete (ho : t.lexeme.closer? = none) (hc : t.lexeme.closing? = none)
    (frames : List Frame) (p : Pattern) :
    Follows t (frames.map Frame.mark) (complete frames p) where
  fits := fits_complete frames p
  moves := marks_complete frames p ▸ .keeps ho hc

theorem follows_close (hc : t.lexeme.closing? = some frame.closer) :
    Follows t ((frame :: outer).map Frame.mark) (close frame outer) := by
  obtain ⟨p, hp⟩ := exists_close_eq_complete frame outer
  rw [hp]
  exact ⟨fits_complete outer p, marks_complete outer p ▸ .closes hc⟩

theorem follows_openSequence (ht : t.lexeme = .openBracket) (captured : Option Regex) :
    Follows t (frames.map Frame.mark) (openSequence frames captured t.position) where
  fits := trivial
  moves := .opens (ht ▸ rfl)

theorem marks_resolved (r : Reading) : r.resolved.marks = r.marks := by
  unfold resolved
  split
  · exact marks_complete r.frames _
  · rfl

theorem fits_resolved (h : Fits r.frames r.expecting) : Fits r.resolved.frames r.resolved.expecting := by
  unfold resolved
  split
  · exact fits_complete r.frames _
  · exact h

/-- Where a pattern fits, a regular expression that waits for captures does. -/
theorem Fits.captures {e : Expecting} (h : Fits frames e) (he : e.Admits) (expression : Regex) :
    Fits frames (.captures expression) := by
  cases e with
  | pattern =>
    match frames with
    | [] | .mapping _ _ (some _) :: _ => trivial
  | element comma =>
    match frames with
    | .sequence _ _ _ :: _ => trivial
  | _ => exact he.elim

/-- The bracket that may come next closes the innermost frame. -/
theorem Fits.exists_closer {e : Expecting} {bracket : Lexeme} (h : Fits frames e)
    (he : e.ClosedBy bracket) :
    ∃ frame outer, frames = frame :: outer ∧ bracket.closing? = some frame.closer := by
  cases he with
  | noElement | element | tail =>
    match frames with
    | .sequence _ _ _ :: outer => exact ⟨_, outer, rfl, rfl⟩
  | noEntry | entry =>
    match frames with
    | .mapping _ _ none :: outer => exact ⟨_, outer, rfl, rfl⟩

/-- What is broken off inside a frame has a frame. -/
theorem Fits.exists_frame {e : Expecting} (h : Fits frames e) (he : e.IsInside) :
    ∃ frame outer, frames = frame :: outer := by
  cases frames with
  | cons frame outer => exact ⟨frame, outer, rfl⟩
  | nil =>
    cases e with
    | pattern | captures _ | nothing _ => exact he.elim
    | _ => exact h.elim

section Step

variable {next : Reading}

theorem Begins.follows (h : Begins source frames t next)
    (hf : ∀ expression, Fits frames (.captures expression)) :
    Follows t (frames.map Frame.mark) next := by
  cases h with
  | sequence ht => exact follows_openSequence ht none
  | mapping ht => exact ⟨trivial, .opens (ht ▸ rfl)⟩
  | name ht => exact follows_complete (ht ▸ rfl) (ht ▸ rfl) frames _
  | text h | number h =>
    obtain ⟨ho, hc⟩ := h.not_bracket
    exact follows_complete ho hc frames _
  | regex h _ =>
    obtain ⟨ho, hc⟩ := h.not_bracket
    exact ⟨hf _, .keeps ho hc⟩

theorem Advances.follows (h : Advances source t r next) (hf : Fits r.frames r.expecting)
    (hr : r.resolved = r) : Follows t r.marks next := by
  cases h with
  | begins he h => exact h.follows (hf.captures he)
  | captures => exact absurd rfl (expecting_ne_captures hr _)
  | closes ht he =>
    obtain ⟨_, _, hframes, hcloser⟩ := hf.exists_closer he
    cases hframes
    exact follows_close (ht ▸ hcloser)
  | @comma frames ht =>
    match frames with
    | .sequence _ _ _ :: _ => exact ⟨trivial, .keeps (ht ▸ rfl) (ht ▸ rfl)⟩
  | @bar frames e he ht =>
    match frames, e with
    | .sequence _ _ _ :: _, .element _ | .sequence _ _ _ :: _, .afterElement =>
      exact ⟨trivial, .keeps (ht ▸ rfl) (ht ▸ rfl)⟩
  | @tail frames bar name ht =>
    match frames with
    | .sequence _ _ _ :: _ => exact ⟨trivial, .keeps (ht ▸ rfl) (ht ▸ rfl)⟩
  | @key start entries pending outer mayClose key hkey hnew =>
    match pending with
    | none => exact ⟨trivial, .keeps hkey.not_bracket.1 hkey.not_bracket.2⟩
  | @looseKey frames mayClose key hkey hn =>
    match frames with
    | .mapping _ _ none :: _ => exact absurd rfl (hn _ _ _ _)
  | @equals frames ht =>
    match frames with
    | .mapping _ _ (some _) :: _ => exact ⟨trivial, .keeps (ht ▸ rfl) (ht ▸ rfl)⟩
  | @entryComma frames ht =>
    match frames with
    | .mapping _ _ none :: _ => exact ⟨trivial, .keeps (ht ▸ rfl) (ht ▸ rfl)⟩

/-- A token that is taken changes the open frames as it changes the brackets that are missing. -/
theorem Steps.follows (h : Steps source t r next) (hf : Fits r.frames r.expecting) :
    Follows t r.marks next := by
  cases h with
  | captures _ ht => exact follows_openSequence ht _
  | advances _ h =>
    rw [← marks_resolved]
    exact h.follows (fits_resolved hf) (resolved_resolved r)

/-- Where what may come next fits the frames, there is a frame to close. -/
theorem Refuses.ne_bracketUnderflow {failure : Failure} (h : Refuses source t r failure)
    (hf : Fits r.frames r.expecting) : failure ≠ .bracketUnderflow := by
  rintro rfl
  cases h with
  | passed _ _ hp => exact absurd hp (Regex.Problem.passed_ne_bracketUnderflow _)
  | underflow hframes he =>
    obtain ⟨frame, outer, hcons, -⟩ := hf.exists_closer he
    cases hframes.symm.trans hcons

/-- No token is refused for a bracket that is missing. -/
theorem Refuses.missesNothing {failure : Failure} (h : Refuses source t r failure) :
    failure.MissesNothing := by
  rintro closers position text rfl
  cases h with
  | passed _ _ hp => exact absurd hp (Regex.Problem.passed_ne_invalid _ _)
  | blames h => nomatch h

end Step

section Run

variable {tokens : List Token} {failure : Failure}

/-- The open frames are the brackets that the tokens leave open. -/
theorem unmatched_of_foldlM (h : tokens.foldlM (step source) start = .ok r) :
    Fits r.frames r.expecting ∧ ∃ openers, Token.Unmatched tokens openers ∧
      Token.Mirrors r.marks openers := by
  -- from the end, since the last token changes what the tokens before it have left open
  induction tokens using List.reverseRecOn generalizing r with
  | nil =>
    cases h
    exact ⟨trivial, [], .none .nil, .nil⟩
  | append_singleton before t ih =>
    obtain ⟨u, hbefore, ht⟩ := Run.foldlM_append_eq_ok.mp h
    obtain ⟨next, hnext, hr⟩ := Run.foldlM_cons_eq_ok.mp ht
    cases hr
    obtain ⟨hfits, openers, hunmatched, hmirrors⟩ := ih hbefore
    obtain ⟨hf, hmoves⟩ := (step_eq_ok.mp hnext).follows hfits
    exact ⟨hf, hunmatched.move hmirrors hmoves⟩

/-- Tokens are refused where what may come next fits the frames. -/
theorem exists_refuses_of_foldlM (h : tokens.foldlM (step source) start = .error failure) :
    ∃ t ∈ tokens, ∃ r : Reading, Fits r.frames r.expecting ∧ Refuses source t r failure := by
  obtain ⟨before, t, after, u, rfl, hbefore, ht⟩ := Run.exists_of_foldlM_eq_error h
  have hm : t ∈ before ++ t :: after := List.mem_append_right _ List.mem_cons_self
  exact ⟨t, hm, u.resolved, fits_resolved (unmatched_of_foldlM hbefore).1,
    meets_step.of_error failure ht⟩

/-- A token that is refused is not refused for brackets that are missing. -/
theorem missesNothing_of_foldlM (h : tokens.foldlM (step source) start = .error failure) :
    failure.MissesNothing := by
  obtain ⟨t, -, r, -, ht⟩ := exists_refuses_of_foldlM h
  exact ht.missesNothing

end Run

section End

variable {closers : List Char} {position : Int} {text : String} {p : Pattern}

/-- The missing brackets that are reported are those of the open frames. -/
theorem finish_eq_unterminated (hf : Fits r.frames r.expecting)
    (h : r.finish source = .error (.invalid (.unterminated closers position text))) :
    closers = r.marks.map Prod.fst ∧ ∃ bracket rest, r.marks = (bracket, position) :: rest := by
  obtain ⟨error, herror, hbreaks⟩ := meets_finish.of_error _ h
  obtain rfl := Failure.invalid.inj herror
  have hf := fits_resolved hf
  rw [← marks_resolved]
  generalize r.resolved = r at hf hbreaks
  obtain ⟨frames, e⟩ := r
  cases hbreaks with
  | unterminated he =>
    obtain ⟨frame, outer, rfl⟩ := hf.exists_frame he
    refine ⟨?_, frame.closer, outer.map Frame.mark, rfl⟩
    rw [marks, List.map_map]
    rfl

/-- At the end of a pattern no frame is open. -/
theorem finish_eq_ok (hf : Fits r.frames r.expecting) (h : r.finish source = .ok p) :
    r.marks = [] := by
  have hf := fits_resolved hf
  rw [meets_finish.of_ok p h] at hf
  rw [← marks_resolved, marks]
  cases hframes : r.resolved.frames with
  | nil => rfl
  | cons frame outer =>
    rw [hframes] at hf
    cases frame with
    | sequence _ _ _ => exact hf.elim
    | mapping _ _ pending => cases pending <;> exact hf.elim

end End

end Reading

namespace Pattern

open Reading (Frame Source step start)

/-- There is always a frame to close. -/
theorem ofTokens_ne_bracketUnderflow (source : Source) (tokens : List Token) :
    ofTokens source tokens ≠ .error .bracketUnderflow := by
  intro h
  rcases Run.bind_eq_error.mp h with hrefused | ⟨r, -, hfinish⟩
  · obtain ⟨t, -, r, hfits, ht⟩ := Reading.exists_refuses_of_foldlM hrefused
    exact ht.ne_bracketUnderflow hfits rfl
  · obtain ⟨error, herror, -⟩ := Reading.meets_finish.of_error _ hfinish
    cases herror

end Pattern

end Destructure
