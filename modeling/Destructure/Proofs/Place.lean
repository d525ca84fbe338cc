import Destructure.Failure
import Destructure.Proofs.Outcome
import Destructure.Proofs.Token

namespace Destructure

open Run (Meets meets_error)

def StandsAt (text own : List Char) (place : Int) : Prop :=
  ∃ p : Nat, place = p ∧ p < text.length ∧ own <+: text.drop p

def IsPlace (text : List Char) (place : Int) : Prop :=
  ∃ p : Nat, place = p ∧ p < text.length

section Standing

variable {text own before after : List Char} {place : Int} {c : Char}

theorem StandsAt.isPlace (h : StandsAt text own place) : IsPlace text place := by
  obtain ⟨p, rfl, hp, -⟩ := h
  exact ⟨p, rfl, hp⟩

theorem IsPlace.standsAt (h : IsPlace text place) : StandsAt text [] place := by
  obtain ⟨p, rfl, hp⟩ := h
  exact ⟨p, rfl, hp, List.nil_prefix⟩

/-- A text with a place has a first one. -/
theorem IsPlace.zero (h : IsPlace text place) : IsPlace text 0 := by
  obtain ⟨p, -, hp⟩ := h
  exact ⟨0, rfl, Nat.zero_lt_of_lt hp⟩

theorem StandsAt.of_isPrefix {shorter : List Char} (h : StandsAt text own place)
    (hshorter : shorter <+: own) : StandsAt text shorter place := by
  obtain ⟨p, rfl, hp, hown⟩ := h
  exact ⟨p, rfl, hp, hshorter.trans hown⟩

/-- What is not empty stands where it is found behind some other text. -/
theorem standsAt_append (hown : own ≠ []) (before after : List Char) :
    StandsAt (before ++ (own ++ after)) own before.length := by
  refine ⟨before.length, rfl, ?_, ?_⟩
  · have hlength := List.length_pos_iff.mpr hown
    rw [List.length_append, List.length_append]
    omega
  · rw [List.drop_left]
    exact List.prefix_append own after

end Standing

def PatternError.named : PatternError → List Char
  | .nulCharacter _ => [markerChar]
  | .strayCharacter c _ | .strayConditionCharacter c _ => [c]
  | .unknownEscape c _ | .unknownConditionEscape c _ => ['\\', c]
  | .malformedNumber found _ | .unterminatedRegex found _ | .unterminatedText found _
  | .afterPattern found _ | .unexpectedToken found _ _ | .tailNotLast found _ | .missingComma found _
  | .missingEntryComma found _ | .invalidKey found _ | .invalidRegex found _ _ _
  | .unterminatedConditionText found _ | .unknownVariable found _ _ _ => found.toList
  | _ => []

def PatternError.PointsInto (text : List Char) (error : PatternError) : Prop :=
  ∀ position, error.report.position = some position → StandsAt text error.named position

def Failure.PointsInto (text : List Char) (failure : Failure) : Prop :=
  ∀ error, failure = .invalid error → error.PointsInto text

section Pointing

variable {text : List Char} {error : PatternError} {place : Int}

theorem PatternError.pointsInto_of_none (h : error.report.position = none) :
    error.PointsInto text := by
  intro position hposition
  cases h.symm.trans hposition

theorem PatternError.PointsInto.ofError (h : error.PointsInto text) :
    (Failure.ofError error).PointsInto text := by
  unfold Failure.ofError
  split
  · rintro _ ⟨⟩
    exact h
  · intro other hother
    nomatch hother

theorem PatternError.pointsInto_of_standsAt (hplace : error.report.position = some place)
    (h : StandsAt text error.named place) : error.PointsInto text := by
  intro position hposition
  obtain rfl : place = position := Option.some.inj (hplace.symm.trans hposition)
  exact h

/-- A failure points into the text if what its error names stands at the position of the error. -/
theorem Failure.pointsInto_of_standsAt (hplace : error.report.position = some place)
    (h : StandsAt text error.named place) : (Failure.ofError error).PointsInto text :=
  (PatternError.pointsInto_of_standsAt hplace h).ofError

end Pointing

section Outcomes

variable {text : List Char} {error : PatternError}

/-- An error without a position points nowhere. -/
theorem meets_unplaced {α : Type} {P : α → Prop} (h : error.report.position = none) :
    Meets P (Failure.PointsInto text) (.error (.ofError error)) :=
  meets_error (PatternError.pointsInto_of_none h).ofError

/-- What is passed on is no error of the pattern. -/
theorem Failure.pointsInto_of_ne {failure : Failure} (h : ∀ error, failure ≠ .invalid error) :
    failure.PointsInto text :=
  fun error herror => absurd herror (h error)

end Outcomes

end Destructure
