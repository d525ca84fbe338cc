import Destructure.Clauses
import Destructure.Proofs.Compile
import Destructure.Proofs.Condition.Language
import Destructure.Proofs.Condition.Quotes
import Destructure.Proofs.Pattern.Refusal

namespace Destructure

open Run (FailsOnly failsOnly_ok failsOnly_error failsOnly_foldlM)

namespace Failure

def isOfText : Failure → Bool
  | .invalid _ | .numeralTooLong _ | .repetitionTooLarge | .incompatibleFlags
  | .lookbehindTooLong | .malformedMarker | .bracketUnderflow | .unencodable _ => true
  | .mismatch _ | .integerTooLong | .raised _ => false

abbrev OfText {α : Type} (result : Except Failure α) : Prop :=
  FailsOnly (fun failure => failure.isOfText = true) result

end Failure

open Failure (OfText)

namespace Lifting

theorem ofText_readNumber (opened : Opened) : OfText (readNumber opened) := by
  unfold readNumber
  dsimp only
  repeat' split
  all_goals first
    | exact failsOnly_ok _
    | exact failsOnly_error rfl

theorem ofText_closeNumber (s : Lifting) (opened : Opened) : OfText (s.closeNumber opened) :=
  (ofText_readNumber opened).bind fun _ => failsOnly_ok _

theorem ofText_outside (s : Lifting) (c : Char) : OfText (s.outside c) := by
  unfold outside
  dsimp only
  split
  · exact failsOnly_error rfl
  · repeat' split
    all_goals exact failsOnly_ok _

theorem ofText_inQuotes (s : Lifting) (opened : Opened) (quote : Char) (value : List Char)
    (escaping : Bool) (c : Char) : OfText (s.inQuotes opened quote value escaping c) := by
  unfold inQuotes
  dsimp only
  repeat' split
  all_goals first
    | exact failsOnly_ok _
    | exact failsOnly_error rfl

theorem ofText_step (s : Lifting) (c : Char) : OfText (s.step c) := by
  have hadvance : OfText (s.advance c) := by
    unfold advance
    split
    · exact ofText_outside ..
    · split
      · exact failsOnly_ok _
      · exact ofText_outside ..
    · exact ofText_inQuotes ..
    · dsimp only
      repeat' split
      all_goals exact failsOnly_ok _
    · split
      · exact failsOnly_ok _
      · exact ofText_outside ..
    · split
      · exact failsOnly_ok _
      · exact (ofText_closeNumber ..).bind fun _ => ofText_outside ..
  exact hadvance.map _

theorem ofText_finish (s : Lifting) : OfText s.finish := by
  unfold finish
  split
  · exact failsOnly_ok _
  · exact failsOnly_ok _
  · exact failsOnly_error rfl
  · exact failsOnly_error rfl
  · exact failsOnly_ok _
  · exact ofText_closeNumber ..

end Lifting

theorem ofText_template (source : List Char) : OfText (Template.ofText source) :=
  (failsOnly_foldlM Lifting.ofText_step source Lifting.start).bind fun s =>
    (Lifting.ofText_finish s).bind fun _ => failsOnly_ok _

namespace Token

theorem ofText_lexemeAt (c : Char) (position : Int) (rest : List (Char × Int)) :
    OfText (lexemeAt c position rest) := by
  unfold lexemeAt
  repeat' split
  all_goals first
    | exact failsOnly_ok _
    | exact failsOnly_error rfl

theorem ofText_scanFrom (skip : Nat) (cells : List (Char × Int)) :
    OfText (scanFrom skip cells) := by
  induction cells generalizing skip with
  | nil => exact failsOnly_ok _
  | cons cell rest ih =>
    obtain ⟨c, position⟩ := cell
    cases skip with
    | succ skip => exact ih skip
    | zero =>
      unfold scanFrom
      split
      · exact ih 0
      · exact (ofText_lexemeAt ..).bind fun _ => (ih _).bind fun _ => failsOnly_ok _

end Token

namespace Reading

theorem Refuses.isOfText {source : Source} {t : Token} {r : Reading} {failure : Failure}
    (h : Refuses source t r failure) : failure.isOfText = true := by
  cases h with
  | missing _ _ | malformed _ | blames _ | underflow _ _ => rfl
  | @passed _ _ problem _ _ _ hp =>
    cases problem with
    | malformed message position => cases hp
    | _ =>
      cases hp
      rfl

theorem ofText_step (source : Source) (r : Reading) (t : Token) : OfText (step source r t) :=
  ⟨fun failure h => (meets_step.of_error failure h).isOfText⟩

theorem ofText_finish (source : Source) (r : Reading) : OfText (r.finish source) := by
  constructor
  intro failure h
  obtain ⟨error, rfl, -⟩ := meets_finish.of_error failure h
  rfl

end Reading

theorem ofText_pattern (source : Reading.Source) (tokens : List Token) :
    OfText (Pattern.ofTokens source tokens) :=
  (failsOnly_foldlM (Reading.ofText_step source) tokens Reading.start).bind
    (Reading.ofText_finish source)

namespace Condition

namespace Token

theorem ofText_ofNumeral (n : Numeral) : OfText (ofNumeral n) := by
  constructor
  intro failure h
  obtain ⟨-, -, rfl⟩ := ofNumeral_eq_error h
  rfl

theorem ofText_lexemeAt (position : Int) (c : Char) (rest : List Char) :
    OfText (lexemeAt position c rest) := by
  unfold lexemeAt
  repeat' split
  all_goals first
    | exact failsOnly_ok _
    | exact failsOnly_error rfl
    | exact (ofText_ofNumeral _).bind fun _ => failsOnly_ok _

theorem ofText_scanFrom (skip : Nat) (position : Int) (text : List Char) :
    OfText (scanFrom skip position text) := by
  induction text generalizing skip position with
  | nil => exact failsOnly_ok _
  | cons c rest ih =>
    cases skip with
    | succ skip => exact ih skip _
    | zero =>
      unfold scanFrom
      split
      · exact ih 0 _
      · exact (ofText_lexemeAt ..).bind fun _ => (ih _ _).bind fun _ => failsOnly_ok _

end Token

theorem ofText_ofText (names : List String) (text : List Char) (position : Int) :
    OfText (Condition.ofText names text position) := by
  unfold Condition.ofText
  refine (Token.ofText_scanFrom 0 position text).bind fun tokens => ?_
  have hparse : OfText (parse ⟨names, String.ofList (Text.trim text)⟩ tokens) := by
    constructor
    intro failure h
    obtain ⟨error, rfl⟩ := parse_eq_error h
    rfl
  exact hparse.bind fun _ => failsOnly_ok _

end Condition

/-- A text that does not compile is refused for what it says. -/
theorem ofText_compile (text : WideText) : OfText (compile text) := by
  have hread (text : String) : OfText (readPattern text) := by
    unfold readPattern
    refine (ofText_template _).bind fun template => ?_
    refine (Token.ofText_scanFrom 0 _).bind fun tokens => ?_
    refine (ofText_pattern _ tokens).bind fun tree => ?_
    split
    · exact failsOnly_ok _
    · exact (Condition.ofText_ofText ..).bind fun _ => failsOnly_ok _
  cases h : text.encode with
  | error surrogates =>
    rw [compile_of_encode h]
    exact failsOnly_error rfl
  | ok written =>
    obtain rfl := WideText.encode_eq_ok_iff.mp h
    rw [compile_ofString]
    exact (hread written).map _

theorem Failure.isMismatch_of_isOfText {failure : Failure} (h : failure.isOfText = true) :
    failure.isMismatch = false := by
  cases failure with
  | mismatch _ | integerTooLong | raised _ => cases h
  | _ => rfl

end Destructure
