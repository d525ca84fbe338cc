import Destructure.Proofs.Pattern.Language
import Destructure.Proofs.Pattern.Unterminated
import Destructure.Proofs.Template.Markers

namespace Destructure

namespace Token

variable (literal? : Nat → Option Literal) (t : Token)

def Resolves : Prop :=
  ∀ number, t.lexeme = .literal number → ∃ l, literal? number = some l

def PassesOn (failure : Failure) : Prop :=
  ∃ regex ignoreCase problem, t.Carries literal? (.regex regex ignoreCase) ∧
    Regex.compile (String.ofList regex) ignoreCase = .error problem ∧
    problem.passed = some failure

end Token

namespace Reading

variable {source : Source} {r : Reading} {t : Token} {tokens : List Token} {failure : Failure}

/-- A token whose literal is there is refused by an error, or as a regular expression. -/
theorem Refuses.invalid_or_passesOn (h : Refuses source t r failure)
    (ht : t.Resolves source.literal?) (hf : Fits r.frames r.expecting) :
    (∃ error, failure = .invalid error) ∨ t.PassesOn source.literal? failure := by
  have hunderflow := h.ne_bracketUnderflow hf
  cases h with
  | missing hnumber hl =>
    obtain ⟨l, hfound⟩ := ht _ hnumber
    cases hl.symm.trans hfound
  | malformed _ | blames _ => exact Or.inl ⟨_, rfl⟩
  | passed hcarries hc hp => exact Or.inr ⟨_, _, _, hcarries, hc, hp⟩
  | underflow _ _ => exact absurd rfl hunderflow

/-- Where tokens cannot be read, the pattern is invalid or a regular expression passes on why. -/
theorem run_eq_error (ht : ∀ t ∈ tokens, t.Resolves source.literal?)
    (h : run source start tokens = .error failure) :
    (∃ error, failure = .invalid error) ∨ ∃ t ∈ tokens, t.PassesOn source.literal? failure := by
  rcases Run.bind_eq_error.mp h with hrun | ⟨last, -, hfinish⟩
  · obtain ⟨t, hm, r, hfits, hrefuses⟩ := exists_refuses_of_foldlM hrun
    exact (hrefuses.invalid_or_passesOn (ht t hm) hfits).imp_right fun hpasses => ⟨t, hm, hpasses⟩
  · obtain ⟨error, herror, -⟩ := meets_finish.of_error failure hfinish
    exact Or.inl ⟨error, herror⟩

end Reading

namespace Pattern

variable {text : List Char} {t : Template} {tokens : List Token}

/-- What the tokens of a text are read as is the pattern that the grammar derives from all of them,
of which there is one at most. Where the grammar derives none, the pattern is invalid or a regular
expression passes on why it cannot be compiled. -/
theorem ofTokens_eq_ok_iff_derives (written : String) (ht : Template.ofText text = .ok t)
    (hs : Token.scan t.patternCells = .ok tokens ∨ Token.scan t.cells = .ok tokens) :
    (∀ p, ofTokens ⟨t.literal?, written⟩ tokens = .ok p ↔ Derives t.literal? p tokens []) ∧
    (∀ p q, Derives t.literal? p tokens [] → Derives t.literal? q tokens [] → p = q) ∧
    ((¬ ∃ p, Derives t.literal? p tokens []) →
      ∃ failure, ofTokens ⟨t.literal?, written⟩ tokens = .error failure ∧
        ((∃ error, failure = .invalid error) ∨
          ∃ token ∈ tokens, token.PassesOn t.literal? failure)) := by
  let source : Reading.Source := ⟨t.literal?, written⟩
  have hread (p : Pattern) : ofTokens source tokens = .ok p ↔ Derives t.literal? p tokens [] :=
    Reading.ofTokens_eq_ok
  have hresolves : ∀ token ∈ tokens, token.Resolves t.literal? := by
    have hsound := fun piece hm => Template.isSound_ofText ht piece hm
    rcases hs with hs | hs
    · obtain ⟨count, hcells⟩ := t.patternCells_eq
      rw [hcells] at hs
      exact Template.exists_literal_of_scan hsound hs
    · rw [Template.cells, ← List.take_length (l := t.pieces)] at hs
      exact Template.exists_literal_of_scan hsound hs
  refine ⟨hread, fun p q hp hq => ?_, fun hnone => ?_⟩
  · exact Except.ok.inj (((hread p).mpr hp).symm.trans ((hread q).mpr hq))
  · cases hr : ofTokens source tokens with
    | ok p => exact absurd ⟨p, (hread p).mp hr⟩ hnone
    | error failure => exact ⟨failure, rfl, Reading.run_eq_error hresolves hr⟩

/-- A comma may stand before the tail of a sequence, but not before its closing bracket. -/
theorem derives_commaTail :
    (∃ t tokens, Template.ofText "['a', | r]".toList = .ok t ∧
      Token.scan t.patternCells = .ok tokens ∧
      Derives t.literal? (.sequence [.text "a", .variable "r" true]) tokens []) ∧
    ∃ t tokens, Template.ofText "['a',]".toList = .ok t ∧
      Token.scan t.patternCells = .ok tokens ∧ ¬ ∃ p, Derives t.literal? p tokens [] := by
  let a : Literal := ⟨.text ['a'], ['\'', 'a', '\''], 1⟩
  let tailed : Template := ⟨[.plain '[' 0, .literal a, .plain ',' 4, .plain ' ' 5, .plain '|' 6,
    .plain ' ' 7, .plain 'r' 8, .plain ']' 9], none⟩
  let trailing : Template := ⟨[.plain '[' 0, .literal a, .plain ',' 4, .plain ']' 5], none⟩
  have ht : Template.ofText "['a', | r]".toList = .ok tailed := by rfl
  have htokens : Token.scan tailed.patternCells = .ok [⟨.openBracket, 0, 1⟩, ⟨.literal 1, 1, 4⟩,
      ⟨.comma, 4, 1⟩, ⟨.pipe, 6, 1⟩, ⟨.name "r", 8, 1⟩, ⟨.closeBracket, 9, 1⟩] := by
    rfl
  have ht' : Template.ofText "['a',]".toList = .ok trailing := by rfl
  have htokens' : Token.scan trailing.patternCells = .ok [⟨.openBracket, 0, 1⟩, ⟨.literal 1, 1, 4⟩,
      ⟨.comma, 4, 1⟩, ⟨.closeBracket, 5, 1⟩] := by
    rfl
  refine ⟨⟨tailed, _, ht, htokens, ?_⟩, trailing, _, ht', htokens', ?_⟩
  · exact ((ofTokens_eq_ok_iff_derives "" ht (Or.inl htokens)).1 _).mp (by rfl)
  · rintro ⟨p, hp⟩
    have hread := ((ofTokens_eq_ok_iff_derives "" ht' (Or.inl htokens')).1 p).mpr hp
    have herror : ofTokens ⟨trailing.literal?, ""⟩ [⟨.openBracket, 0, 1⟩, ⟨.literal 1, 1, 4⟩,
        ⟨.comma, 4, 1⟩, ⟨.closeBracket, 5, 1⟩] = .error (.invalid (.trailingComma 4)) := by
      rfl
    cases herror.symm.trans hread

end Pattern

end Destructure
