import Destructure.Proofs.Condition.Grammar

/-!
Which lexemes are a condition: those from which the grammar derives an expression. What is read from
tokens has been derived from all of them, and tokens from which nothing is derived are reported as an
invalid condition.
-/

namespace Destructure

def Expression.constants : Expression → List Constant
  | .constant value => [value]
  | .variable _ => []
  | .negation operand | .minus operand => operand.constants
  | .binary _ left right => left.constants ++ right.constants

namespace Condition

def Lexeme.constant? : Lexeme → Option Constant
  | .constant value => some value
  | _ => none

variable {names : List String} {frames outer : List Frame} {layer : Layer} {e : Expression}
  {before lexemes : List Lexeme}

/-- Every constant is an operand, and no constant is anything else. -/
theorem DerivesAt.constants_eq (h : DerivesAt names layer e lexemes) :
    e.constants = lexemes.filterMap Lexeme.constant? := by
  induction h with
  | next hn h ih => exact ih
  | join hn ho hl hr ihl ihr =>
    rw [Expression.constants, ihl, ihr, List.filterMap_append, List.filterMap_cons]
    rfl
  | negation h ih => exact ih
  | minus h ih => exact ih
  | constant value => rfl
  | «variable» h => rfl
  | parentheses h ih =>
    rw [ih, List.filterMap_cons, List.filterMap_append]
    exact (List.append_nil _).symm

namespace Reading

inductive Awaits (names : List String) : List Frame → List Lexeme → Prop
  | nil : Awaits names [] []
  | negation {frames : List Frame} {before : List Lexeme} (h : Awaits names frames before) :
      Awaits names (.negation :: frames) (before ++ [.negation])
  | minus {frames : List Frame} {before : List Lexeme} (h : Awaits names frames before) :
      Awaits names (.minus :: frames) (before ++ [.operator .sub])
  | parenthesis {frames : List Frame} {before : List Lexeme} (position : Int)
      (h : Awaits names frames before) :
      Awaits names (.parenthesis position :: frames) (before ++ [.openParen])
  | binary {frames : List Frame} {before lexemes : List Lexeme} {layer tighter : Layer}
      {op : Operator} {left : Expression} (h : Awaits names frames before)
      (hn : layer.next? = some tighter) (ho : op ∈ layer.operators)
      (hf : hold frames < layer.rank) (hl : DerivesAt names layer left lexemes) :
      Awaits names (.binary op left :: frames) (before ++ (lexemes ++ [.operator op]))

inductive Spelled (names : List String) : Reading → List Lexeme → Prop
  | waiting {frames : List Frame} {before : List Lexeme} (h : Awaits names frames before) :
      Spelled names ⟨frames, none⟩ before
  | behind {frames : List Frame} {e : Expression} {before lexemes : List Lexeme}
      (h : Awaits names frames before) (hf : hold frames < Layer.signed.rank)
      (he : DerivesAt names .signed e lexemes) : Spelled names ⟨frames, some e⟩ (before ++ lexemes)

/-- Signs and negations go to the operand behind them. -/
theorem spelled_complete (h : Awaits names frames before) (he : DerivesAt names .signed e lexemes) :
    Spelled names (complete frames e) (before ++ lexemes) := by
  induction h generalizing e lexemes with
  | nil => exact .behind .nil (by decide) he
  | negation h ih =>
    rw [List.append_assoc]
    exact ih he.negation
  | minus h ih =>
    rw [List.append_assoc]
    exact ih he.minus
  | parenthesis position h ih => exact .behind (.parenthesis position h) (Nat.succ_pos _) he
  | @binary frames before first layer tighter op left h hn ho hf hl ih =>
    have hsigned : hold (.binary op left :: frames) < Layer.signed.rank := by
      change op.precedence < _
      rw [Layer.precedence_of_mem_operators ho]
      exact Layer.rank_lt_of_mem_operators ho
    exact .behind (.binary h hn ho hf hl) hsigned he

/-- Applying operators changes how lexemes are divided among frames and operand, and nothing else.
What keeps waiting binds less closely than what has been applied. -/
theorem exists_reduce (precedence : Nat) (h : Awaits names frames before)
    (he : DerivesAt names layer e lexemes) (hf : hold frames < layer.rank)
    (hl : layer.rank ≤ Layer.signed.rank) (hp : precedence ≤ layer.rank) :
    ∃ first last result, Awaits names (reduce precedence frames e).1 first ∧
      DerivesAt names result (reduce precedence frames e).2 last ∧
      first ++ last = before ++ lexemes ∧ precedence ≤ result.rank ∧
      hold (reduce precedence frames e).1 < max precedence 1 := by
  have hpositive : 0 < max precedence 1 := by omega
  induction h generalizing e layer lexemes with
  | nil => exact ⟨[], lexemes, layer, .nil, he, rfl, hp, hpositive⟩
  | negation h ih => exact absurd hf (Nat.not_lt.mpr hl)
  | minus h ih => exact absurd hf (Nat.not_lt.mpr hl)
  | parenthesis position h ih =>
    exact ⟨_, lexemes, layer, .parenthesis position h, he, rfl, hp, hpositive⟩
  | @binary frames before first inner tighter op left h hn ho hi hleft ih =>
    have hop := Layer.precedence_of_mem_operators ho
    have hrank := Layer.rank_of_next? hn
    have hsigned := Layer.rank_lt_of_mem_operators ho
    have hlt : op.precedence < layer.rank := hf
    by_cases hle : precedence ≤ op.precedence
    · have hright : DerivesAt names tighter e lexemes := he.loosen (by omega)
      have hjoined := DerivesAt.join hn ho hleft hright
      obtain ⟨front, last, result, hfront, hlast, happend, hresult, hhold⟩ :=
        ih hjoined hi (by omega) (by omega)
      have hreduce : reduce precedence (.binary op left :: frames) e =
          reduce precedence frames (.binary op left e) := if_pos hle
      rw [hreduce]
      refine ⟨front, last, result, hfront, hlast, ?_, hresult, hhold⟩
      simpa using happend
    · have hreduce : reduce precedence (.binary op left :: frames) e =
          (.binary op left :: frames, e) := if_neg hle
      have hhold : hold (.binary op left :: frames) < max precedence 1 := by
        change op.precedence < max precedence 1
        omega
      rw [hreduce]
      exact ⟨_, lexemes, layer, .binary h hn ho hi hleft, he, rfl, hp, hhold⟩

variable {source : Source} {r next : Reading} {t : Token} {tokens : List Token} {failure : Failure}

theorem spelled_operator {op : Operator} {left : Expression} (h : Awaits source.names frames before)
    (hf : hold frames < Layer.signed.rank) (he : DerivesAt source.names .signed e lexemes)
    (hr : reduce op.precedence frames e = (outer, left)) :
    Spelled source.names ⟨.binary op left :: outer, none⟩
      (before ++ lexemes ++ [.operator op]) := by
  obtain ⟨layer, tighter, ho, hn⟩ := Layer.exists_mem_operators op
  have hop := Layer.precedence_of_mem_operators ho
  have hsigned := Layer.rank_lt_of_mem_operators ho
  obtain ⟨first, last, result, hfirst, hlast, happend, hresult, hhold⟩ :=
    exists_reduce op.precedence h he hf (Nat.le_refl _) (by omega)
  rw [hr] at hfirst hlast hhold
  dsimp only at hfirst hlast hhold
  -- what has been applied binds at least as closely as the operator, so it is of its layer
  have hpositive : 0 < layer.rank := by
    cases layer <;> decide
  have hleft : DerivesAt source.names layer left last := hlast.loosen (by omega)
  rw [← happend, List.append_assoc]
  exact .waiting (.binary hfirst hn ho (by omega) hleft)

theorem spelled_closeParen {inner : Expression} {position : Int}
    (h : Awaits source.names frames before) (hf : hold frames < Layer.signed.rank)
    (he : DerivesAt source.names .signed e lexemes)
    (hr : reduce 0 frames e = (.parenthesis position :: outer, inner)) :
    Spelled source.names (complete outer inner) (before ++ lexemes ++ [.closeParen]) := by
  obtain ⟨first, last, result, hfirst, hlast, happend, -⟩ :=
    exists_reduce 0 h he hf (Nat.le_refl _) (Nat.zero_le _)
  rw [hr] at hfirst hlast
  have hdisjunction : DerivesAt source.names .disjunction inner last :=
    hlast.loosen (by cases result <;> decide)
  have hprimary := DerivesAt.parentheses hdisjunction
  cases hfirst with
  | parenthesis _ houter =>
    rw [← happend, List.append_assoc, List.append_assoc]
    exact spelled_complete houter (.next rfl hprimary)

/-- Each token adds its lexeme to what the state has been read from. -/
theorem Advances.spelled (hs : Advances source t r next) (h : Spelled source.names r lexemes) :
    Spelled source.names next (lexemes ++ [t.lexeme]) := by
  cases h with
  | waiting h =>
    cases hs with
    | openParen ht =>
      rw [ht]
      exact .waiting (.parenthesis t.position h)
    | negation ht =>
      rw [ht]
      exact .waiting (.negation h)
    | minus ht =>
      rw [ht]
      exact .waiting (.minus h)
    | constant ht =>
      rw [ht]
      exact spelled_complete h (.next rfl (.constant _))
    | name ht hn =>
      rw [ht]
      exact spelled_complete h (.next rfl (.variable hn))
  | behind h hf he =>
    cases hs with
    | operator ht hr =>
      rw [ht]
      exact spelled_operator h hf he hr
    | closeParen ht hr =>
      rw [ht]
      exact spelled_closeParen h hf he hr

theorem spelled_foldlM (h : Spelled source.names r lexemes)
    (hs : tokens.foldlM (step source) r = .ok next) :
    Spelled source.names next (lexemes ++ tokens.map Token.lexeme) := by
  induction tokens generalizing r lexemes with
  | nil =>
    cases hs
    rwa [List.map_nil, List.append_nil]
  | cons t rest ih =>
    obtain ⟨u, hu, hr⟩ := Run.foldlM_cons_eq_ok.mp hs
    have hrest := ih ((step_eq_ok.mp hu).spelled h) hr
    rwa [List.append_assoc] at hrest

/-- At the end, nothing waits: the operand has been derived from all lexemes. -/
theorem Ends.derivesAt (hs : Ends r e) (h : Spelled source.names r lexemes) :
    DerivesAt source.names .disjunction e lexemes := by
  cases hs with
  | @operand frames d hclosed =>
  cases h with
  | behind h hf he =>
    obtain ⟨first, last, result, hfirst, hlast, happend, -, hhold⟩ :=
      exists_reduce 0 h he hf (Nat.le_refl _) (Nat.zero_le _)
    have hopen := (openParenthesis?_reduce 0 frames d).trans hclosed
    have hdisjunction : DerivesAt source.names .disjunction (reduce 0 frames d).2 last :=
      hlast.loosen (by cases result <;> decide)
    rw [← happend]
    generalize (reduce 0 frames d).1 = inner at hfirst hhold hopen
    cases hfirst with
    | nil => exact hdisjunction
    | negation h => nomatch hhold
    | minus h => nomatch hhold
    | parenthesis position h => nomatch hopen
    | @binary _ _ _ layer _ op _ h hn ho hf hl =>
      have hhold : op.precedence < 1 := hhold
      rw [Layer.precedence_of_mem_operators ho] at hhold
      exact absurd hhold (by cases layer <;> decide)

/-- Where tokens cannot be read, the condition is invalid. -/
theorem run_eq_error
    (h : (tokens.foldlM (step source) r >>= fun r => r.finish source) = .error failure) :
    ∃ error, failure = .invalid error := by
  rcases Run.bind_eq_error.mp h with hrun | ⟨last, -, hfinish⟩
  · obtain ⟨-, t, -, u, -, -, hstep⟩ := Run.exists_of_foldlM_eq_error hrun
    obtain ⟨error, herror, -⟩ := meets_step.of_error failure hstep
    exact ⟨error, herror⟩
  · obtain ⟨error, herror, -⟩ := meets_finish.of_error failure hfinish
    exact ⟨error, herror⟩

end Reading

/-- An expression is read from tokens if the grammar derives it from their lexemes. -/
theorem parse_eq_ok {source : Source} {tokens : List Token} {e : Expression} :
    parse source tokens = .ok e ↔
      DerivesAt source.names .disjunction e (tokens.map Token.lexeme) := by
  refine ⟨fun h => ?_, Reading.parse_of_derivesAt⟩
  unfold parse at h
  split at h
  · nomatch h
  · obtain ⟨r, hr, hfinish⟩ := Run.bind_eq_ok.mp h
    exact (Reading.meets_finish.of_ok e hfinish).derivesAt (Reading.spelled_foldlM (.waiting .nil) hr)

theorem parse_eq_error {source : Source} {tokens : List Token} {failure : Failure}
    (h : parse source tokens = .error failure) : ∃ error, failure = .invalid error := by
  unfold parse at h
  split at h
  · cases h
    exact ⟨_, rfl⟩
  · exact Reading.run_eq_error h

/-- What is read from the tokens of a condition is the expression that the grammar derives from all
of their lexemes, of which there is one at most. Where the grammar derives none, the condition is
invalid. Each constant among the tokens, whatever it says, is an operand of the expression, and the
expression has no others. -/
theorem parse_eq_ok_iff_derivesAt (source : Source) (tokens : List Token) :
    (∀ e, parse source tokens = .ok e ↔
      DerivesAt source.names .disjunction e (tokens.map Token.lexeme)) ∧
    ((¬ ∃ e, DerivesAt source.names .disjunction e (tokens.map Token.lexeme)) →
      ∃ error, parse source tokens = .error (.invalid error)) ∧
    (∀ d e, DerivesAt source.names .disjunction d (tokens.map Token.lexeme) →
      DerivesAt source.names .disjunction e (tokens.map Token.lexeme) → d = e) ∧
    ∀ e, parse source tokens = .ok e →
      e.constants = tokens.filterMap fun t => t.lexeme.constant? := by
  refine ⟨fun e => parse_eq_ok, fun hnone => ?_, fun d e hd he => ?_, fun e h => ?_⟩
  · cases h : parse source tokens with
    | ok e => exact absurd ⟨e, parse_eq_ok.mp h⟩ hnone
    | error failure =>
      obtain ⟨error, rfl⟩ := parse_eq_error h
      exact ⟨error, rfl⟩
  · exact Except.ok.inj ((parse_eq_ok.mpr hd).symm.trans (parse_eq_ok.mpr he))
  · rw [(parse_eq_ok.mp h).constants_eq, List.filterMap_map]
    rfl

end Condition

end Destructure
