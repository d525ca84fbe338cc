import Destructure.Proofs.Condition.Step

namespace Destructure.Condition

inductive Layer
  | disjunction
  | conjunction
  | comparison
  | sum
  | product
  | signed
  | primary
  deriving DecidableEq

namespace Layer

def operators : Layer → List Operator
  | .disjunction => [.or]
  | .conjunction => [.and]
  | .comparison => [.lt, .le, .gt, .ge, .eq, .ne]
  | .sum => [.add, .sub]
  | .product => [.mul, .div]
  | .signed | .primary => []

def next? : Layer → Option Layer
  | .disjunction => some .conjunction
  | .conjunction => some .comparison
  | .comparison => some .sum
  | .sum => some .product
  | .product => some .signed
  | .signed => some .primary
  | .primary => none

def rank : Layer → Nat
  | .disjunction => 1
  | .conjunction => 2
  | .comparison => 3
  | .sum => 4
  | .product => 5
  | .signed => 6
  | .primary => 7

theorem precedence_of_mem_operators {layer : Layer} {op : Operator} (h : op ∈ layer.operators) :
    op.precedence = layer.rank := by
  revert h
  cases layer <;> cases op <;> decide

theorem exists_mem_operators (op : Operator) :
    ∃ layer tighter : Layer, op ∈ layer.operators ∧ layer.next? = some tighter := by
  cases op with
  | or => exact ⟨.disjunction, _, by decide, rfl⟩
  | and => exact ⟨.conjunction, _, by decide, rfl⟩
  | add | sub => exact ⟨.sum, _, by decide, rfl⟩
  | mul | div => exact ⟨.product, _, by decide, rfl⟩
  | _ => exact ⟨.comparison, _, by decide, rfl⟩

theorem rank_of_next? {layer tighter : Layer} (h : layer.next? = some tighter) :
    tighter.rank = layer.rank + 1 := by
  cases layer with
  | primary => nomatch h
  | _ =>
    obtain rfl := Option.some.inj h
    rfl

/-- Operators join expressions that are bound less closely than those with a sign. -/
theorem rank_lt_of_mem_operators {layer : Layer} {op : Operator} (h : op ∈ layer.operators) :
    layer.rank < signed.rank := by
  revert h
  cases layer <;> cases op <;> decide

end Layer

inductive DerivesAt (names : List String) : Layer → Expression → List Lexeme → Prop
  | next {layer tighter : Layer} {e : Expression} {lexemes : List Lexeme}
      (hn : layer.next? = some tighter) (h : DerivesAt names tighter e lexemes) :
      DerivesAt names layer e lexemes
  | join {layer tighter : Layer} {op : Operator} {left right : Expression} {first last : List Lexeme}
      (hn : layer.next? = some tighter) (ho : op ∈ layer.operators)
      (hl : DerivesAt names layer left first) (hr : DerivesAt names tighter right last) :
      DerivesAt names layer (.binary op left right) (first ++ .operator op :: last)
  | negation {e : Expression} {lexemes : List Lexeme} (h : DerivesAt names .signed e lexemes) :
      DerivesAt names .signed (.negation e) (.negation :: lexemes)
  | minus {e : Expression} {lexemes : List Lexeme} (h : DerivesAt names .signed e lexemes) :
      DerivesAt names .signed (.minus e) (.operator .sub :: lexemes)
  | constant (value : Constant) : DerivesAt names .primary (.constant value) [.constant value]
  | «variable» {name : String} (h : name ∈ names) :
      DerivesAt names .primary (.variable name) [.name name]
  | parentheses {e : Expression} {lexemes : List Lexeme}
      (h : DerivesAt names .disjunction e lexemes) :
      DerivesAt names .primary e (.openParen :: (lexemes ++ [.closeParen]))

/-- An expression of a layer is one of every looser layer. -/
theorem DerivesAt.loosen {names : List String} {layer looser : Layer} {e : Expression}
    {lexemes : List Lexeme} (h : DerivesAt names layer e lexemes) (hle : looser.rank ≤ layer.rank) :
    DerivesAt names looser e lexemes := by
  have hdown (target : Layer) {tighter : Layer} (hn : target.next? = some tighter)
      (ih : tighter.rank ≤ layer.rank → DerivesAt names tighter e lexemes)
      (hle : target.rank ≤ layer.rank) : DerivesAt names target e lexemes := by
    rcases Nat.eq_or_lt_of_le hle with heq | hlt
    · have hsame : layer = target := by
        revert heq
        cases layer <;> cases target <;> decide
      exact hsame ▸ h
    · apply DerivesAt.next hn
      apply ih
      rw [Layer.rank_of_next? hn]
      exact hlt
  have hprimary (hle : Layer.primary.rank ≤ layer.rank) : DerivesAt names .primary e lexemes := by
    cases layer with
    | primary => exact h
    | _ => exact absurd hle (by decide)
  -- from the tightest layer down, one layer at a time
  have hsigned := hdown .signed rfl hprimary
  have hproduct := hdown .product rfl hsigned
  have hsum := hdown .sum rfl hproduct
  have hcomparison := hdown .comparison rfl hsum
  have hconjunction := hdown .conjunction rfl hcomparison
  cases looser with
  | disjunction => exact hdown .disjunction rfl hconjunction hle
  | conjunction => exact hconjunction hle
  | comparison => exact hcomparison hle
  | sum => exact hsum hle
  | product => exact hproduct hle
  | signed => exact hsigned hle
  | primary => exact hprimary hle

namespace Reading

variable {source : Source} {frames outer : List Frame} {e d : Expression} {r next : Reading}
  {t : Token} {tokens : List Token} {precedence : Nat}

def hold : List Frame → Nat
  | .binary op _ :: _ => op.precedence
  | .negation :: _ | .minus :: _ => Layer.signed.rank
  | _ => 0

theorem complete_of_hold_lt (h : hold frames < Layer.signed.rank) :
    complete frames e = ⟨frames, some e⟩ := by
  unfold complete
  split
  · exact absurd h (Nat.lt_irrefl _)
  · exact absurd h (Nat.lt_irrefl _)
  · rfl

/-- An operator that binds less closely than what is to be applied keeps waiting. -/
theorem reduce_of_hold_lt (h : hold frames < precedence) : reduce precedence frames e = (frames, e) := by
  unfold reduce
  split
  · rename_i op left rest
    have hop : op.precedence < precedence := h
    rw [if_neg (Nat.not_le.mpr hop)]
  · rfl

def reduced (precedence : Nat) (r : Reading) : Reading :=
  match r.operand with
  | none => r
  | some e => ⟨(reduce precedence r.frames e).1, some (reduce precedence r.frames e).2⟩

theorem reduced_of_hold_lt (h : hold frames < precedence) :
    reduced precedence ⟨frames, some e⟩ = ⟨frames, some e⟩ := by
  simp only [reduced, reduce_of_hold_lt h]

/-- A waiting operator is applied together with those around it that bind at least as closely. -/
theorem reduced_binary {op : Operator} {left : Expression} (h : precedence ≤ op.precedence) :
    reduced precedence ⟨.binary op left :: frames, some e⟩ =
      reduced precedence ⟨frames, some (.binary op left e)⟩ := by
  have hreduce : reduce precedence (.binary op left :: frames) e =
      reduce precedence frames (.binary op left e) := if_pos h
  simp only [reduced, hreduce]

theorem exists_of_reduced (h : r.reduced precedence = ⟨frames, some e⟩) :
    ∃ inner d, r = ⟨inner, some d⟩ ∧ reduce precedence inner d = (frames, e) := by
  obtain ⟨inner, operand⟩ := r
  cases operand with
  | none => nomatch congrArg operand h
  | some d =>
    refine ⟨inner, d, rfl, ?_⟩
    have hframes := congrArg Reading.frames h
    have hoperand := congrArg Reading.operand h
    exact Prod.ext hframes (Option.some.inj hoperand)

/-- An operator takes what has been read so far as its left operand, as far as this is bound at least
as closely. -/
theorem step_operator {op : Operator} (ht : t.lexeme = .operator op)
    (h : r.reduced op.precedence = ⟨frames, some e⟩) :
    step source r t = .ok ⟨.binary op e :: frames, none⟩ := by
  obtain ⟨inner, d, rfl, hreduce⟩ := exists_of_reduced h
  exact step_of_advances (.operator ht hreduce)

/-- A closing parenthesis ends what has been read since the innermost open one. -/
theorem step_closeParen {position : Int} (ht : t.lexeme = .closeParen)
    (h : r.reduced 0 = ⟨.parenthesis position :: outer, some e⟩) :
    step source r t = .ok (complete outer e) := by
  obtain ⟨inner, d, rfl, hreduce⟩ := exists_of_reduced h
  exact step_of_advances (.closeParen ht hreduce)

/-- The tokens of an expression lead to a state that stands for it. The expression may come wherever
no operator of its own layer or a tighter one waits, and a primary or signed one anywhere. -/
theorem exists_of_derivesAt {layer : Layer} {lexemes : List Lexeme}
    (h : DerivesAt source.names layer e lexemes)
    (hf : layer.rank < Layer.signed.rank → hold frames < layer.rank)
    (ht : tokens.map Token.lexeme = lexemes) :
    ∃ r, tokens.foldlM (step source) ⟨frames, none⟩ = .ok r ∧
      ∀ precedence ≤ layer.rank, r.reduced precedence = (complete frames e).reduced precedence := by
  induction h generalizing frames tokens with
  | @next layer tighter e lexemes hn h ih =>
    have hrank := Layer.rank_of_next? hn
    have hlt (hsigned : tighter.rank < Layer.signed.rank) : hold frames < tighter.rank := by
      have := hf (by omega)
      omega
    obtain ⟨r, hr, hreduced⟩ := ih hlt ht
    exact ⟨r, hr, fun p hp => hreduced p (by omega)⟩
  | @join layer tighter op left right first last hn ho hl hr ihl ihr =>
    have hrank := Layer.rank_of_next? hn
    have hprecedence := Layer.precedence_of_mem_operators ho
    have hlt := hf (Layer.rank_lt_of_mem_operators ho)
    have hsigned : hold frames < Layer.signed.rank :=
      Nat.lt_trans hlt (Layer.rank_lt_of_mem_operators ho)
    obtain ⟨before, rest, rfl, hbefore, hrest⟩ := List.map_eq_append_iff.mp ht
    obtain ⟨t, behind, rfl, hop, hbehind⟩ := List.map_eq_cons_iff.mp hrest
    obtain ⟨r, hr, hreduced⟩ := ihl hf hbefore
    have hleft : r.reduced op.precedence = ⟨frames, some left⟩ := by
      rw [hprecedence, hreduced _ (Nat.le_refl _), complete_of_hold_lt hsigned,
        reduced_of_hold_lt hlt]
    have hwaits : hold (.binary op left :: frames) < tighter.rank := by
      change op.precedence < tighter.rank
      omega
    obtain ⟨r', hr', hreduced'⟩ := ihr (fun _ => hwaits) hbehind
    refine ⟨r', ?_, fun p hp => ?_⟩
    · rw [Run.foldlM_append_of_ok hr, Run.foldlM_cons_of_ok (step_operator hop hleft)]
      exact hr'
    · calc
        r'.reduced p = reduced p ⟨.binary op left :: frames, some right⟩ := hreduced' p (by omega)
        _ = reduced p ⟨frames, some (.binary op left right)⟩ := reduced_binary (by omega)
        _ = (complete frames (.binary op left right)).reduced p := by
          rw [complete_of_hold_lt hsigned]
  | negation h ih =>
    obtain ⟨t, behind, rfl, hnot, hbehind⟩ := List.map_eq_cons_iff.mp ht
    have hwaits : Layer.signed.rank < Layer.signed.rank →
        hold (.negation :: frames) < Layer.signed.rank := fun h => absurd h (by decide)
    obtain ⟨r, hr, hreduced⟩ := ih hwaits hbehind
    refine ⟨r, ?_, hreduced⟩
    rw [Run.foldlM_cons_of_ok (step_of_advances (.negation hnot))]
    exact hr
  | minus h ih =>
    obtain ⟨t, behind, rfl, hminus, hbehind⟩ := List.map_eq_cons_iff.mp ht
    have hwaits : Layer.signed.rank < Layer.signed.rank →
        hold (.minus :: frames) < Layer.signed.rank := fun h => absurd h (by decide)
    obtain ⟨r, hr, hreduced⟩ := ih hwaits hbehind
    refine ⟨r, ?_, hreduced⟩
    rw [Run.foldlM_cons_of_ok (step_of_advances (.minus hminus))]
    exact hr
  | constant value =>
    obtain ⟨t, behind, rfl, hvalue, hbehind⟩ := List.map_eq_cons_iff.mp ht
    obtain rfl := List.map_eq_nil_iff.mp hbehind
    refine ⟨_, ?_, fun p hp => rfl⟩
    rw [Run.foldlM_cons_of_ok (step_of_advances (.constant hvalue))]
    rfl
  | «variable» hname =>
    obtain ⟨t, behind, rfl, hlexeme, hbehind⟩ := List.map_eq_cons_iff.mp ht
    obtain rfl := List.map_eq_nil_iff.mp hbehind
    refine ⟨_, ?_, fun p hp => rfl⟩
    rw [Run.foldlM_cons_of_ok (step_of_advances (.name hlexeme hname))]
    rfl
  | @parentheses e lexemes h ih =>
    obtain ⟨o, rest, rfl, hopen, hrest⟩ := List.map_eq_cons_iff.mp ht
    obtain ⟨inside, behind, rfl, hinside, hbehind⟩ := List.map_eq_append_iff.mp hrest
    obtain ⟨c, after, rfl, hclose, hafter⟩ := List.map_eq_cons_iff.mp hbehind
    obtain rfl := List.map_eq_nil_iff.mp hafter
    have hinner : hold (.parenthesis o.position :: frames) < Layer.disjunction.rank := Nat.one_pos
    obtain ⟨r, hr, hreduced⟩ := ih (fun _ => hinner) hinside
    refine ⟨_, ?_, fun p hp => rfl⟩
    rw [Run.foldlM_cons_of_ok (step_of_advances (.openParen hopen)), Run.foldlM_append_of_ok hr,
      Run.foldlM_cons_of_ok (step_closeParen hclose (hreduced 0 (Nat.zero_le _)))]
    rfl

/-- Applying operators opens and closes no parenthesis. -/
theorem openParenthesis?_reduce (precedence : Nat) (frames : List Frame) (e : Expression) :
    openParenthesis? (reduce precedence frames e).1 = openParenthesis? frames := by
  induction frames generalizing e with
  | nil => rfl
  | cons frame rest ih =>
    cases frame with
    | binary op left =>
      rw [reduce]
      split
      · exact ih _
      · rfl
    | _ => rfl

/-- The expression that the grammar derives from lexemes is read from their tokens. -/
theorem parse_of_derivesAt (h : DerivesAt source.names .disjunction e (tokens.map Token.lexeme)) :
    parse source tokens = .ok e := by
  have hempty : hold [] < Layer.disjunction.rank := Nat.one_pos
  obtain ⟨r, hr, hreduced⟩ := exists_of_derivesAt h (fun _ => hempty) rfl
  obtain ⟨inner, d, rfl, hreduce⟩ := exists_of_reduced (hreduced 0 (Nat.zero_le _))
  have hclosed : openParenthesis? inner = none := by
    rw [← openParenthesis?_reduce 0 inner d, hreduce]
    rfl
  have hends : Ends ⟨inner, some d⟩ e := by
    have hread := Ends.operand (e := d) hclosed
    rwa [hreduce] at hread
  have hne : tokens.isEmpty = false := by
    cases tokens with
    | nil => nomatch hr
    | cons t rest => rfl
  rw [parse, hne, if_neg Bool.false_ne_true]
  exact Run.bind_eq_ok.mpr ⟨_, hr, finish_of_ends hends⟩

end Reading

end Destructure.Condition
