import Destructure.Proofs.Pattern.Grammar

/-!
Which tokens are a pattern: those from which the grammar derives one. Whatever is read from tokens
has been derived from all of them.
-/

namespace Destructure

namespace Reading

variable {source : Source} {r next : Reading} {frames outer : List Frame} {t : Token}
  {tokens rest between : List Token} {p q : Pattern}

/-- What comes behind a pattern that has been derived is no part of it. -/
theorem ends_of_derives (h : Derives source.literal? p tokens (t :: rest)) : Ends p t := by
  rintro expression rfl
  cases h with
  | regex h hc hnext => exact hnext t rfl

def Expecting.Waits : Expecting → Prop
  | .captures _ | .nothing _ => False
  | _ => True

theorem resolved_of_waits {e : Expecting} (he : e.Waits) :
    resolved ⟨frames, e⟩ = ⟨frames, e⟩ := by
  refine resolved_eq_self ?_
  rintro expression rfl
  exact he

theorem finish_ne_ok {e : Expecting} (he : e.Waits) :
    (⟨frames, e⟩ : Reading).finish source ≠ .ok q := by
  intro h
  have hend := meets_finish.of_ok q h
  rw [resolved_of_waits he] at hend
  cases hend
  exact he

/-- Within a frame, a pattern is not the end. -/
theorem finish_settled_cons (f : Frame) : (settled (f :: outer) p).finish source ≠ .ok q := by
  intro h
  have hend := meets_finish.of_ok q h
  rw [resolved_settled] at hend
  cases f with
  | sequence start captured elements => nomatch hend
  | mapping start entries pending => cases pending <;> nomatch hend

/-- A state that is not the end takes a token. -/
theorem exists_step_of_finish (hfinish : r.finish source ≠ .ok q)
    (h : run source r tokens = .ok q) :
    ∃ t rest next, tokens = t :: rest ∧ step source r t = .ok next ∧
      run source next rest = .ok q := by
  cases tokens with
  | nil => exact absurd h hfinish
  | cons t rest =>
    obtain ⟨next, hstep, h⟩ := run_cons_eq_ok.mp h
    exact ⟨t, rest, next, rfl, hstep, h⟩

theorem exists_step_of_waits {e : Expecting} (h : run source ⟨frames, e⟩ tokens = .ok q)
    (he : e.Waits) :
    ∃ t rest next, tokens = t :: rest ∧ Advances source t ⟨frames, e⟩ next ∧
      run source next rest = .ok q := by
  obtain ⟨t, rest, next, ht, hstep, h⟩ := exists_step_of_finish (finish_ne_ok he) h
  exact ⟨t, rest, next, ht, (step_resolved_eq_ok (resolved_of_waits he)).mp hstep, h⟩

def ReadsUpTo (source : Source) (n : Nat) : Prop :=
  ∀ tokens : List Token, tokens.length ≤ n → ∀ frames q,
    run source ⟨frames, .pattern⟩ tokens = .ok q →
      ∃ p rest, Derives source.literal? p tokens rest ∧ rest.length < tokens.length ∧
        run source (settled frames p) rest = .ok q

section Sound

variable {n : Nat} {start : Int} {captured : Option Regex}

/-- Behind a bar there are a name and the closing bracket. -/
theorem exists_tail {before : List Pattern} {bar : Token} (hb : bar.lexeme = .pipe) {position : Int}
    (h : run source ⟨.sequence start captured before :: outer, .tailName position⟩ tokens = .ok q) :
    ∃ text rest, DerivesTail text (bar :: tokens) rest ∧ rest.length < tokens.length ∧
      run source (complete outer (enclosed captured (before.reverse ++ [.variable text true])))
        rest = .ok q := by
  obtain ⟨name, behind, next, rfl, hname, h'⟩ := exists_step_of_waits h trivial
  cases hname with
  | begins he _ | bar he _ | closes _ he => nomatch he
  | @tail _ _ text hn =>
    obtain ⟨close, rest, next, rfl, hclose, -⟩ := exists_step_of_waits h' trivial
    cases hclose with
    | begins he _ | bar he _ => nomatch he
    | closes hc he =>
      cases he
      refine ⟨text, rest, .tail hb hn hc, ?_, ?_⟩
      · rw [List.length_cons, List.length_cons]
        omega
      · rwa [run_tail hn hc] at h

theorem exists_elements {before : List Pattern} {tokens : List Token} (hn : ReadsUpTo source n)
    (hl : tokens.length ≤ n)
    (h : run source ⟨.sequence start captured before :: outer, .pattern⟩ tokens = .ok q) :
    ∃ elements rest, DerivesElements source.literal? elements tokens rest ∧
      rest.length < tokens.length ∧
      run source (complete outer (enclosed captured (before.reverse ++ elements))) rest =
        .ok q := by
  obtain ⟨p, behind, hp, hlt, h⟩ := hn tokens hl _ q h
  obtain ⟨c, between, next, rfl, hstep, h⟩ := exists_step_of_finish (finish_settled_cons _) h
  have hbehind : Advances source c
      ⟨.sequence start captured (p :: before) :: outer, .afterElement⟩ next :=
    (step_settled_eq_ok (ends_of_derives hp)).mp hstep
  rw [List.length_cons] at hlt
  cases hbehind with
  | begins he _ => nomatch he
  | comma hc =>
    obtain ⟨t, rest, next, rfl, hnext, h⟩ := exists_step_of_waits h trivial
    have hshorter : (t :: rest).length < tokens.length := by omega
    rw [List.length_cons] at hlt
    cases hnext with
    | closes _ he => nomatch he
    | bar _ hbar =>
      obtain ⟨text, rest, ht, hrest, h⟩ := exists_tail hbar h
      refine ⟨_, rest, .commaTail hp hc ht, by omega, ?_⟩
      rwa [List.reverse_cons, List.append_assoc] at h
    | begins _ hbegins =>
      obtain ⟨elements, rest, he, hrest, h⟩ := exists_elements hn (by omega)
        ((run_begins (e := .pattern) trivial hbegins).trans h)
      rw [List.length_cons] at hrest
      refine ⟨_, rest, .more hp hc he, by omega, ?_⟩
      rwa [List.reverse_cons, List.append_assoc] at h
  | closes hc he =>
    cases he
    rw [close_sequence, List.reverse_cons] at h
    exact ⟨_, between, .last hp hc, by omega, h⟩
  | bar _ hc =>
    obtain ⟨text, rest, ht, hrest, h⟩ := exists_tail hc h
    refine ⟨_, rest, .tail hp ht, by omega, ?_⟩
    rwa [List.reverse_cons, List.append_assoc] at h
termination_by tokens.length

/-- Behind its opening bracket a sequence is derived. -/
theorem exists_sequence {o : Token} (hn : ReadsUpTo source n) (hl : tokens.length ≤ n)
    (ho : o.lexeme = .openBracket)
    (h : run source (openSequence frames captured o.position) tokens = .ok q) :
    ∃ elements rest, DerivesSequence source.literal? elements (o :: tokens) rest ∧
      rest.length < tokens.length ∧
      run source (complete frames (enclosed captured elements)) rest = .ok q := by
  obtain ⟨t, rest, next, rfl, hnext, h⟩ := exists_step_of_waits h trivial
  cases hnext with
  | closes hc he =>
    cases he
    rw [close_sequence] at h
    exact ⟨[], rest, .empty ho hc, Nat.lt_succ_self _, h⟩
  | bar _ hbar =>
    obtain ⟨text, behind, ht, hlt, h⟩ := exists_tail hbar h
    exact ⟨_, behind, .onlyTail ho ht, Nat.lt_succ_of_lt hlt, h⟩
  | begins _ hbegins =>
    obtain ⟨elements, behind, he, hlt, h⟩ := exists_elements hn hl
      ((run_begins (e := .pattern) trivial hbegins).trans h)
    exact ⟨elements, behind, .elements ho he, hlt, h⟩

theorem exists_entries {before : List (String × Int × Pattern)} {tokens : List Token}
    (hn : ReadsUpTo source n) (hl : tokens.length ≤ n)
    (hnodup : ((entriesOf before).map Prod.fst).Nodup)
    (h : run source ⟨.mapping start before none :: outer, .key false⟩ tokens = .ok q) :
    ∃ entries rest, DerivesEntries source.literal? entries tokens rest ∧
      ((entriesOf before ++ entries).map Prod.fst).Nodup ∧ rest.length < tokens.length ∧
      run source (complete outer (.mapping (entriesOf before ++ entries))) rest = .ok q := by
  obtain ⟨k, behind, next, htokens, hk, h⟩ := exists_step_of_waits h trivial
  cases hk with
  | begins he _ | bar he _ | closes _ he => nomatch he
  | looseKey _ hf => exact absurd rfl (hf _ _ _ _)
  | @key _ _ _ _ _ key hkey hnew =>
  obtain ⟨e, behind, next, rfl, hequals, h⟩ := exists_step_of_waits h trivial
  cases hequals with
  | begins he _ | bar he _ | closes _ he => nomatch he
  | equals he =>
  have hlength : tokens.length = behind.length + 2 := congrArg List.length htokens
  obtain ⟨p, behind, hp, hlt, h⟩ := hn behind (by omega) _ q h
  obtain ⟨c, between, next, rfl, hstep, h⟩ := exists_step_of_finish (finish_settled_cons _) h
  have hbehind : Advances source c
      ⟨.mapping start ((key, k.position, p) :: before) none :: outer, .afterEntry⟩ next :=
    (step_settled_eq_ok (ends_of_derives hp)).mp hstep
  rw [List.length_cons] at hlt
  have hnames : ((entriesOf before ++ [(key, p)]).map Prod.fst).Nodup := by
    rw [List.map_append]
    exact List.nodup_append_comm.mp (List.nodup_cons.mpr ⟨lookup_eq_none_iff.mp hnew, hnodup⟩)
  rw [← entriesOf_cons key k.position] at hnames
  cases hbehind with
  | begins he _ | bar he _ => nomatch he
  | entryComma hc =>
    have hshorter : between.length < tokens.length := by omega
    obtain ⟨entries, rest, hentries, hnodup, hrest, h⟩ := exists_entries hn (by omega) hnames h
    rw [entriesOf_cons, List.append_assoc] at hnodup h
    exact ⟨_, rest, htokens ▸ .more hkey he hp hc hentries, hnodup, by omega, h⟩
  | closes hc hclosed =>
    cases hclosed
    rw [entriesOf_cons] at hnames
    refine ⟨_, between, htokens ▸ .last hkey he hp hc, hnames, by omega, ?_⟩
    rw [← entriesOf_cons key k.position]
    exact h
termination_by tokens.length

/-- Behind its opening brace a mapping is derived. -/
theorem exists_mapping {o : Token} (hn : ReadsUpTo source n) (hl : tokens.length ≤ n)
    (ho : o.lexeme = .openBrace)
    (h : run source ⟨.mapping o.position [] none :: frames, .key true⟩ tokens = .ok q) :
    ∃ entries rest, Derives source.literal? (.mapping entries) (o :: tokens) rest ∧
      rest.length < tokens.length ∧ run source (complete frames (.mapping entries)) rest = .ok q := by
  obtain ⟨t, rest, next, rfl, hnext, h⟩ := exists_step_of_waits h trivial
  cases hnext with
  | begins he _ | bar he _ => nomatch he
  | looseKey _ hf => exact absurd rfl (hf _ _ _ _)
  | closes hc he =>
    cases he
    exact ⟨[], rest, .emptyMapping ho hc, Nat.lt_succ_self _, h⟩
  | key hkey hnew =>
    have hnone : ((entriesOf []).map Prod.fst).Nodup := List.nodup_nil
    have hentries : run source ⟨.mapping o.position [] none :: frames, .key false⟩ (t :: rest) =
        .ok q := (run_advances (.key hkey hnew) rfl).trans h
    obtain ⟨entries, behind, he, hnodup, hlt, h⟩ := exists_entries hn hl hnone hentries
    exact ⟨entries, behind, .mapping ho he hnodup, hlt, h⟩

end Sound

/-- Tokens that lead from a place for a pattern to the end begin with a pattern that the grammar
derives. -/
theorem readsUpTo (source : Source) (n : Nat) : ReadsUpTo source n := by
  induction n with
  | zero =>
    intro tokens hl frames q h
    obtain ⟨t, rest, next, rfl, -⟩ := exists_step_of_waits h trivial
    nomatch hl
  | succ n ih =>
    intro tokens hl frames q h
    obtain ⟨t, rest, next, rfl, hnext, h⟩ := exists_step_of_waits h trivial
    -- one token has been taken, so the inside of a sequence or a mapping is within the bound
    have hl : rest.length ≤ n := Nat.le_of_succ_le_succ hl
    have hlt : rest.length < (t :: rest).length := Nat.lt_succ_self _
    cases hnext with
    | bar he _ | closes _ he => nomatch he
    | begins _ hbegins =>
    cases hbegins with
    | sequence ht =>
      obtain ⟨elements, behind, hs, hlt, h⟩ := exists_sequence ih hl ht h
      exact ⟨_, behind, .sequence hs, Nat.lt_succ_of_lt hlt, h⟩
    | mapping ht =>
      obtain ⟨entries, behind, hm, hlt, h⟩ := exists_mapping ih hl ht h
      exact ⟨_, behind, hm, Nat.lt_succ_of_lt hlt, h⟩
    | name ht => exact ⟨_, rest, .variable ht, hlt, h⟩
    | text ht => exact ⟨_, rest, .text ht, hlt, h⟩
    | number ht => exact ⟨_, rest, .number ht, hlt, h⟩
    | @regex regex ignoreCase expression ht hc =>
      by_cases hnext : ∀ next ∈ rest.head?, next.lexeme ≠ .openBracket
      · exact ⟨_, rest, .regex ht hc hnext, hlt, h⟩
      · push Not at hnext
        obtain ⟨o, ho, hopen⟩ := hnext
        obtain ⟨behind, rfl⟩ := List.head?_eq_some_iff.mp ho
        rw [run_cons (step_captures rfl hopen)] at h
        rw [List.length_cons] at hl
        obtain ⟨elements, behind, hs, hshort, h⟩ := exists_sequence ih (by omega) hopen h
        refine ⟨_, behind, .groups ht hc hs, ?_, h⟩
        rw [List.length_cons, List.length_cons]
        omega

/-- Behind a whole pattern there is nothing. -/
theorem eq_nil_of_run_settled (hends : ∀ t ∈ tokens.head?, Ends p t)
    (h : run source (settled [] p) tokens = .ok q) : tokens = [] ∧ p = q := by
  cases tokens with
  | nil => exact ⟨rfl, Except.ok.inj ((finish_settled p).symm.trans h)⟩
  | cons t rest =>
    obtain ⟨next, hstep, -⟩ := run_cons_eq_ok.mp h
    have hnothing : Advances source t ⟨[], .nothing p⟩ next :=
      (step_settled_eq_ok (hends t rfl)).mp hstep
    cases hnothing with
    | begins he _ | bar he _ => nomatch he

/-- The pattern that is read from tokens is the one that the grammar derives from all of them. -/
theorem ofTokens_eq_ok : Pattern.ofTokens source tokens = .ok p ↔ Derives source.literal? p tokens [] := by
  constructor
  · intro h
    obtain ⟨q, rest, hq, -, h⟩ := readsUpTo source tokens.length tokens (Nat.le_refl _) [] p h
    obtain ⟨rfl, rfl⟩ := eq_nil_of_run_settled (fun t ht => by
      obtain ⟨behind, rfl⟩ := List.head?_eq_some_iff.mp ht
      exact ends_of_derives hq) h
    exact hq
  · intro h
    exact (run_derives (e := .pattern) trivial h).trans (finish_settled p)

end Reading

end Destructure
