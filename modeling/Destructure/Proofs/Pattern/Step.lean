import Destructure.Pattern.Parse
import Destructure.Proofs.Outcome

namespace Destructure

open Run (Meets meets_ok meets_error)

section Literal

variable (literal? : Nat → Option Literal)

def Token.Carries (t : Token) (payload : Payload) : Prop :=
  ∃ number l, t.lexeme = .literal number ∧ literal? number = some l ∧ l.payload = payload

inductive Token.IsKey : Token → String → Prop
  | name {t : Token} {key : String} (h : t.lexeme = .name key) : IsKey t key
  | text {t : Token} {value : List Char} (h : t.Carries literal? (.text value)) :
      IsKey t (String.ofList value)

end Literal

def Regex.Problem.passed : Regex.Problem → Option Failure
  | .malformed _ _ => none
  | .repetitionTooLarge => some .repetitionTooLarge
  | .numeralTooLong digits => some (.numeralTooLong digits)
  | .incompatibleFlags => some .incompatibleFlags
  | .lookbehindTooLong => some .lookbehindTooLong

/-- What is passed on is no error of the pattern. -/
theorem Regex.Problem.passed_ne_invalid (problem : Regex.Problem) (error : PatternError) :
    problem.passed ≠ some (.invalid error) := by
  intro h
  cases problem <;> cases h

theorem Regex.Problem.passed_ne_bracketUnderflow (problem : Regex.Problem) :
    problem.passed ≠ some .bracketUnderflow := by
  intro h
  cases problem <;> cases h

namespace Reading

def Expecting.Admits : Expecting → Prop
  | .pattern | .element _ => True
  | _ => False

def Expecting.AdmitsBar : Expecting → Prop
  | .element _ | .afterElement => True
  | _ => False

inductive Expecting.ClosedBy : Expecting → Lexeme → Prop
  | noElement : ClosedBy (.element none) .closeBracket
  | element : ClosedBy .afterElement .closeBracket
  | tail : ClosedBy .afterTail .closeBracket
  | noEntry : ClosedBy (.key true) .closeBrace
  | entry : ClosedBy .afterEntry .closeBrace

def resolved (r : Reading) : Reading :=
  match r.expecting with
  | .captures expression => complete r.frames (.regex expression)
  | _ => r

inductive Begins (source : Source) (frames : List Frame) (t : Token) : Reading → Prop
  | sequence (ht : t.lexeme = .openBracket) :
      Begins source frames t (openSequence frames none t.position)
  | mapping (ht : t.lexeme = .openBrace) :
      Begins source frames t ⟨.mapping t.position [] none :: frames, .key true⟩
  | name {name : String} (ht : t.lexeme = .name name) :
      Begins source frames t (complete frames (.variable name false))
  | text {value : List Char} (h : t.Carries source.literal? (.text value)) :
      Begins source frames t (complete frames (.text (String.ofList value)))
  | number {value : Number} (h : t.Carries source.literal? (.number value)) :
      Begins source frames t (complete frames (.number value))
  | regex {regex : List Char} {ignoreCase : Bool} {expression : Regex}
      (h : t.Carries source.literal? (.regex regex ignoreCase))
      (hc : Regex.compile (String.ofList regex) ignoreCase = .ok expression) :
      Begins source frames t ⟨frames, .captures expression⟩

inductive Advances (source : Source) (t : Token) : Reading → Reading → Prop
  | begins {frames : List Frame} {e : Expecting} {next : Reading} (he : e.Admits)
      (h : Begins source frames t next) : Advances source t ⟨frames, e⟩ next
  | captures {frames : List Frame} {expression : Regex} :
      Advances source t ⟨frames, .captures expression⟩ ⟨frames, .captures expression⟩
  | comma {frames : List Frame} (ht : t.lexeme = .comma) :
      Advances source t ⟨frames, .afterElement⟩ ⟨frames, .element (some t.position)⟩
  | bar {frames : List Frame} {e : Expecting} (he : e.AdmitsBar) (ht : t.lexeme = .pipe) :
      Advances source t ⟨frames, e⟩ ⟨frames, .tailName t.position⟩
  | tail {frames : List Frame} {bar : Int} {name : String} (ht : t.lexeme = .name name) :
      Advances source t ⟨frames, .tailName bar⟩
        ⟨(complete frames (.variable name true)).frames, .afterTail⟩
  | closes {frame : Frame} {outer : List Frame} {e : Expecting} {bracket : Lexeme}
      (ht : t.lexeme = bracket) (he : e.ClosedBy bracket) :
      Advances source t ⟨frame :: outer, e⟩ (close frame outer)
  | key {start : Int} {entries : List (String × Int × Pattern)} {pending : Option (String × Int)}
      {outer : List Frame} {mayClose : Bool} {key : String} (hkey : t.IsKey source.literal? key)
      (hnew : entries.lookup key = none) :
      Advances source t ⟨.mapping start entries pending :: outer, .key mayClose⟩
        ⟨.mapping start entries (some (key, t.position)) :: outer, .equals⟩
  | looseKey {frames : List Frame} {mayClose : Bool} {key : String}
      (hkey : t.IsKey source.literal? key)
      (hf : ∀ start entries pending outer, frames ≠ .mapping start entries pending :: outer) :
      Advances source t ⟨frames, .key mayClose⟩ ⟨frames, .equals⟩
  | equals {frames : List Frame} (ht : t.lexeme = .equals) :
      Advances source t ⟨frames, .equals⟩ ⟨frames, .pattern⟩
  | entryComma {frames : List Frame} (ht : t.lexeme = .comma) :
      Advances source t ⟨frames, .afterEntry⟩ ⟨frames, .key false⟩

inductive Steps (source : Source) (t : Token) (r : Reading) : Reading → Prop
  | captures {expression : Regex} (he : r.expecting = .captures expression)
      (ht : t.lexeme = .openBracket) :
      Steps source t r (openSequence r.frames (some expression) t.position)
  | advances {next : Reading}
      (hn : ∀ expression, r.expecting = .captures expression → t.lexeme ≠ .openBracket)
      (h : Advances source t r.resolved next) : Steps source t r next

inductive Blames (source : Source) (t : Token) : Reading → PatternError → Prop
  | unexpected {frames : List Frame} {e : Expecting} (he : e.Admits) :
      Blames source t ⟨frames, e⟩
        (.unexpectedToken (source.shown t) t.lexeme.kindName t.position)
  | trailingComma {frames : List Frame} {comma : Int} (ht : t.lexeme = .closeBracket) :
      Blames source t ⟨frames, .element (some comma)⟩ (.trailingComma comma)
  | missingComma {frames : List Frame} :
      Blames source t ⟨frames, .afterElement⟩ (.missingComma (source.shown t) t.position)
  | tailWithoutName {frames : List Frame} {bar : Int} :
      Blames source t ⟨frames, .tailName bar⟩ (.tailWithoutName (some (source.shown t)) bar)
  | tailNotLast {frames : List Frame} :
      Blames source t ⟨frames, .afterTail⟩ (.tailNotLast (source.shown t) t.position)
  | invalidKey {frames : List Frame} {mayClose : Bool} :
      Blames source t ⟨frames, .key mayClose⟩ (.invalidKey (source.shown t) t.position)
  | repeatedKey {frames : List Frame} {mayClose : Bool} {key : String} {first : Int} :
      Blames source t ⟨frames, .key mayClose⟩ (.repeatedKey key t.position first)
  | missingEquals {frames : List Frame} :
      Blames source t ⟨frames, .equals⟩
        (.missingEquals (pendingKey frames).1 (some (source.shown t)) (pendingKey frames).2)
  | missingEntryComma {frames : List Frame} :
      Blames source t ⟨frames, .afterEntry⟩ (.missingEntryComma (source.shown t) t.position)
  | afterPattern {frames : List Frame} {p : Pattern} :
      Blames source t ⟨frames, .nothing p⟩ (.afterPattern (source.shown t) t.position)

inductive Refuses (source : Source) (t : Token) (r : Reading) : Failure → Prop
  | missing {number : Nat} (ht : t.lexeme = .literal number)
      (hl : source.literal? number = none) : Refuses source t r .malformedMarker
  | malformed {number : Nat} {l : Literal} {regex : List Char} {description : String}
      (hl : source.literal? number = some l) :
      Refuses source t r
        (.invalid (.invalidRegex (String.ofList l.raw) (String.ofList regex) description l.position))
  | passed {regex : List Char} {ignoreCase : Bool} {problem : Regex.Problem} {failure : Failure}
      (h : t.Carries source.literal? (.regex regex ignoreCase))
      (hc : Regex.compile (String.ofList regex) ignoreCase = .error problem)
      (hp : problem.passed = some failure) : Refuses source t r failure
  | blames {error : PatternError} (h : Blames source t r error) :
      Refuses source t r (.invalid error)
  | underflow {bracket : Lexeme} (hf : r.frames = []) (he : r.expecting.ClosedBy bracket) :
      Refuses source t r .bracketUnderflow

def Expecting.IsInside : Expecting → Prop
  | .element _ | .afterElement | .afterTail | .key _ | .afterEntry => True
  | _ => False

inductive BreaksOff (source : Source) : Reading → PatternError → Prop
  | empty : BreaksOff source ⟨[], .pattern⟩ .emptyPattern
  | pattern {frame : Frame} {outer : List Frame} :
      BreaksOff source ⟨frame :: outer, .pattern⟩ (.patternBreaksOff source.text)
  | tailWithoutName {frames : List Frame} {bar : Int} :
      BreaksOff source ⟨frames, .tailName bar⟩ (.tailWithoutName none bar)
  | missingEquals {frames : List Frame} :
      BreaksOff source ⟨frames, .equals⟩
        (.missingEquals (pendingKey frames).1 none (pendingKey frames).2)
  | unterminated {frames : List Frame} {e : Expecting} (he : e.IsInside) :
      BreaksOff source ⟨frames, e⟩ (unterminated source frames)

variable {source : Source} {r next : Reading} {frames : List Frame} {e : Expecting} {t : Token}
  {p : Pattern}

theorem literal_eq_ok {number : Nat} {l : Literal} :
    source.literal number = .ok l ↔ source.literal? number = some l := by
  unfold Source.literal
  cases source.literal? number <;> simp

theorem compileRegex_eq_ok {l : Literal} {regex : List Char} {ignoreCase : Bool}
    {expression : Regex} : compileRegex l regex ignoreCase = .ok expression ↔
      Regex.compile (String.ofList regex) ignoreCase = .ok expression := by
  unfold compileRegex
  split
  · rename_i found hfound
    rw [hfound]
    exact ⟨fun h => congrArg _ (Except.ok.inj h), fun h => congrArg _ (Except.ok.inj h)⟩
  all_goals
    rename_i hproblem
    rw [hproblem]
    exact ⟨fun h => (nomatch h), fun h => (nomatch h)⟩

theorem compileRegex_of_passed {l : Literal} {regex : List Char} {ignoreCase : Bool}
    {problem : Regex.Problem} {failure : Failure}
    (hc : Regex.compile (String.ofList regex) ignoreCase = .error problem)
    (hp : problem.passed = some failure) : compileRegex l regex ignoreCase = .error failure := by
  unfold compileRegex
  rw [hc]
  cases problem with
  | malformed message position => cases hp
  | _ =>
    cases hp
    rfl

section Inversion

theorem meets_literal {number : Nat} (ht : t.lexeme = .literal number) :
    Meets (fun l => source.literal? number = some l) (Refuses source t r)
      (source.literal number) := by
  unfold Source.literal
  split
  · exact meets_ok ‹_›
  · exact meets_error (.missing ht ‹_›)

theorem meets_compileRegex {number : Nat} {l : Literal} {regex : List Char} {ignoreCase : Bool}
    (ht : t.lexeme = .literal number) (hl : source.literal? number = some l)
    (hp : l.payload = .regex regex ignoreCase) :
    Meets (fun expression => Regex.compile (String.ofList regex) ignoreCase = .ok expression)
      (Refuses source t r) (compileRegex l regex ignoreCase) := by
  have hcarries : t.Carries source.literal? (.regex regex ignoreCase) := ⟨number, l, ht, hl, hp⟩
  unfold compileRegex
  split
  · exact meets_ok ‹_›
  · exact meets_error (.malformed hl)
  all_goals exact meets_error (.passed hcarries ‹_› rfl)

theorem meets_beginPattern (he : e.Admits) :
    Meets (Advances source t ⟨frames, e⟩) (Refuses source t ⟨frames, e⟩)
      (beginPattern source frames t) := by
  unfold beginPattern
  split
  · exact meets_ok (.begins he (.sequence ‹_›))
  · exact meets_ok (.begins he (.mapping ‹_›))
  · exact meets_ok (.begins he (.name ‹_›))
  · rename_i number ht
    refine (meets_literal ht).bind fun l hl => ?_
    split
    · exact meets_ok (.begins he (.text ⟨number, l, ht, hl, ‹_›⟩))
    · exact meets_ok (.begins he (.number ⟨number, l, ht, hl, ‹_›⟩))
    · rename_i regex ignoreCase hp
      exact (meets_compileRegex ht hl hp).bind fun expression hc =>
        meets_ok (.begins he (.regex ⟨number, l, ht, hl, hp⟩ hc))
  · exact meets_error (.blames (.unexpected he))

theorem meets_keyOf {mayClose : Bool} :
    Meets (t.IsKey source.literal?) (Refuses source t ⟨frames, .key mayClose⟩) (keyOf source t) := by
  unfold keyOf
  dsimp only
  split
  · exact meets_ok (.name ‹_›)
  · rename_i number ht
    refine (meets_literal ht).bind fun l hl => ?_
    split
    · exact meets_ok (.text ⟨number, l, ht, hl, ‹_›⟩)
    · exact meets_error (.blames .invalidKey)
  · exact meets_error (.blames .invalidKey)

theorem meets_beginEntry {mayClose : Bool} :
    Meets (Advances source t ⟨frames, .key mayClose⟩) (Refuses source t ⟨frames, .key mayClose⟩)
      (beginEntry source frames t) := by
  unfold beginEntry
  refine meets_keyOf.bind fun key hkey => ?_
  split
  · split
    · exact meets_error (.blames .repeatedKey)
    · exact meets_ok (.key hkey ‹_›)
  · exact meets_ok (.looseKey hkey ‹_›)

theorem meets_closeFrame {bracket : Lexeme} (ht : t.lexeme = bracket) (he : e.ClosedBy bracket) :
    Meets (Advances source t ⟨frames, e⟩) (Refuses source t ⟨frames, e⟩) (closeFrame frames) := by
  cases frames with
  | nil => exact meets_error (.underflow rfl he)
  | cons frame outer => exact meets_ok (.closes ht he)

/-- A token is taken, or refused. -/
theorem meets_advance :
    Meets (Advances source t r) (Refuses source t r) (r.advance source t) := by
  obtain ⟨frames, expecting⟩ := r
  unfold advance
  cases expecting with
  | pattern => exact meets_beginPattern trivial
  | captures expression => exact meets_ok .captures
  | element comma =>
    dsimp only
    unfold atElement
    split
    · exact meets_closeFrame ‹_› .noElement
    · exact meets_error (.blames (.trailingComma ‹_›))
    · exact meets_ok (.bar trivial ‹_›)
    · exact meets_beginPattern trivial
  | afterElement =>
    dsimp only
    split
    · exact meets_ok (.comma ‹_›)
    · exact meets_closeFrame ‹_› .element
    · exact meets_ok (.bar trivial ‹_›)
    · exact meets_error (.blames .missingComma)
  | tailName bar =>
    dsimp only
    split
    · exact meets_ok (.tail ‹_›)
    · exact meets_error (.blames .tailWithoutName)
  | afterTail =>
    dsimp only
    split
    · exact meets_closeFrame ‹_› .tail
    · exact meets_error (.blames .tailNotLast)
  | key mayClose =>
    dsimp only
    split
    · rename_i hclose
      obtain ⟨hmay, ht⟩ := Bool.and_eq_true_iff.mp hclose
      subst hmay
      exact meets_closeFrame (eq_of_beq ht) .noEntry
    · exact meets_beginEntry
  | equals =>
    dsimp only
    split
    · exact meets_ok (.equals ‹_›)
    · exact meets_error (.blames .missingEquals)
  | afterEntry =>
    dsimp only
    split
    · exact meets_closeFrame ‹_› .entry
    · exact meets_ok (.entryComma ‹_›)
    · exact meets_error (.blames .missingEntryComma)
  | nothing result => exact meets_error (.blames .afterPattern)

theorem resolved_eq_self (h : ∀ expression, r.expecting ≠ .captures expression) : r.resolved = r := by
  unfold resolved
  split
  · exact absurd ‹_› (h _)
  · rfl

theorem expecting_complete (frames : List Frame) (p : Pattern) :
    (complete frames p).expecting = .nothing p ∨ (complete frames p).expecting = .afterElement ∨
      (complete frames p).expecting = .afterEntry := by
  unfold complete
  split
  · exact Or.inl rfl
  · exact Or.inr (Or.inl rfl)
  · exact Or.inr (Or.inr rfl)
  · exact Or.inr (Or.inr rfl)

theorem resolved_complete (frames : List Frame) (p : Pattern) :
    (complete frames p).resolved = complete frames p := by
  refine resolved_eq_self fun expression h => ?_
  rcases expecting_complete frames p with he | he | he <;> cases he.symm.trans h

theorem resolved_resolved (r : Reading) : r.resolved.resolved = r.resolved := by
  obtain ⟨frames, expecting⟩ := r
  cases expecting with
  | captures expression => exact resolved_complete frames _
  | _ => rfl

theorem expecting_ne_captures (h : r.resolved = r) (expression : Regex) :
    r.expecting ≠ .captures expression := by
  obtain ⟨frames, e⟩ := r
  rintro rfl
  have he : (complete frames (.regex expression)).expecting = .captures expression :=
    congrArg expecting h
  rcases expecting_complete frames (.regex expression) with h | h | h <;> cases h.symm.trans he

/-- Unless it opens a sequence for captures, a token is taken where no captures are expected. -/
theorem step_eq_advance
    (h : ∀ expression, r.expecting = .captures expression → t.lexeme ≠ .openBracket) :
    step source r t = r.resolved.advance source t := by
  obtain ⟨frames, expecting⟩ := r
  cases expecting with
  | captures expression => exact if_neg (h expression rfl)
  | _ => rfl

theorem step_captures {expression : Regex} (he : r.expecting = .captures expression)
    (ht : t.lexeme = .openBracket) :
    step source r t = .ok (openSequence r.frames (some expression) t.position) := by
  unfold step
  rw [he]
  exact if_pos ht

theorem meets_step :
    Meets (Steps source t r) (Refuses source t r.resolved) (step source r t) := by
  by_cases h : ∃ expression, r.expecting = .captures expression ∧ t.lexeme = .openBracket
  · obtain ⟨expression, he, ht⟩ := h
    rw [step_captures he ht]
    exact meets_ok (.captures he ht)
  · have hn : ∀ expression, r.expecting = .captures expression → t.lexeme ≠ .openBracket :=
      fun expression he ht => h ⟨expression, he, ht⟩
    rw [step_eq_advance hn]
    exact ⟨fun next hnext => .advances hn (meets_advance.of_ok next hnext), meets_advance.of_error⟩

/-- The end of the tokens is the end of a pattern, or comes too early. -/
theorem meets_settle (hr : r.resolved = r) :
    Meets (fun p => r.expecting = .nothing p)
      (fun failure => ∃ error, failure = .invalid error ∧ BreaksOff source r error)
      (r.settle source) := by
  obtain ⟨frames, expecting⟩ := r
  cases expecting with
  | nothing p => exact meets_ok rfl
  | pattern =>
    cases frames with
    | nil => exact meets_error ⟨_, rfl, .empty⟩
    | cons frame outer => exact meets_error ⟨_, rfl, .pattern⟩
  | tailName bar => exact meets_error ⟨_, rfl, .tailWithoutName⟩
  | equals => exact meets_error ⟨_, rfl, .missingEquals⟩
  | captures expression => exact absurd rfl (expecting_ne_captures hr expression)
  | _ => exact meets_error ⟨_, rfl, .unterminated trivial⟩

theorem finish_eq_settle : r.finish source = r.resolved.settle source := by
  obtain ⟨frames, expecting⟩ := r
  cases expecting <;> rfl

theorem meets_finish :
    Meets (fun p => r.resolved.expecting = .nothing p)
      (fun failure => ∃ error, failure = .invalid error ∧ BreaksOff source r.resolved error)
      (r.finish source) := by
  rw [finish_eq_settle]
  exact meets_settle (resolved_resolved r)

end Inversion

section Converse

theorem keyOf_of_isKey {key : String} (h : t.IsKey source.literal? key) :
    keyOf source t = .ok key := by
  unfold keyOf
  dsimp only
  cases h with
  | name h =>
    rw [h]
    rfl
  | text h =>
    obtain ⟨number, l, ht, hl, hp⟩ := h
    rw [ht]
    refine Run.bind_eq_ok.mpr ⟨l, literal_eq_ok.mpr hl, ?_⟩
    rw [hp]
    rfl

theorem beginPattern_of_begins (h : Begins source frames t next) :
    beginPattern source frames t = .ok next := by
  unfold beginPattern
  cases h with
  | sequence ht | mapping ht | name ht => rw [ht]
  | text h | number h =>
    obtain ⟨number, l, ht, hl, hp⟩ := h
    rw [ht]
    refine Run.bind_eq_ok.mpr ⟨l, literal_eq_ok.mpr hl, ?_⟩
    rw [hp]
    rfl
  | regex h hc =>
    obtain ⟨number, l, ht, hl, hp⟩ := h
    rw [ht]
    refine Run.bind_eq_ok.mpr ⟨l, literal_eq_ok.mpr hl, ?_⟩
    rw [hp]
    exact Run.bind_eq_ok.mpr ⟨_, compileRegex_eq_ok.mpr hc, rfl⟩

/-- A pattern begins neither with the bracket that closes a sequence nor with a bar. -/
theorem Begins.lexeme_ne (h : Begins source frames t next) :
    t.lexeme ≠ .closeBracket ∧ t.lexeme ≠ .pipe := by
  have hne {lexeme : Lexeme} (ht : t.lexeme = lexeme) (hc : lexeme ≠ .closeBracket)
      (hp : lexeme ≠ .pipe) : t.lexeme ≠ .closeBracket ∧ t.lexeme ≠ .pipe := by
    rw [ht]
    exact ⟨hc, hp⟩
  cases h with
  | sequence ht | mapping ht | name ht => exact hne ht nofun nofun
  | text h | number h | regex h hc =>
    obtain ⟨number, l, ht, -⟩ := h
    exact hne ht nofun nofun

/-- A key does not close a mapping. -/
theorem not_closes_of_isKey {mayClose : Bool} {key : String} (h : t.IsKey source.literal? key) :
    ¬ (mayClose && t.lexeme == .closeBrace) = true := by
  rw [Bool.and_eq_true, beq_iff_eq]
  rintro ⟨-, hc⟩
  cases h with
  | name h => cases h.symm.trans hc
  | text h =>
    obtain ⟨number, l, h, -⟩ := h
    cases h.symm.trans hc

/-- Every token is taken of which something can be made. -/
theorem advance_of_advances (h : Advances source t r next) : r.advance source t = .ok next := by
  unfold advance
  cases h with
  | @begins frames e next he h =>
    have hbegin := beginPattern_of_begins h
    obtain ⟨hclose, hbar⟩ := h.lexeme_ne
    cases e with
    | pattern => exact hbegin
    | element comma =>
      dsimp only
      unfold atElement
      split
      · exact absurd ‹_› hclose
      · exact absurd ‹_› hclose
      · exact absurd ‹_› hbar
      · exact hbegin
    | _ => exact he.elim
  | captures => rfl
  | comma ht | tail ht | equals ht | entryComma ht =>
    dsimp only
    rw [ht]
  | @bar frames e he ht =>
    cases e with
    | element comma =>
      dsimp only
      unfold atElement
      rw [ht]
    | afterElement =>
      dsimp only
      rw [ht]
    | _ => exact he.elim
  | closes ht he =>
    cases he with
    | noElement =>
      dsimp only
      unfold atElement
      rw [ht]
      rfl
    | _ =>
      dsimp only
      rw [ht]
      rfl
  | @key start entries pending outer mayClose key hkey hnew =>
    dsimp only
    rw [if_neg (not_closes_of_isKey hkey)]
    refine Run.bind_eq_ok.mpr ⟨key, keyOf_of_isKey hkey, ?_⟩
    dsimp only
    rw [hnew]
    rfl
  | @looseKey frames mayClose key hkey hf =>
    dsimp only
    rw [if_neg (not_closes_of_isKey hkey)]
    refine Run.bind_eq_ok.mpr ⟨key, keyOf_of_isKey hkey, ?_⟩
    split
    · exact absurd rfl (hf _ _ _ _)
    · rfl

theorem advance_eq_ok : r.advance source t = .ok next ↔ Advances source t r next :=
  ⟨meets_advance.of_ok next, advance_of_advances⟩

theorem step_eq_ok : step source r t = .ok next ↔ Steps source t r next := by
  refine ⟨meets_step.of_ok next, fun h => ?_⟩
  cases h with
  | captures he ht => exact step_captures he ht
  | advances hn h => exact (step_eq_advance hn).trans (advance_of_advances h)

end Converse

end Reading

end Destructure
