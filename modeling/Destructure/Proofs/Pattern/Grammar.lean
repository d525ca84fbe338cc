import Mathlib.Data.List.Nodup
import Destructure.Proofs.Pattern.Step

namespace Destructure

section Grammar

variable (literal? : Nat → Option Literal)

inductive DerivesTail : String → List Token → List Token → Prop
  | tail {bar name close : Token} {text : String} {rest : List Token} (hb : bar.lexeme = .pipe)
      (hn : name.lexeme = .name text) (hc : close.lexeme = .closeBracket) :
      DerivesTail text (bar :: name :: close :: rest) rest

mutual

inductive Derives : Pattern → List Token → List Token → Prop
  | «variable» {t : Token} {name : String} {rest : List Token} (h : t.lexeme = .name name) :
      Derives (.variable name false) (t :: rest) rest
  | text {t : Token} {value : List Char} {rest : List Token}
      (h : t.Carries literal? (.text value)) :
      Derives (.text (String.ofList value)) (t :: rest) rest
  | number {t : Token} {value : Number} {rest : List Token}
      (h : t.Carries literal? (.number value)) : Derives (.number value) (t :: rest) rest
  | regex {t : Token} {source : List Char} {ignoreCase : Bool} {expression : Regex}
      {rest : List Token} (h : t.Carries literal? (.regex source ignoreCase))
      (hc : Regex.compile (String.ofList source) ignoreCase = .ok expression)
      (hnext : ∀ next ∈ rest.head?, next.lexeme ≠ .openBracket) :
      Derives (.regex expression) (t :: rest) rest
  | groups {t : Token} {source : List Char} {ignoreCase : Bool} {expression : Regex}
      {elements : List Pattern} {tokens rest : List Token}
      (h : t.Carries literal? (.regex source ignoreCase))
      (hc : Regex.compile (String.ofList source) ignoreCase = .ok expression)
      (hs : DerivesSequence elements tokens rest) :
      Derives (.groups expression elements) (t :: tokens) rest
  | sequence {elements : List Pattern} {tokens rest : List Token}
      (hs : DerivesSequence elements tokens rest) : Derives (.sequence elements) tokens rest
  | emptyMapping {o c : Token} {rest : List Token} (ho : o.lexeme = .openBrace)
      (hc : c.lexeme = .closeBrace) : Derives (.mapping []) (o :: c :: rest) rest
  | mapping {o : Token} {entries : List (String × Pattern)} {tokens rest : List Token}
      (ho : o.lexeme = .openBrace) (he : DerivesEntries entries tokens rest)
      (hk : (entries.map Prod.fst).Nodup) : Derives (.mapping entries) (o :: tokens) rest

inductive DerivesSequence : List Pattern → List Token → List Token → Prop
  | empty {o c : Token} {rest : List Token} (ho : o.lexeme = .openBracket)
      (hc : c.lexeme = .closeBracket) : DerivesSequence [] (o :: c :: rest) rest
  | onlyTail {o : Token} {name : String} {tokens rest : List Token}
      (ho : o.lexeme = .openBracket) (ht : DerivesTail name tokens rest) :
      DerivesSequence [.variable name true] (o :: tokens) rest
  | elements {o : Token} {elements : List Pattern} {tokens rest : List Token}
      (ho : o.lexeme = .openBracket) (he : DerivesElements elements tokens rest) :
      DerivesSequence elements (o :: tokens) rest

inductive DerivesElements : List Pattern → List Token → List Token → Prop
  | last {p : Pattern} {c : Token} {tokens rest : List Token} (hp : Derives p tokens (c :: rest))
      (hc : c.lexeme = .closeBracket) : DerivesElements [p] tokens rest
  | tail {p : Pattern} {name : String} {tokens between rest : List Token}
      (hp : Derives p tokens between) (ht : DerivesTail name between rest) :
      DerivesElements [p, .variable name true] tokens rest
  | commaTail {p : Pattern} {name : String} {c : Token} {tokens between rest : List Token}
      (hp : Derives p tokens (c :: between)) (hc : c.lexeme = .comma)
      (ht : DerivesTail name between rest) : DerivesElements [p, .variable name true] tokens rest
  | more {p : Pattern} {elements : List Pattern} {c : Token} {tokens between rest : List Token}
      (hp : Derives p tokens (c :: between)) (hc : c.lexeme = .comma)
      (he : DerivesElements elements between rest) : DerivesElements (p :: elements) tokens rest

inductive DerivesEntries : List (String × Pattern) → List Token → List Token → Prop
  | last {k e c : Token} {key : String} {p : Pattern} {tokens rest : List Token}
      (hk : k.IsKey literal? key) (he : e.lexeme = .equals) (hp : Derives p tokens (c :: rest))
      (hc : c.lexeme = .closeBrace) : DerivesEntries [(key, p)] (k :: e :: tokens) rest
  | more {k e c : Token} {key : String} {p : Pattern} {entries : List (String × Pattern)}
      {tokens between rest : List Token} (hk : k.IsKey literal? key) (he : e.lexeme = .equals)
      (hp : Derives p tokens (c :: between)) (hc : c.lexeme = .comma)
      (hm : DerivesEntries entries between rest) :
      DerivesEntries ((key, p) :: entries) (k :: e :: tokens) rest

end

end Grammar

section Suffix

variable {literal? : Nat → Option Literal}

/-- What comes behind a tail stands at the end of the tokens. -/
theorem DerivesTail.isSuffix {name : String} {tokens rest : List Token}
    (h : DerivesTail name tokens rest) : rest <:+ tokens := by
  obtain ⟨-, -, -⟩ := h
  exact ⟨[_, _, _], rfl⟩

mutual

/-- What comes behind a pattern stands at the end of the tokens. -/
theorem Derives.isSuffix {p : Pattern} {tokens rest : List Token}
    (h : Derives literal? p tokens rest) : rest <:+ tokens := by
  match h with
  | .variable _ | .text _ | .number _ | .regex _ _ _ => exact List.suffix_cons ..
  | .groups _ _ hs => exact hs.isSuffix.trans (List.suffix_cons ..)
  | .sequence hs => exact hs.isSuffix
  | .emptyMapping _ _ => exact ⟨[_, _], rfl⟩
  | .mapping _ he _ => exact he.isSuffix.trans (List.suffix_cons ..)

theorem DerivesSequence.isSuffix {elements : List Pattern} {tokens rest : List Token}
    (h : DerivesSequence literal? elements tokens rest) : rest <:+ tokens := by
  match h with
  | .empty _ _ => exact ⟨[_, _], rfl⟩
  | .onlyTail _ ht => exact ht.isSuffix.trans (List.suffix_cons ..)
  | .elements _ he => exact he.isSuffix.trans (List.suffix_cons ..)

theorem DerivesElements.isSuffix {elements : List Pattern} {tokens rest : List Token}
    (h : DerivesElements literal? elements tokens rest) : rest <:+ tokens := by
  match h with
  | .last hp _ => exact (List.suffix_cons ..).trans hp.isSuffix
  | .tail hp ht => exact ht.isSuffix.trans hp.isSuffix
  | .commaTail hp _ ht => exact (ht.isSuffix.trans (List.suffix_cons ..)).trans hp.isSuffix
  | .more hp _ he => exact (he.isSuffix.trans (List.suffix_cons ..)).trans hp.isSuffix

theorem DerivesEntries.isSuffix {entries : List (String × Pattern)} {tokens rest : List Token}
    (h : DerivesEntries literal? entries tokens rest) : rest <:+ tokens := by
  match h with
  | .last _ _ hp _ => exact ((List.suffix_cons ..).trans hp.isSuffix).trans ⟨[_, _], rfl⟩
  | .more _ _ hp _ he =>
    exact ((he.isSuffix.trans (List.suffix_cons ..)).trans hp.isSuffix).trans ⟨[_, _], rfl⟩

end

end Suffix

namespace Reading

def settled (frames : List Frame) : Pattern → Reading
  | .regex expression => ⟨frames, .captures expression⟩
  | p => complete frames p

def enclosed (captured : Option Regex) (elements : List Pattern) : Pattern :=
  match captured with
  | none => .sequence elements
  | some expression => .groups expression elements

def entriesOf (entries : List (String × Int × Pattern)) : List (String × Pattern) :=
  entries.reverse.map fun (key, _, p) => (key, p)

def run (source : Source) (r : Reading) (tokens : List Token) : Except Failure Pattern :=
  tokens.foldlM (step source) r >>= fun r => r.finish source

variable {source : Source} {r next : Reading} {frames outer : List Frame} {t : Token}
  {tokens rest between : List Token} {p q : Pattern}

theorem run_cons (h : step source r t = .ok next) :
    run source r (t :: tokens) = run source next tokens := by
  rw [run, Run.foldlM_cons_of_ok h]
  rfl

theorem run_cons_eq_ok :
    run source r (t :: tokens) = .ok q ↔
      ∃ next, step source r t = .ok next ∧ run source next tokens = .ok q := by
  cases h : step source r t with
  | ok next =>
    rw [run_cons h]
    simp
  | error failure =>
    rw [run, List.foldlM_cons, h]
    constructor
    · intro h
      nomatch h
    · rintro ⟨next, hnext, -⟩
      nomatch hnext

def Ends (p : Pattern) (t : Token) : Prop :=
  ∀ expression, p = .regex expression → t.lexeme ≠ .openBracket

theorem ends_of_ne (ht : t.lexeme ≠ .openBracket) : Ends p t :=
  fun _ _ => ht

theorem resolved_settled (frames : List Frame) (p : Pattern) :
    (settled frames p).resolved = complete frames p := by
  cases p with
  | regex expression => rfl
  | _ => exact resolved_complete frames _

/-- What follows a pattern is taken once the pattern is complete. -/
theorem step_settled_eq_ok (ht : Ends p t) :
    step source (settled frames p) t = .ok next ↔ Advances source t (complete frames p) next := by
  have hn : ∀ expression, (settled frames p).expecting = .captures expression →
      t.lexeme ≠ .openBracket := by
    intro expression he
    cases p with
    | regex found => exact ht found rfl
    | _ => rcases expecting_complete frames _ with h | h | h <;> cases h.symm.trans he
  rw [step_eq_advance hn, resolved_settled, advance_eq_ok]

theorem run_settled (ht : Ends p t) (h : Advances source t (complete frames p) next) :
    run source (settled frames p) (t :: rest) = run source next rest :=
  run_cons ((step_settled_eq_ok ht).mpr h)

theorem finish_settled (p : Pattern) : (settled [] p).finish source = .ok p := by
  cases p <;> rfl

/-- A token is taken as it is where no captures are expected. -/
theorem step_resolved_eq_ok (hr : r.resolved = r) :
    step source r t = .ok next ↔ Advances source t r next := by
  rw [step_eq_advance fun expression he => absurd he (expecting_ne_captures hr expression), hr,
    advance_eq_ok]

theorem run_advances (h : Advances source t r next) (hr : r.resolved = r) :
    run source r (t :: rest) = run source next rest :=
  run_cons ((step_resolved_eq_ok hr).mpr h)

/-- A pattern may begin wherever one is admitted. -/
theorem step_begins {e : Expecting} (he : e.Admits) (h : Begins source frames t next) :
    step source ⟨frames, e⟩ t = .ok next := by
  refine (step_resolved_eq_ok (resolved_eq_self ?_)).mpr (.begins he h)
  rintro expression rfl
  exact he

theorem run_begins {e : Expecting} (he : e.Admits) (h : Begins source frames t next) :
    run source ⟨frames, e⟩ (t :: rest) = run source next rest :=
  run_cons (step_begins he h)

theorem run_bar {e : Expecting} (he : e.AdmitsBar) (ht : t.lexeme = .pipe)
    (hr : resolved ⟨frames, e⟩ = ⟨frames, e⟩) :
    run source ⟨frames, e⟩ (t :: rest) = run source ⟨frames, .tailName t.position⟩ rest :=
  run_advances (.bar he ht) hr

theorem close_sequence (start : Int) (captured : Option Regex) (before : List Pattern) :
    close (.sequence start captured before) outer =
      complete outer (enclosed captured before.reverse) := by
  cases captured <;> rfl

section Sequence

variable {start : Int} {captured : Option Regex} {before : List Pattern}

/-- A tail, from behind its bar to the closing bracket. -/
theorem run_tail {name close : Token} {text : String} {bar : Int} (hn : name.lexeme = .name text)
    (hc : close.lexeme = .closeBracket) :
    run source ⟨.sequence start captured before :: outer, .tailName bar⟩ (name :: close :: rest) =
      run source (complete outer (enclosed captured (before.reverse ++ [.variable text true])))
        rest := by
  have htail : (complete (.sequence start captured before :: outer) (.variable text true)).frames =
      .sequence start captured (.variable text true :: before) :: outer := rfl
  rw [run_advances (.tail hn) rfl, htail, run_advances (.closes hc .tail) rfl, close_sequence,
    List.reverse_cons]

theorem run_closeBracket (ht : t.lexeme = .closeBracket) :
    run source (settled (.sequence start captured before :: outer) p) (t :: rest) =
      run source (complete outer (enclosed captured (before.reverse ++ [p]))) rest := by
  have hclose : Advances source t (complete (.sequence start captured before :: outer) p)
      (close (.sequence start captured (p :: before)) outer) := .closes ht .element
  rw [run_settled (ends_of_ne (by rw [ht]; decide)) hclose, close_sequence, List.reverse_cons]

theorem run_comma (ht : t.lexeme = .comma) :
    run source (settled (.sequence start captured before :: outer) p) (t :: rest) =
      run source ⟨.sequence start captured (p :: before) :: outer, .element (some t.position)⟩
        rest :=
  run_settled (ends_of_ne (by rw [ht]; decide)) (.comma ht)

theorem run_pipe (ht : t.lexeme = .pipe) :
    run source (settled (.sequence start captured before :: outer) p) (t :: rest) =
      run source ⟨.sequence start captured (p :: before) :: outer, .tailName t.position⟩ rest :=
  run_settled (ends_of_ne (by rw [ht]; decide)) (.bar (e := .afterElement) trivial ht)

end Sequence

section Mapping

variable {start : Int} {before : List (String × Int × Pattern)} {key : String} {position : Int}

theorem entriesOf_cons (key : String) (position : Int) (p : Pattern)
    (before : List (String × Int × Pattern)) :
    entriesOf ((key, position, p) :: before) = entriesOf before ++ [(key, p)] := by
  rw [entriesOf, List.reverse_cons, List.map_append]
  rfl

theorem run_closeBrace (ht : t.lexeme = .closeBrace) :
    run source (settled (.mapping start before (some (key, position)) :: outer) p) (t :: rest) =
      run source (complete outer (.mapping (entriesOf before ++ [(key, p)]))) rest := by
  have hclose : Advances source t
      (complete (.mapping start before (some (key, position)) :: outer) p)
      (close (.mapping start ((key, position, p) :: before) none) outer) :=
    .closes ht .entry
  rw [run_settled (ends_of_ne (by rw [ht]; decide)) hclose, ← entriesOf_cons key position]
  rfl

theorem run_entryComma (ht : t.lexeme = .comma) :
    run source (settled (.mapping start before (some (key, position)) :: outer) p) (t :: rest) =
      run source ⟨.mapping start ((key, position, p) :: before) none :: outer, .key false⟩ rest :=
  run_settled (ends_of_ne (by rw [ht]; decide)) (.entryComma ht)

theorem lookup_eq_none_iff :
    before.lookup key = none ↔ key ∉ (entriesOf before).map Prod.fst := by
  have hnames : (entriesOf before).map Prod.fst = (before.map Prod.fst).reverse := by
    rw [entriesOf, List.map_map, List.map_reverse]
    rfl
  rw [hnames, List.mem_reverse, List.mem_map, List.lookup_eq_none_iff]
  constructor
  · rintro h ⟨entry, hm, rfl⟩
    exact bne_iff_ne.mp (h entry hm) rfl
  · intro h entry hm
    exact bne_iff_ne.mpr fun he => h ⟨entry, hm, he.symm⟩

theorem notMem_of_nodup {done more : List (String × Pattern)}
    (h : ((done ++ (key, p) :: more).map Prod.fst).Nodup) : key ∉ done.map Prod.fst := by
  rw [List.map_append, List.nodup_append] at h
  exact fun hm => h.2.2 key hm key (List.mem_cons_self ..) rfl

/-- A new key and its equals sign. -/
theorem run_key {k e : Token} {mayClose : Bool} (hk : k.IsKey source.literal? key)
    (hnew : key ∉ (entriesOf before).map Prod.fst) (he : e.lexeme = .equals) :
    run source ⟨.mapping start before none :: outer, .key mayClose⟩ (k :: e :: rest) =
      run source ⟨.mapping start before (some (key, k.position)) :: outer, .pattern⟩ rest := by
  rw [run_advances (.key hk (lookup_eq_none_iff.mpr hnew)) rfl, run_advances (.equals he) rfl]

end Mapping

mutual

/-- The tokens of a pattern lead to the state behind it. -/
theorem run_derives {frames : List Frame} {e : Expecting} {p : Pattern} {tokens rest : List Token}
    (he : e.Admits) (h : Derives source.literal? p tokens rest) :
    run source ⟨frames, e⟩ tokens = run source (settled frames p) rest := by
  match h with
  | .variable h => exact run_begins he (.name h)
  | .text h => exact run_begins he (.text h)
  | .number h => exact run_begins he (.number h)
  | .regex h hc hnext => exact run_begins he (.regex h hc)
  | .groups h hc hs =>
    rw [run_begins he (.regex h hc)]
    exact run_derivesSequence (some _) (fun o ho => step_captures rfl ho) hs
  | .sequence hs => exact run_derivesSequence none (fun o ho => step_begins he (.sequence ho)) hs
  | .emptyMapping ho hc =>
    rw [run_begins he (.mapping ho), run_advances (.closes hc .noEntry) rfl]
    rfl
  | .mapping ho hentries hk =>
    rw [run_begins he (.mapping ho)]
    exact run_derivesEntries [] hk hentries

/-- The tokens of a sequence lead to the state behind it, whatever opens it. -/
theorem run_derivesSequence {r : Reading} {frames : List Frame} {elements : List Pattern}
    {tokens rest : List Token} (captured : Option Regex)
    (hopen : ∀ o : Token, o.lexeme = .openBracket →
      step source r o = .ok (openSequence frames captured o.position))
    (h : DerivesSequence source.literal? elements tokens rest) :
    run source r tokens = run source (complete frames (enclosed captured elements)) rest := by
  match h with
  | .empty ho hc =>
    rw [run_cons (hopen _ ho), openSequence, run_advances (.closes hc .noElement) rfl,
      close_sequence]
    rfl
  | .onlyTail ho (.tail hb hn hc) =>
    rw [run_cons (hopen _ ho)]
    exact (run_bar (e := .element none) trivial hb rfl).trans (run_tail hn hc)
  | .elements ho he =>
    rw [run_cons (hopen _ ho)]
    exact run_derivesElements (e := .element none) [] trivial he

/-- The tokens of elements lead to the state behind the sequence. -/
theorem run_derivesElements {e : Expecting} {start : Int} {captured : Option Regex}
    {outer : List Frame} {elements : List Pattern} {tokens rest : List Token}
    (before : List Pattern) (he : e.Admits)
    (h : DerivesElements source.literal? elements tokens rest) :
    run source ⟨.sequence start captured before :: outer, e⟩ tokens =
      run source (complete outer (enclosed captured (before.reverse ++ elements))) rest := by
  match h with
  -- the frame holds the elements in reverse, hence the rewriting at the end of the other cases
  | .last hp hc => rw [run_derives he hp, run_closeBracket hc]
  | .tail hp (.tail hb hn hc) =>
    rw [run_derives he hp, run_pipe hb, run_tail hn hc, List.reverse_cons, List.append_assoc]
    rfl
  | .commaTail hp hc (.tail hb hn hclose) =>
    rw [run_derives he hp, run_comma hc, run_bar (e := .element _) trivial hb rfl,
      run_tail hn hclose,
      List.reverse_cons, List.append_assoc]
    rfl
  | .more hp hc hm =>
    rw [run_derives he hp, run_comma hc,
      run_derivesElements (e := .element _) (_ :: before) trivial hm,
      List.reverse_cons, List.append_assoc]
    rfl

/-- The tokens of entries lead to the state behind the mapping. -/
theorem run_derivesEntries {mayClose : Bool} {start : Int} {outer : List Frame}
    {entries : List (String × Pattern)} {tokens rest : List Token}
    (before : List (String × Int × Pattern))
    (hk : ((entriesOf before ++ entries).map Prod.fst).Nodup)
    (h : DerivesEntries source.literal? entries tokens rest) :
    run source ⟨.mapping start before none :: outer, .key mayClose⟩ tokens =
      run source (complete outer (.mapping (entriesOf before ++ entries))) rest := by
  match h with
  | .last hkey he hp hc =>
    rw [run_key hkey (notMem_of_nodup hk) he, run_derives (e := .pattern) trivial hp,
      run_closeBrace hc]
  | @DerivesEntries.more _ k _ _ _ p _ _ _ _ hkey he hp hc hm =>
    rw [run_key hkey (notMem_of_nodup hk) he, run_derives (e := .pattern) trivial hp,
      run_entryComma hc]
    rw [List.append_cons, ← entriesOf_cons _ k.position p before] at hk ⊢
    exact run_derivesEntries _ hk hm

end

end Reading

end Destructure
