import Destructure.Proofs.Pattern.Language

namespace Destructure

def Regex.IsRead (P : Payload → Prop) (r : Regex) : Prop :=
  Regex.compile r.source r.ignoreCase = .ok r ∧ P (.regex r.source.toList r.ignoreCase)

theorem Regex.fields_of_compile {source : String} {ignoreCase : Bool} {r : Regex}
    (h : Regex.compile source ignoreCase = .ok r) : r.source = source ∧ r.ignoreCase = ignoreCase := by
  unfold compile at h
  obtain ⟨expression, -, h⟩ := Run.bind_eq_ok.mp h
  obtain ⟨plan, -, h⟩ := Run.bind_eq_ok.mp h
  dsimp only at h
  split at h
  · cases h
  · cases h
    exact ⟨rfl, rfl⟩

namespace Pattern

def IsTail (p : Pattern) : Prop :=
  ∃ name, Text.isName name.toList = true ∧ p = .variable name true

variable (P : Payload → Prop)

mutual

def IsRead : Pattern → Prop
  | .text value => P (.text value.toList)
  | .number value => P (.number value)
  | .regex expression => expression.IsRead P
  | .variable name isTail => Text.isName name.toList = true ∧ isTail = false
  | .sequence elements => ElementsRead elements
  | .mapping entries => (entries.map Prod.fst).Nodup ∧ EntriesRead entries
  | .groups expression elements => expression.IsRead P ∧ ElementsRead elements
  | .foreign _ => False

def ElementsRead : List Pattern → Prop
  | [] => True
  | element :: rest => (element.IsRead ∨ rest = [] ∧ element.IsTail) ∧ ElementsRead rest

def EntriesRead : List (String × Pattern) → Prop
  | [] => True
  | (_, pattern) :: rest => pattern.IsRead ∧ EntriesRead rest

end

variable {P}

theorem elementsRead_append {elements last : List Pattern} (h : ∀ p ∈ elements, p.IsRead P)
    (hl : ElementsRead P last) : ElementsRead P (elements ++ last) := by
  induction elements with
  | nil => exact hl
  | cons p rest ih =>
    obtain ⟨hp, h⟩ := List.forall_mem_cons.mp h
    exact ⟨Or.inl hp, ih h⟩

theorem entriesRead_iff {entries : List (String × Pattern)} :
    EntriesRead P entries ↔ ∀ entry ∈ entries, entry.2.IsRead P := by
  induction entries with
  | nil => simp [EntriesRead]
  | cons entry rest ih =>
    obtain ⟨key, p⟩ := entry
    rw [List.forall_mem_cons, ← ih]
    rfl

end Pattern

/-- A regular expression that has been read from a literal. -/
theorem Regex.isRead_of_compile {P : Payload → Prop} {regex : List Char} {ignoreCase : Bool}
    {r : Regex} (hp : P (.regex regex ignoreCase))
    (hc : Regex.compile (String.ofList regex) ignoreCase = .ok r) : r.IsRead P := by
  obtain ⟨hs, hi⟩ := Regex.fields_of_compile hc
  refine ⟨by rw [hs, hi]; exact hc, ?_⟩
  rwa [hs, hi, String.toList_ofList]

theorem Token.Carries.of_literals {P : Payload → Prop} {literal? : Nat → Option Literal} {t : Token}
    {payload : Payload} (hl : ∀ number l, literal? number = some l → P l.payload)
    (h : t.Carries literal? payload) : P payload := by
  obtain ⟨number, l, -, hsome, rfl⟩ := h
  exact hl number l hsome

def Token.Named (tokens : List Token) : Prop :=
  ∀ t ∈ tokens, ∀ name, t.lexeme = .name name → Text.isName name.toList = true

theorem Token.Named.of_isSuffix {tokens rest : List Token} (h : Token.Named tokens)
    (hs : rest <:+ tokens) : Token.Named rest :=
  fun t hm => h t (hs.subset hm)

theorem Token.Named.tail {t : Token} {rest : List Token} (h : Token.Named (t :: rest)) :
    Token.Named rest :=
  h.of_isSuffix (List.suffix_cons ..)

section Derivation

variable {P : Payload → Prop} {literal? : Nat → Option Literal}

/-- A tail that has been derived. -/
theorem DerivesTail.isTail {name : String} {tokens rest : List Token}
    (h : DerivesTail name tokens rest) (hn : Token.Named tokens) :
    (Pattern.variable name true).IsTail := by
  obtain ⟨-, hname, -⟩ := h
  exact ⟨name, hn.tail _ (List.mem_cons_self ..) name hname, rfl⟩

mutual

/-- What is known of literals and names is known of the pattern that is derived from them. -/
theorem Derives.isRead {p : Pattern} {tokens rest : List Token} (h : Derives literal? p tokens rest)
    (hl : ∀ number l, literal? number = some l → P l.payload) (hn : Token.Named tokens) :
    p.IsRead P := by
  match h with
  | .variable h => exact ⟨hn _ (List.mem_cons_self ..) _ h, rfl⟩
  | .text h =>
    rw [Pattern.IsRead, String.toList_ofList]
    exact h.of_literals hl
  | .number h => exact h.of_literals hl
  | .regex h hc _ => exact Regex.isRead_of_compile (h.of_literals hl) hc
  | .groups h hc hs =>
    exact ⟨Regex.isRead_of_compile (h.of_literals hl) hc, hs.elementsRead hl hn.tail⟩
  | .sequence hs => exact hs.elementsRead hl hn
  | .emptyMapping _ _ => exact ⟨List.nodup_nil, trivial⟩
  | .mapping _ he hk => exact ⟨hk, he.entriesRead hl hn.tail⟩

theorem DerivesSequence.elementsRead {elements : List Pattern} {tokens rest : List Token}
    (h : DerivesSequence literal? elements tokens rest)
    (hl : ∀ number l, literal? number = some l → P l.payload) (hn : Token.Named tokens) :
    Pattern.ElementsRead P elements := by
  match h with
  | .empty _ _ => trivial
  | .onlyTail _ ht => exact ⟨Or.inr ⟨rfl, ht.isTail hn.tail⟩, trivial⟩
  | .elements _ he => exact he.elementsRead hl hn.tail

theorem DerivesElements.elementsRead {elements : List Pattern} {tokens rest : List Token}
    (h : DerivesElements literal? elements tokens rest)
    (hl : ∀ number l, literal? number = some l → P l.payload) (hn : Token.Named tokens) :
    Pattern.ElementsRead P elements := by
  match h with
  | .last hp _ => exact ⟨Or.inl (hp.isRead hl hn), trivial⟩
  | .tail hp ht =>
    have hbehind := hn.of_isSuffix hp.isSuffix
    exact ⟨Or.inl (hp.isRead hl hn), Or.inr ⟨rfl, ht.isTail hbehind⟩, trivial⟩
  | .commaTail hp _ ht =>
    have hbehind := (hn.of_isSuffix hp.isSuffix).tail
    exact ⟨Or.inl (hp.isRead hl hn), Or.inr ⟨rfl, ht.isTail hbehind⟩, trivial⟩
  | .more hp _ he =>
    have hbehind := (hn.of_isSuffix hp.isSuffix).tail
    exact ⟨Or.inl (hp.isRead hl hn), he.elementsRead hl hbehind⟩

theorem DerivesEntries.entriesRead {entries : List (String × Pattern)} {tokens rest : List Token}
    (h : DerivesEntries literal? entries tokens rest)
    (hl : ∀ number l, literal? number = some l → P l.payload) (hn : Token.Named tokens) :
    Pattern.EntriesRead P entries := by
  match h with
  | .last _ _ hp _ => exact ⟨hp.isRead hl hn.tail.tail, trivial⟩
  | .more _ _ hp _ he =>
    have hbehind := (hn.tail.tail.of_isSuffix hp.isSuffix).tail
    exact ⟨hp.isRead hl hn.tail.tail, he.entriesRead hl hbehind⟩

end

end Derivation

/-- What is known of literals and names is known of the pattern that is read from them. -/
theorem Pattern.isRead_ofTokens {P : Payload → Prop} {source : Reading.Source} {tokens : List Token}
    {p : Pattern} (hl : ∀ number l, source.literal? number = some l → P l.payload)
    (ht : ∀ t ∈ tokens, ∀ name, t.lexeme = .name name → Text.isName name.toList = true)
    (h : Pattern.ofTokens source tokens = .ok p) : p.IsRead P :=
  (Reading.ofTokens_eq_ok.mp h).isRead hl ht

end Destructure
