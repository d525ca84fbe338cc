import Mathlib.Data.List.Chain
import Destructure.Proofs.Pattern.Grammar

namespace Destructure

def Lexeme.IsMark : Lexeme → Prop
  | .name _ | .literal _ => False
  | _ => True

def Token.AreApart (tokens : List Token) : Prop :=
  tokens.IsChain fun t next => t.lexeme.IsMark ∨ next.lexeme.IsMark

def Token.FollowApart (tokens : List Token) : Prop :=
  AreApart tokens ∧ ∀ t ∈ tokens.head?, t.lexeme.IsMark

section Apart

open Token (AreApart FollowApart)

variable {literal? : Nat → Option Literal}

theorem Token.AreApart.mark {t : Token} {lexeme : Lexeme} {rest : List Token} (h : AreApart rest)
    (ht : t.lexeme = lexeme) (hm : lexeme.IsMark) : FollowApart (t :: rest) := by
  subst ht
  refine ⟨List.isChain_cons.mpr ⟨fun _ _ => Or.inl hm, h⟩, ?_⟩
  rintro _ ⟨⟩
  exact hm

theorem Token.FollowApart.cons {rest : List Token} (h : FollowApart rest) (t : Token) :
    AreApart (t :: rest) :=
  List.isChain_cons.mpr ⟨fun next hnext => Or.inr (h.2 next hnext), h.1⟩

/-- What comes behind a name or a literal. -/
theorem Token.AreApart.followApart {t : Token} {rest : List Token} (h : AreApart (t :: rest))
    (ht : ¬ t.lexeme.IsMark) : FollowApart rest := by
  obtain ⟨hnext, hrest⟩ := List.isChain_cons.mp h
  exact ⟨hrest, fun next hm => (hnext next hm).resolve_left ht⟩

theorem DerivesTail.followApart {name : String} {tokens rest : List Token}
    (h : DerivesTail name tokens rest) (hr : AreApart rest) : FollowApart tokens := by
  cases h with
  | tail hb hn hc => exact ((hr.mark hc trivial).cons _).mark hb trivial

mutual

/-- What may follow a name may follow a pattern. -/
theorem Derives.areApart {p : Pattern} {tokens rest : List Token}
    (h : Derives literal? p tokens rest) (hr : FollowApart rest) : AreApart tokens := by
  match h with
  | .variable _ | .text _ | .number _ | .regex _ _ _ => exact hr.cons _
  | .groups _ _ hs => exact (hs.followApart hr.1).cons _
  | .sequence hs => exact (hs.followApart hr.1).1
  | .emptyMapping ho hc => exact ((hr.1.mark hc trivial).1.mark ho trivial).1
  | .mapping ho he _ => exact ((he.areApart hr.1).mark ho trivial).1

/-- Anything may follow a sequence. -/
theorem DerivesSequence.followApart {elements : List Pattern} {tokens rest : List Token}
    (h : DerivesSequence literal? elements tokens rest) (hr : AreApart rest) :
    FollowApart tokens := by
  match h with
  | .empty ho hc => exact (hr.mark hc trivial).1.mark ho trivial
  | .onlyTail ho ht => exact (ht.followApart hr).1.mark ho trivial
  | .elements ho he => exact (he.areApart hr).mark ho trivial

theorem DerivesElements.areApart {elements : List Pattern} {tokens rest : List Token}
    (h : DerivesElements literal? elements tokens rest) (hr : AreApart rest) : AreApart tokens := by
  match h with
  | .last hp hc => exact hp.areApart (hr.mark hc trivial)
  | .tail hp ht => exact hp.areApart (ht.followApart hr)
  | .commaTail hp hc ht => exact hp.areApart ((ht.followApart hr).1.mark hc trivial)
  | .more hp hc he => exact hp.areApart ((he.areApart hr).mark hc trivial)

theorem DerivesEntries.areApart {entries : List (String × Pattern)} {tokens rest : List Token}
    (h : DerivesEntries literal? entries tokens rest) (hr : AreApart rest) : AreApart tokens := by
  match h with
  | .last _ he hp hc => exact ((hp.areApart (hr.mark hc trivial)).mark he trivial).cons _
  | .more _ he hp hc hm =>
    exact ((hp.areApart ((hm.areApart hr).mark hc trivial)).mark he trivial).cons _

end

end Apart

section Alike

variable {literal? other? : Nat → Option Literal}

def Token.Alike (tokens others : List Token) : Prop :=
  others.map Token.lexeme = tokens.map Token.lexeme

def SamePayloads (literal? other? : Nat → Option Literal) : Prop :=
  ∀ number, (other? number).map Literal.payload = (literal? number).map Literal.payload

open Token (Alike)

theorem Token.Alike.exists_cons {t : Token} {rest others : List Token} (h : Alike (t :: rest) others) :
    ∃ u more, others = u :: more ∧ u.lexeme = t.lexeme ∧ Alike rest more :=
  List.map_eq_cons_iff.mp h

theorem Token.Alike.cons {t u : Token} {rest more : List Token} (h : Alike rest more)
    (hu : u.lexeme = t.lexeme) : Alike (t :: rest) (u :: more) :=
  congrArg₂ List.cons hu h

theorem Token.Carries.samePayloads {t u : Token} {payload : Payload} (h : t.Carries literal? payload)
    (hl : SamePayloads literal? other?) (hu : u.lexeme = t.lexeme) : u.Carries other? payload := by
  obtain ⟨number, l, ht, hfound, rfl⟩ := h
  have hother := hl number
  rw [hfound] at hother
  obtain ⟨other, hother, hpayload⟩ := Option.map_eq_some_iff.mp hother
  exact ⟨number, other, hu.trans ht, hother, hpayload⟩

theorem Token.IsKey.samePayloads {t u : Token} {key : String} (h : t.IsKey literal? key)
    (hl : SamePayloads literal? other?) (hu : u.lexeme = t.lexeme) : u.IsKey other? key := by
  cases h with
  | name h => exact .name (hu.trans h)
  | text h => exact .text (h.samePayloads hl hu)

theorem DerivesTail.alike {name : String} {tokens rest others : List Token}
    (h : DerivesTail name tokens rest) (ha : Alike tokens others) :
    ∃ more, DerivesTail name others more ∧ Alike rest more := by
  cases h with
  | tail hb hn hc =>
    obtain ⟨bar, _, rfl, hbar, ha⟩ := ha.exists_cons
    obtain ⟨named, _, rfl, hnamed, ha⟩ := ha.exists_cons
    obtain ⟨close, more, rfl, hclose, ha⟩ := ha.exists_cons
    exact ⟨more, .tail (hbar.trans hb) (hnamed.trans hn) (hclose.trans hc), ha⟩

mutual

/-- The same pattern is derived from tokens of the same kinds. -/
theorem Derives.alike {p : Pattern} {tokens rest others : List Token}
    (h : Derives literal? p tokens rest) (hl : SamePayloads literal? other?)
    (ha : Alike tokens others) :
    ∃ more, Derives other? p others more ∧ Alike rest more := by
  match h with
  | .variable h =>
    obtain ⟨u, more, rfl, hu, ha⟩ := ha.exists_cons
    exact ⟨more, .variable (hu.trans h), ha⟩
  | .text h =>
    obtain ⟨u, more, rfl, hu, ha⟩ := ha.exists_cons
    exact ⟨more, .text (h.samePayloads hl hu), ha⟩
  | .number h =>
    obtain ⟨u, more, rfl, hu, ha⟩ := ha.exists_cons
    exact ⟨more, .number (h.samePayloads hl hu), ha⟩
  | .regex h hc hnext =>
    obtain ⟨u, more, rfl, hu, ha⟩ := ha.exists_cons
    refine ⟨more, .regex (h.samePayloads hl hu) hc ?_, ha⟩
    intro next hmore
    obtain ⟨after, rfl⟩ := List.head?_eq_some_iff.mp hmore
    obtain ⟨first, _, rfl, hfirst, -⟩ := List.map_eq_cons_iff.mp ha.symm
    exact hfirst ▸ hnext first rfl
  | .groups h hc hs =>
    obtain ⟨u, _, rfl, hu, ha⟩ := ha.exists_cons
    obtain ⟨more, hs, ha⟩ := hs.alike hl ha
    exact ⟨more, .groups (h.samePayloads hl hu) hc hs, ha⟩
  | .sequence hs =>
    obtain ⟨more, hs, ha⟩ := hs.alike hl ha
    exact ⟨more, .sequence hs, ha⟩
  | .emptyMapping ho hc =>
    obtain ⟨o, _, rfl, ho', ha⟩ := ha.exists_cons
    obtain ⟨c, more, rfl, hc', ha⟩ := ha.exists_cons
    exact ⟨more, .emptyMapping (ho'.trans ho) (hc'.trans hc), ha⟩
  | .mapping ho he hk =>
    obtain ⟨o, _, rfl, ho', ha⟩ := ha.exists_cons
    obtain ⟨more, he, ha⟩ := he.alike hl ha
    exact ⟨more, .mapping (ho'.trans ho) he hk, ha⟩

theorem DerivesSequence.alike {elements : List Pattern} {tokens rest others : List Token}
    (h : DerivesSequence literal? elements tokens rest) (hl : SamePayloads literal? other?)
    (ha : Alike tokens others) :
    ∃ more, DerivesSequence other? elements others more ∧ Alike rest more := by
  match h with
  | .empty ho hc =>
    obtain ⟨o, _, rfl, ho', ha⟩ := ha.exists_cons
    obtain ⟨c, more, rfl, hc', ha⟩ := ha.exists_cons
    exact ⟨more, .empty (ho'.trans ho) (hc'.trans hc), ha⟩
  | .onlyTail ho ht =>
    obtain ⟨o, _, rfl, ho', ha⟩ := ha.exists_cons
    obtain ⟨more, ht, ha⟩ := ht.alike ha
    exact ⟨more, .onlyTail (ho'.trans ho) ht, ha⟩
  | .elements ho he =>
    obtain ⟨o, _, rfl, ho', ha⟩ := ha.exists_cons
    obtain ⟨more, he, ha⟩ := he.alike hl ha
    exact ⟨more, .elements (ho'.trans ho) he, ha⟩

theorem DerivesElements.alike {elements : List Pattern} {tokens rest others : List Token}
    (h : DerivesElements literal? elements tokens rest) (hl : SamePayloads literal? other?)
    (ha : Alike tokens others) :
    ∃ more, DerivesElements other? elements others more ∧ Alike rest more := by
  match h with
  | .last hp hc =>
    obtain ⟨_, hp, ha⟩ := hp.alike hl ha
    obtain ⟨c, more, rfl, hc', ha⟩ := ha.exists_cons
    exact ⟨more, .last hp (hc'.trans hc), ha⟩
  | .tail hp ht =>
    obtain ⟨_, hp, ha⟩ := hp.alike hl ha
    obtain ⟨more, ht, ha⟩ := ht.alike ha
    exact ⟨more, .tail hp ht, ha⟩
  | .commaTail hp hc ht =>
    obtain ⟨_, hp, ha⟩ := hp.alike hl ha
    obtain ⟨c, _, rfl, hc', ha⟩ := ha.exists_cons
    obtain ⟨more, ht, ha⟩ := ht.alike ha
    exact ⟨more, .commaTail hp (hc'.trans hc) ht, ha⟩
  | .more hp hc he =>
    obtain ⟨_, hp, ha⟩ := hp.alike hl ha
    obtain ⟨c, _, rfl, hc', ha⟩ := ha.exists_cons
    obtain ⟨more, he, ha⟩ := he.alike hl ha
    exact ⟨more, .more hp (hc'.trans hc) he, ha⟩

theorem DerivesEntries.alike {entries : List (String × Pattern)} {tokens rest others : List Token}
    (h : DerivesEntries literal? entries tokens rest) (hl : SamePayloads literal? other?)
    (ha : Alike tokens others) :
    ∃ more, DerivesEntries other? entries others more ∧ Alike rest more := by
  match h with
  | .last hk he hp hc =>
    obtain ⟨k, _, rfl, hk', ha⟩ := ha.exists_cons
    obtain ⟨e, _, rfl, he', ha⟩ := ha.exists_cons
    obtain ⟨_, hp, ha⟩ := hp.alike hl ha
    obtain ⟨c, more, rfl, hc', ha⟩ := ha.exists_cons
    exact ⟨more, .last (hk.samePayloads hl hk') (he'.trans he) hp (hc'.trans hc), ha⟩
  | .more hk he hp hc hm =>
    obtain ⟨k, _, rfl, hk', ha⟩ := ha.exists_cons
    obtain ⟨e, _, rfl, he', ha⟩ := ha.exists_cons
    obtain ⟨_, hp, ha⟩ := hp.alike hl ha
    obtain ⟨c, _, rfl, hc', ha⟩ := ha.exists_cons
    obtain ⟨more, hm, ha⟩ := hm.alike hl ha
    exact ⟨more, .more (hk.samePayloads hl hk') (he'.trans he) hp (hc'.trans hc) hm, ha⟩

end

end Alike

end Destructure
