import Destructure.Proofs.Pattern.Read

namespace Destructure

variable {literal? other? : Nat → Option Literal}

def Token.Agree (literal? other? : Nat → Option Literal) (tokens : List Token) : Prop :=
  ∀ t ∈ tokens, ∀ number, t.lexeme = .literal number → literal? number = other? number

namespace Token

theorem Agree.symm {tokens : List Token} (h : Agree literal? other? tokens) :
    Agree other? literal? tokens :=
  fun t hm number ht => (h t hm number ht).symm

theorem Agree.of_isSuffix {tokens rest : List Token} (h : Agree literal? other? tokens)
    (hs : rest <:+ tokens) : Agree literal? other? rest :=
  fun t hm => h t (hs.subset hm)

theorem Agree.tail {t : Token} {rest : List Token} (h : Agree literal? other? (t :: rest)) :
    Agree literal? other? rest :=
  h.of_isSuffix (List.suffix_cons ..)

theorem Carries.congr {t : Token} {payload : Payload} {rest : List Token}
    (h : t.Carries literal? payload) (ha : Agree literal? other? (t :: rest)) :
    t.Carries other? payload := by
  obtain ⟨number, l, ht, hl, hp⟩ := h
  refine ⟨number, l, ht, ?_, hp⟩
  rw [← ha t List.mem_cons_self number ht]
  exact hl

theorem IsKey.congr {t : Token} {key : String} {rest : List Token} (h : t.IsKey literal? key)
    (ha : Agree literal? other? (t :: rest)) : t.IsKey other? key := by
  cases h with
  | name h => exact .name h
  | text h => exact .text (h.congr ha)

end Token

mutual

/-- A pattern is derived as well from other literals that agree with the first on the tokens. -/
theorem Derives.congr {p : Pattern} {tokens rest : List Token} (h : Derives literal? p tokens rest)
    (ha : Token.Agree literal? other? tokens) : Derives other? p tokens rest := by
  match h with
  | .variable h => exact .variable h
  | .text h => exact .text (h.congr ha)
  | .number h => exact .number (h.congr ha)
  | .regex h hc hnext => exact .regex (h.congr ha) hc hnext
  | .groups h hc hs => exact .groups (h.congr ha) hc (hs.congr ha.tail)
  | .sequence hs => exact .sequence (hs.congr ha)
  | .emptyMapping ho hc => exact .emptyMapping ho hc
  | .mapping ho he hk => exact .mapping ho (he.congr ha.tail) hk

theorem DerivesSequence.congr {elements : List Pattern} {tokens rest : List Token}
    (h : DerivesSequence literal? elements tokens rest)
    (ha : Token.Agree literal? other? tokens) : DerivesSequence other? elements tokens rest := by
  match h with
  | .empty ho hc => exact .empty ho hc
  | .onlyTail ho ht => exact .onlyTail ho ht
  | .elements ho he => exact .elements ho (he.congr ha.tail)

theorem DerivesElements.congr {elements : List Pattern} {tokens rest : List Token}
    (h : DerivesElements literal? elements tokens rest)
    (ha : Token.Agree literal? other? tokens) : DerivesElements other? elements tokens rest := by
  match h with
  | .last hp hc => exact .last (hp.congr ha) hc
  | .tail hp ht => exact .tail (hp.congr ha) ht
  | .commaTail hp hc ht => exact .commaTail (hp.congr ha) hc ht
  | .more hp hc he =>
    have hbehind := (ha.of_isSuffix hp.isSuffix).tail
    exact .more (hp.congr ha) hc (he.congr hbehind)

theorem DerivesEntries.congr {entries : List (String × Pattern)} {tokens rest : List Token}
    (h : DerivesEntries literal? entries tokens rest)
    (ha : Token.Agree literal? other? tokens) : DerivesEntries other? entries tokens rest := by
  match h with
  | .last hk he hp hc => exact .last (hk.congr ha) he (hp.congr ha.tail.tail) hc
  | .more hk he hp hc hm =>
    have hbehind := (ha.tail.tail.of_isSuffix hp.isSuffix).tail
    exact .more (hk.congr ha) he (hp.congr ha.tail.tail) hc (hm.congr hbehind)

end

/-- What is read from tokens does not depend on the literals that they do not refer to, nor on the
text that messages show. -/
theorem Pattern.ofTokens_congr {source other : Reading.Source} {tokens : List Token} {p : Pattern}
    (ha : Token.Agree source.literal? other.literal? tokens) :
    Pattern.ofTokens source tokens = .ok p ↔ Pattern.ofTokens other tokens = .ok p := by
  rw [Reading.ofTokens_eq_ok, Reading.ofTokens_eq_ok]
  exact ⟨fun h => h.congr ha, fun h => h.congr ha.symm⟩

end Destructure
