import Destructure.Token
import Mathlib.Data.List.Forall2

namespace Destructure

namespace Lexeme

def closer? : Lexeme → Option Char
  | .openBracket => some ']'
  | .openBrace => some '\x7d'
  | _ => none

def closing? : Lexeme → Option Char
  | .closeBracket => some ']'
  | .closeBrace => some '\x7d'
  | _ => none

inductive Balanced : List Lexeme → Prop
  | nil : Balanced []
  | plain {l : Lexeme} {rest : List Lexeme} (ho : l.closer? = none) (hc : l.closing? = none)
      (hr : Balanced rest) : Balanced (l :: rest)
  | pair {opener closer : Lexeme} {bracket : Char} {inner rest : List Lexeme}
      (ho : opener.closer? = some bracket) (hc : closer.closing? = some bracket)
      (hi : Balanced inner) (hr : Balanced rest) : Balanced (opener :: (inner ++ closer :: rest))

theorem Balanced.append {first second : List Lexeme} (hf : Balanced first) (hs : Balanced second) :
    Balanced (first ++ second) := by
  induction hf with
  | nil => exact hs
  | plain ho hc _ ih => exact .plain ho hc ih
  | @pair opener closer bracket inner rest ho hc hi _ _ ih =>
    rw [List.cons_append, List.append_assoc, List.cons_append]
    exact .pair ho hc hi ih

theorem closer?_eq_none_of_closing? {l : Lexeme} {bracket : Char} (h : l.closing? = some bracket) :
    l.closer? = none := by
  cases l with
  | closeBracket | closeBrace => rfl
  | _ => cases h

/-- Brackets that close are read back from how they are written. -/
theorem exists_punctuation?_of_closer? {l : Lexeme} {bracket : Char}
    (h : l.closer? = some bracket) :
    ∃ closer, punctuation? bracket = some closer ∧ closer.closing? = some bracket := by
  cases l with
  | openBracket =>
    cases h
    exact ⟨.closeBracket, rfl, rfl⟩
  | openBrace =>
    cases h
    exact ⟨.closeBrace, rfl, rfl⟩
  | _ => cases h

end Lexeme

namespace Token

open Lexeme (Balanced)

variable {tokens before inner openers : List Token} {t : Token}

inductive Unmatched : List Token → List Token → Prop
  | none {tokens : List Token} (h : Balanced (tokens.map Token.lexeme)) : Unmatched tokens []
  | opener {before inner openers : List Token} {t : Token} {bracket : Char}
      (hb : Unmatched before openers) (ho : t.lexeme.closer? = some bracket)
      (hi : Balanced (inner.map Token.lexeme)) :
      Unmatched (before ++ t :: inner) (t :: openers)

theorem Unmatched.append_balanced (h : Unmatched tokens openers)
    (hi : Balanced (inner.map Token.lexeme)) : Unmatched (tokens ++ inner) openers := by
  cases h with
  | none h =>
    refine .none ?_
    rw [List.map_append]
    exact h.append hi
  | opener hb ho h =>
    rw [List.append_assoc, List.cons_append]
    refine .opener hb ho ?_
    rw [List.map_append]
    exact h.append hi

/-- What is opened last is what a closing bracket closes. -/
theorem Unmatched.close {closer : Token} {bracket : Char} (h : Unmatched tokens (t :: openers))
    (ho : t.lexeme.closer? = some bracket) (hc : closer.lexeme.closing? = some bracket) :
    Unmatched (tokens ++ [closer]) openers := by
  cases h with
  | @opener before inner _ _ _ hb _ hi =>
    have hpair : Balanced ((t :: (inner ++ [closer])).map Token.lexeme) := by
      rw [List.map_cons, List.map_append]
      exact .pair ho hc hi .nil
    rw [List.append_assoc, List.cons_append]
    exact hb.append_balanced hpair

/-- Closing what is open, from the innermost on, makes tokens balanced. -/
theorem Unmatched.balanced_closers {closers : List Char} (h : Unmatched tokens openers)
    (hc : openers.map (fun t => t.lexeme.closer?) = closers.map some) :
    Balanced (tokens.map Token.lexeme ++ closers.filterMap Lexeme.punctuation?) := by
  induction openers generalizing tokens closers with
  | nil =>
    cases h with
    | none h =>
      obtain rfl : closers = [] := List.map_eq_nil_iff.mp hc.symm
      rw [List.filterMap_nil, List.append_nil]
      exact h
  | cons t openers ih =>
    cases closers with
    | nil => cases hc
    | cons bracket closers =>
      obtain ⟨ho, hrest⟩ := List.cons.inj hc
      obtain ⟨closer, hpunctuation, hclosing⟩ := Lexeme.exists_punctuation?_of_closer? ho
      have hclosed : Unmatched (tokens ++ [⟨closer, 0, 1⟩]) openers := h.close ho hclosing
      have hbalanced := ih hclosed hrest
      rw [List.filterMap_cons_some hpunctuation]
      rw [List.map_append, List.append_assoc] at hbalanced
      exact hbalanced

section Moves

inductive Moves (t : Token) : List (Char × Int) → List (Char × Int) → Prop
  | opens {bracket : Char} {marks : List (Char × Int)} (h : t.lexeme.closer? = some bracket) :
      Moves t marks ((bracket, t.position) :: marks)
  | closes {bracket : Char} {position : Int} {marks : List (Char × Int)}
      (h : t.lexeme.closing? = some bracket) : Moves t ((bracket, position) :: marks) marks
  | keeps {marks : List (Char × Int)} (ho : t.lexeme.closer? = none)
      (hc : t.lexeme.closing? = none) : Moves t marks marks

def Mirrors (marks : List (Char × Int)) (openers : List Token) : Prop :=
  List.Forall₂ (fun mark t => t.lexeme.closer? = some mark.1 ∧ t.position = mark.2) marks openers

variable {marks later : List (Char × Int)}

theorem Mirrors.closers (h : Mirrors marks openers) :
    openers.map (fun t => t.lexeme.closer?) = (marks.map Prod.fst).map some := by
  induction h with
  | nil => rfl
  | cons h _ ih => rw [List.map_cons, List.map_cons, List.map_cons, h.1, ih]

/-- A closing bracket takes away the mark of one that is open. -/
theorem Moves.of_closing {bracket : Char} (h : t.Moves marks later)
    (hc : t.lexeme.closing? = some bracket) : ∃ position, marks = (bracket, position) :: later := by
  cases h with
  | opens h =>
    rw [Lexeme.closer?_eq_none_of_closing? hc] at h
    cases h
  | closes h =>
    obtain rfl := Option.some.inj (hc.symm.trans h)
    exact ⟨_, rfl⟩
  | keeps ho hnone => cases hc.symm.trans hnone

/-- The tokens that are not closed follow the row of missing brackets. -/
theorem Unmatched.move (h : Unmatched tokens openers) (hm : Mirrors marks openers)
    (hmove : t.Moves marks later) :
    ∃ opened, Unmatched (tokens ++ [t]) opened ∧ Mirrors later opened := by
  cases hmove with
  | opens ho => exact ⟨t :: openers, .opener h ho .nil, .cons ⟨ho, rfl⟩ hm⟩
  | closes hc =>
    cases hm with
    | cons hfirst hrest => exact ⟨_, h.close hfirst.1 hc, hrest⟩
  | keeps ho hc => exact ⟨openers, h.append_balanced (.plain ho hc .nil), hm⟩

end Moves

section Unique

def track (opened : List Token) (t : Token) : List Token :=
  if t.lexeme.closer?.isSome then t :: opened
  else if t.lexeme.closing?.isSome then opened.tail
  else opened

theorem foldl_track_of_balanced {lexemes : List Lexeme} (h : Balanced lexemes)
    (ht : tokens.map Token.lexeme = lexemes) (opened : List Token) :
    tokens.foldl track opened = opened := by
  induction h generalizing tokens opened with
  | nil =>
    obtain rfl := List.map_eq_nil_iff.mp ht
    rfl
  | plain ho hc _ ih =>
    obtain ⟨t, rest, rfl, rfl, hrest⟩ := List.map_eq_cons_iff.mp ht
    have htrack : track opened t = opened := by
      rw [track, ho, hc]
      rfl
    rw [List.foldl_cons, htrack, ih hrest]
  | pair ho hc _ _ ihi ihr =>
    obtain ⟨t, more, rfl, rfl, hmore⟩ := List.map_eq_cons_iff.mp ht
    obtain ⟨inner, behind, rfl, hinner, hbehind⟩ := List.map_eq_append_iff.mp hmore
    obtain ⟨closer, rest, rfl, rfl, hrest⟩ := List.map_eq_cons_iff.mp hbehind
    have hopen : track opened t = t :: opened := by
      rw [track, ho]
      rfl
    have hclose : track (t :: opened) closer = opened := by
      rw [track, Lexeme.closer?_eq_none_of_closing? hc, hc]
      rfl
    rw [List.foldl_cons, hopen, List.foldl_append, ihi hinner, List.foldl_cons, hclose, ihr hrest]

theorem Unmatched.foldl_track (h : Unmatched tokens openers) : tokens.foldl track [] = openers := by
  induction h with
  | none h => exact foldl_track_of_balanced h rfl []
  | @opener before inner openers t bracket _ ho hi ih =>
    have hopen : track openers t = t :: openers := by
      rw [track, ho]
      rfl
    rw [List.foldl_append, ih, List.foldl_cons, hopen, foldl_track_of_balanced hi rfl]

/-- Which tokens are not closed again does not depend on how that is shown. -/
theorem Unmatched.unique {others : List Token} (h : Unmatched tokens openers)
    (h' : Unmatched tokens others) : others = openers :=
  h'.foldl_track.symm.trans h.foldl_track

end Unique

end Token

end Destructure
