import Destructure.Proofs.Pattern.Read
import Destructure.Proofs.Pattern.Tokens
import Destructure.Proofs.Token

namespace Destructure

def Word.tally : Word → Nat
  | .literal _ => 1
  | _ => 0

def Token.tally (t : Token) : Nat :=
  match t.lexeme with
  | .literal _ => 1
  | _ => 0

namespace Pattern

def wordsTally (ws : List Word) : Nat :=
  (ws.map Word.tally).sum

def tally (p : Pattern) : Nat :=
  wordsTally p.words

def keyTally (key : String) : Nat :=
  if Text.isName key.toList then 0 else 1

theorem wordsTally_cons (w : Word) (ws : List Word) :
    wordsTally (w :: ws) = w.tally + wordsTally ws :=
  rfl

theorem wordsTally_append (ws vs : List Word) :
    wordsTally (ws ++ vs) = wordsTally ws + wordsTally vs := by
  rw [wordsTally, List.map_append, List.sum_append]
  rfl

theorem tally_keyWord (key : String) : (keyWord key).tally = keyTally key := by
  unfold keyWord keyTally
  split <;> rfl

/-- Marks and blanks around some words are no literals. -/
theorem wordsTally_enclosed (opening closing : Char) (ws : List Word) :
    wordsTally (.mark opening :: ws ++ [.mark closing]) = wordsTally ws := by
  rw [List.cons_append, wordsTally_cons, wordsTally_append]
  exact Nat.zero_add _

theorem wordsTally_elementWords (first : Bool) (elements : List Pattern) :
    wordsTally (elementWords first elements) = (elements.map tally).sum := by
  induction elements generalizing first with
  | nil => rfl
  | cons e rest ih =>
    have hseparator : wordsTally (separator first e) = 0 := by
      unfold separator
      repeat' split
      all_goals rfl
    rw [elementWords, wordsTally_append, wordsTally_append, hseparator, ih, Nat.zero_add]
    rfl

theorem wordsTally_entryWords (first : Bool) (entries : List (String × Pattern)) :
    wordsTally (entryWords first entries) =
      (entries.map fun entry => keyTally entry.1 + entry.2.tally).sum := by
  induction entries generalizing first with
  | nil => rfl
  | cons entry rest ih =>
    obtain ⟨key, p⟩ := entry
    have hcomma : wordsTally (if first then [] else [.mark ',', .blank]) = 0 := by
      cases first <;> rfl
    have hequals : wordsTally (.blank :: .mark '=' :: .blank :: p.words) = p.tally := by
      rw [wordsTally_cons, wordsTally_cons, wordsTally_cons]
      simp only [Word.tally, Nat.zero_add]
      rfl
    rw [entryWords, wordsTally_append, wordsTally_append, wordsTally_cons, hcomma, hequals,
      tally_keyWord, ih, Nat.zero_add]
    rfl

theorem tally_sequence (elements : List Pattern) :
    (sequence elements).tally = (elements.map tally).sum := by
  rw [tally, words, wordsTally_enclosed, wordsTally_elementWords]

theorem tally_groups (expression : Regex) (elements : List Pattern) :
    (groups expression elements).tally = 1 + (elements.map tally).sum := by
  rw [← tally_sequence, tally, words_groups, wordsTally_cons, wordsTally_cons]
  exact congrArg (1 + ·) (Nat.zero_add _)

theorem tally_mapping (entries : List (String × Pattern)) :
    (mapping entries).tally = (entries.map fun entry => keyTally entry.1 + entry.2.tally).sum := by
  rw [tally, words, wordsTally_enclosed, wordsTally_entryWords]

theorem tally_variable (name : String) (isTail : Bool) : («variable» name isTail).tally = 0 := by
  cases isTail <;> rfl

theorem tally_number_le (n : Number) : (number n).tally ≤ 1 := by
  cases n with
  | integer k => exact Nat.le_refl 1
  | float x =>
    rw [tally, words, numberWords]
    split
    · cases x.negative <;> exact Nat.zero_le 1
    · exact Nat.le_refl 1

end Pattern

open Pattern (keyTally)

def Token.tallyOf (tokens : List Token) : Nat :=
  (tokens.map Token.tally).sum

theorem Token.tallyOf_cons (t : Token) (rest : List Token) :
    Token.tallyOf (t :: rest) = t.tally + Token.tallyOf rest :=
  rfl

section Derivation

variable {literal? : Nat → Option Literal}

theorem Token.Carries.tally_eq {t : Token} {payload : Payload} (h : t.Carries literal? payload) :
    t.tally = 1 := by
  obtain ⟨number, l, ht, -⟩ := h
  rw [Token.tally, ht]

/-- A key is a literal only if it was read from one. -/
theorem Token.IsKey.keyTally_le {t : Token} {key : String} (h : t.IsKey literal? key)
    (hn : ∀ name, t.lexeme = .name name → Text.isName name.toList = true) :
    keyTally key ≤ t.tally := by
  cases h with
  | name h =>
    rw [keyTally, if_pos (hn key h)]
    exact Nat.zero_le _
  | text h =>
    rw [h.tally_eq]
    unfold keyTally
    split <;> omega

theorem DerivesTail.tally_le {name : String} {tokens rest : List Token}
    (h : DerivesTail name tokens rest) : Token.tallyOf rest ≤ Token.tallyOf tokens := by
  obtain ⟨-, -, -⟩ := h
  simp only [Token.tallyOf_cons]
  omega

mutual

/-- What a pattern is written with and what comes behind it are no more literals than the tokens. -/
theorem Derives.tally_le {p : Pattern} {tokens rest : List Token} (h : Derives literal? p tokens rest)
    (hn : Token.Named tokens) : p.tally + Token.tallyOf rest ≤ Token.tallyOf tokens := by
  match h with
  | @Derives.variable _ t name rest _ =>
    rw [Pattern.tally_variable, Token.tallyOf_cons]
    omega
  | .text h | .regex h _ _ =>
    rw [Token.tallyOf_cons, h.tally_eq]
    exact Nat.le_refl _
  | .number h =>
    rw [Token.tallyOf_cons, h.tally_eq]
    exact Nat.add_le_add_right (Pattern.tally_number_le _) _
  | .groups h _ hs =>
    have hle := hs.tally_le hn.tail
    rw [Pattern.tally_groups, Token.tallyOf_cons, h.tally_eq]
    omega
  | .sequence hs =>
    rw [Pattern.tally_sequence]
    exact hs.tally_le hn
  | .emptyMapping _ _ =>
    rw [Token.tallyOf_cons, Token.tallyOf_cons, Pattern.tally_mapping, List.map_nil, List.sum_nil]
    omega
  | .mapping _ he _ =>
    have hle := he.tally_le hn.tail
    rw [Pattern.tally_mapping, Token.tallyOf_cons]
    omega

theorem DerivesSequence.tally_le {elements : List Pattern} {tokens rest : List Token}
    (h : DerivesSequence literal? elements tokens rest) (hn : Token.Named tokens) :
    (elements.map Pattern.tally).sum + Token.tallyOf rest ≤ Token.tallyOf tokens := by
  match h with
  | .empty _ _ =>
    rw [Token.tallyOf_cons, Token.tallyOf_cons, List.map_nil, List.sum_nil]
    omega
  | .onlyTail _ ht =>
    have hle := ht.tally_le
    rw [Token.tallyOf_cons, List.map_singleton, List.sum_singleton, Pattern.tally_variable]
    omega
  | .elements _ he =>
    have hle := he.tally_le hn.tail
    rw [Token.tallyOf_cons]
    omega

theorem DerivesElements.tally_le {elements : List Pattern} {tokens rest : List Token}
    (h : DerivesElements literal? elements tokens rest) (hn : Token.Named tokens) :
    (elements.map Pattern.tally).sum + Token.tallyOf rest ≤ Token.tallyOf tokens := by
  match h with
  | .last hp _ =>
    have hfirst := hp.tally_le hn
    rw [Token.tallyOf_cons] at hfirst
    rw [List.map_singleton, List.sum_singleton]
    omega
  | .tail hp ht =>
    have hfirst := hp.tally_le hn
    have htail := ht.tally_le
    rw [List.map_cons, List.sum_cons, List.map_singleton, List.sum_singleton,
      Pattern.tally_variable]
    omega
  | .commaTail hp _ ht =>
    have hfirst := hp.tally_le hn
    have htail := ht.tally_le
    rw [Token.tallyOf_cons] at hfirst
    rw [List.map_cons, List.sum_cons, List.map_singleton, List.sum_singleton,
      Pattern.tally_variable]
    omega
  | .more hp _ he =>
    have hfirst := hp.tally_le hn
    have hmore := he.tally_le (hn.of_isSuffix hp.isSuffix).tail
    rw [Token.tallyOf_cons] at hfirst
    rw [List.map_cons, List.sum_cons]
    omega

theorem DerivesEntries.tally_le {entries : List (String × Pattern)} {tokens rest : List Token}
    (h : DerivesEntries literal? entries tokens rest) (hn : Token.Named tokens) :
    (entries.map fun entry => keyTally entry.1 + entry.2.tally).sum + Token.tallyOf rest ≤
      Token.tallyOf tokens := by
  match h with
  | .last hk _ hp _ =>
    have hkey := hk.keyTally_le (hn _ (List.mem_cons_self ..))
    have hfirst := hp.tally_le hn.tail.tail
    rw [Token.tallyOf_cons] at hfirst
    rw [Token.tallyOf_cons, Token.tallyOf_cons, List.map_singleton, List.sum_singleton]
    dsimp only
    omega
  | .more hk _ hp _ he =>
    have hkey := hk.keyTally_le (hn _ (List.mem_cons_self ..))
    have hfirst := hp.tally_le hn.tail.tail
    have hmore := he.tally_le (hn.tail.tail.of_isSuffix hp.isSuffix).tail
    rw [Token.tallyOf_cons] at hfirst
    rw [Token.tallyOf_cons, Token.tallyOf_cons, List.map_cons, List.sum_cons]
    dsimp only
    omega

end

end Derivation

/-- A pattern is written with no more literals than it was read from. -/
theorem Pattern.tally_ofTokens {source : Reading.Source} {tokens : List Token} {p : Pattern}
    (ht : Token.Named tokens) (h : ofTokens source tokens = .ok p) :
    p.tally ≤ Token.tallyOf tokens :=
  (Reading.ofTokens_eq_ok.mp h).tally_le ht

end Destructure
