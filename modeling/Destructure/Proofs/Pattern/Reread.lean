import Destructure.Proofs.Pattern.Language
import Destructure.Proofs.Pattern.Tokens

namespace Destructure

open Pattern (ofTail elementWords entryWords separator keyWord numberWords regexWord)
open Reading (Ends ends_of_ne)
open Token (Spell Denotes)

variable {source : Reading.Source} {tokens : List Token} {after : List Word}

namespace Token

/-- A mark is one token. -/
theorem exists_of_spell_mark {c : Char} (lexeme : Lexeme) (hc : Lexeme.punctuation? c = some lexeme)
    (h : Spell source tokens (.mark c :: after)) :
    ∃ t rest, tokens = t :: rest ∧ t.lexeme = lexeme ∧ Spell source rest after := by
  obtain ⟨t, rest, rfl, ht, hrest⟩ := h
  exact ⟨t, rest, rfl, Option.some.inj (ht.symm.trans hc), hrest⟩

/-- A name is one token. -/
theorem exists_of_spell_name {name : String}
    (h : Spell source tokens (.name name.toList :: after)) :
    ∃ t rest, tokens = t :: rest ∧ t.lexeme = .name name ∧ Spell source rest after := by
  obtain ⟨t, rest, rfl, ht, hrest⟩ := h
  rw [Denotes, String.ofList_toList] at ht
  exact ⟨t, rest, rfl, ht, hrest⟩

/-- A literal is one token. -/
theorem exists_of_spell_literal {payload : Payload}
    (h : Spell source tokens (.literal payload :: after)) :
    ∃ t rest, tokens = t :: rest ∧ t.Carries source.literal? payload ∧ Spell source rest after :=
  h

/-- A key is one token. -/
theorem exists_of_spell_key {key : String} (h : Spell source tokens (keyWord key :: after)) :
    ∃ t rest, tokens = t :: rest ∧ t.IsKey source.literal? key ∧ Spell source rest after := by
  unfold keyWord at h
  split at h
  · obtain ⟨t, rest, rfl, ht, hrest⟩ := exists_of_spell_name h
    exact ⟨t, rest, rfl, .name ht, hrest⟩
  · obtain ⟨t, rest, rfl, ht, hrest⟩ := exists_of_spell_literal h
    have hkey := IsKey.text ht
    rw [String.ofList_toList] at hkey
    exact ⟨t, rest, rfl, hkey, hrest⟩

/-- A key and its equals sign are two tokens. -/
theorem exists_of_spell_entry {key : String}
    (h : Spell source tokens (keyWord key :: .blank :: .mark '=' :: .blank :: after)) :
    ∃ k e rest, tokens = k :: e :: rest ∧ k.IsKey source.literal? key ∧ e.lexeme = .equals ∧
      Spell source rest after := by
  obtain ⟨k, behind, rfl, hk, h⟩ := exists_of_spell_key h
  obtain ⟨e, rest, rfl, he, h⟩ := exists_of_spell_mark .equals rfl h
  exact ⟨k, e, rest, rfl, hk, he, h⟩

end Token

open Token

def Rereads (source : Reading.Source) (p : Pattern) : Prop :=
  ∀ tokens after, Spell source tokens (p.words ++ after) → ∃ rest, Spell source rest after ∧
    ((∀ next ∈ rest.head?, Ends p next) → Derives source.literal? p tokens rest)

section Sequence

variable {first : Pattern} {more before : List Pattern}

/-- A pattern before a mark that opens no sequence. -/
theorem Rereads.mark {p : Pattern} (hp : Rereads source p) {c : Char} (lexeme : Lexeme)
    (hc : Lexeme.punctuation? c = some lexeme) (hopen : lexeme ≠ .openBracket)
    (h : Spell source tokens (p.words ++ .mark c :: after)) :
    ∃ t rest, t.lexeme = lexeme ∧ Derives source.literal? p tokens (t :: rest) ∧
      Spell source rest after := by
  obtain ⟨behind, hbehind, hderives⟩ := hp tokens _ h
  obtain ⟨t, rest, rfl, ht, hrest⟩ := exists_of_spell_mark lexeme hc hbehind
  refine ⟨t, rest, ht, hderives fun next hnext => ?_, hrest⟩
  cases hnext
  exact ends_of_ne (ht ▸ hopen)

/-- The name of a tail and the closing bracket, behind the bar. -/
theorem derivesTail_of_spell {bar : Token} (hb : bar.lexeme = .pipe) {name : String}
    (h : Spell source tokens (.blank :: .name name.toList :: .mark ']' :: after)) :
    ∃ rest, DerivesTail name (bar :: tokens) rest ∧ Spell source rest after := by
  obtain ⟨t, behind, rfl, ht, h⟩ := exists_of_spell_name h
  obtain ⟨close, rest, rfl, hc, h⟩ := exists_of_spell_mark .closeBracket rfl h
  exact ⟨rest, .tail hb ht hc, h⟩

theorem derivesElements_of_spell (tail : Option String)
    (hm : ∀ e ∈ first :: more, e.isTailVariable = false ∧ Rereads source e)
    (h : Spell source tokens
      (first.words ++ elementWords false (more ++ ofTail tail) ++ .mark ']' :: after)) :
    ∃ rest, Spell source rest after ∧
      DerivesElements source.literal? (first :: more ++ ofTail tail) tokens rest := by
  induction more generalizing first tokens with
  | nil =>
    obtain ⟨⟨-, hp⟩, -⟩ := List.forall_mem_cons.mp hm
    rw [List.append_assoc] at h
    cases tail with
    | none =>
      obtain ⟨c, rest, hc, hfirst, h⟩ := hp.mark .closeBracket rfl (by decide) h
      exact ⟨rest, h, .last hfirst hc⟩
    | some name =>
      have hbar : Spell source tokens (first.words ++ .blank :: .mark '|' :: .blank ::
          .name name.toList :: .mark ']' :: after) := h
      obtain ⟨behind, hbehind, hderives⟩ := hp tokens _ hbar
      obtain ⟨bar, behind, rfl, hb, h⟩ := exists_of_spell_mark .pipe rfl hbehind
      obtain ⟨rest, ht, h⟩ := derivesTail_of_spell hb h
      refine ⟨rest, h, .tail (hderives fun next hnext => ?_) ht⟩
      cases hnext
      exact ends_of_ne (by rw [hb]; decide)
  | cons e more ih =>
    obtain ⟨⟨-, hp⟩, hrest⟩ := List.forall_mem_cons.mp hm
    obtain ⟨⟨ht, -⟩, -⟩ := List.forall_mem_cons.mp hrest
    have hwords : first.words ++ elementWords false (e :: more ++ ofTail tail) ++ .mark ']' :: after =
        first.words ++ .mark ',' :: .blank ::
          (e.words ++ elementWords false (more ++ ofTail tail) ++ .mark ']' :: after) := by
      rw [List.cons_append, elementWords, separator, ht]
      simp
    rw [hwords] at h
    obtain ⟨c, between, hc, hfirst, h⟩ := hp.mark .comma rfl (by decide) h
    obtain ⟨rest, h, he⟩ := ih hrest h
    exact ⟨rest, h, .more hfirst hc he⟩

/-- A sequence from its opening bracket on. -/
theorem rereads_sequence (tail : Option String)
    (hb : ∀ e ∈ before, e.isTailVariable = false ∧ Rereads source e) :
    Rereads source (.sequence (before ++ ofTail tail)) := by
  intro tokens after h
  have hwords : (Pattern.sequence (before ++ ofTail tail)).words ++ after =
      .mark '[' :: (elementWords true (before ++ ofTail tail) ++ .mark ']' :: after) := by
    rw [Pattern.words]
    simp
  rw [hwords] at h
  obtain ⟨o, behind, rfl, ho, h⟩ := exists_of_spell_mark .openBracket rfl h
  cases before with
  | nil =>
    cases tail with
    | none =>
      obtain ⟨c, rest, rfl, hc, h⟩ := exists_of_spell_mark .closeBracket rfl h
      exact ⟨rest, h, fun _ => .sequence (.empty ho hc)⟩
    | some name =>
      obtain ⟨bar, behind, rfl, hb, h⟩ := exists_of_spell_mark .pipe rfl h
      obtain ⟨rest, ht, h⟩ := derivesTail_of_spell hb h
      exact ⟨rest, h, fun _ => .sequence (.onlyTail ho ht)⟩
  | cons first more =>
    obtain ⟨rest, h, he⟩ := derivesElements_of_spell tail hb h
    exact ⟨rest, h, fun _ => .sequence (.elements ho he)⟩

end Sequence

section Mapping

variable {entry : String × Pattern} {entries : List (String × Pattern)}

theorem derivesEntries_of_spell (he : ∀ e ∈ entry :: entries, Rereads source e.2)
    (h : Spell source tokens (entryWords true (entry :: entries) ++ .mark '\x7d' :: after)) :
    ∃ rest, Spell source rest after ∧
      DerivesEntries source.literal? (entry :: entries) tokens rest := by
  induction entries generalizing entry tokens with
  | nil =>
    obtain ⟨key, p⟩ := entry
    obtain ⟨hp, -⟩ := List.forall_mem_cons.mp he
    have hwords : entryWords true [(key, p)] ++ .mark '\x7d' :: after =
        keyWord key :: .blank :: .mark '=' :: .blank :: (p.words ++ .mark '\x7d' :: after) := by
      simp [entryWords]
    rw [hwords] at h
    obtain ⟨k, e, behind, rfl, hk, hequals, h⟩ := exists_of_spell_entry h
    obtain ⟨c, rest, hc, hderives, h⟩ := hp.mark .closeBrace rfl (by decide) h
    exact ⟨rest, h, .last hk hequals hderives hc⟩
  | cons following more ih =>
    obtain ⟨key, p⟩ := entry
    obtain ⟨hp, hrest⟩ := List.forall_mem_cons.mp he
    have hwords : entryWords true ((key, p) :: following :: more) ++ .mark '\x7d' :: after =
        keyWord key :: .blank :: .mark '=' :: .blank :: (p.words ++ .mark ',' :: .blank ::
          (entryWords true (following :: more) ++ .mark '\x7d' :: after)) := by
      simp [entryWords]
    rw [hwords] at h
    obtain ⟨k, e, behind, rfl, hk, hequals, h⟩ := exists_of_spell_entry h
    obtain ⟨c, between, hc, hderives, h⟩ := hp.mark .comma rfl (by decide) h
    obtain ⟨rest, h, hmore⟩ := ih hrest h
    exact ⟨rest, h, .more hk hequals hderives hc hmore⟩

/-- A mapping from its opening brace on. -/
theorem rereads_mapping (hk : (entries.map Prod.fst).Nodup)
    (he : ∀ entry ∈ entries, Rereads source entry.2) : Rereads source (.mapping entries) := by
  intro tokens after h
  have hwords : (Pattern.mapping entries).words ++ after =
      .mark '\x7b' :: (entryWords true entries ++ .mark '\x7d' :: after) := by
    rw [Pattern.words]
    simp
  rw [hwords] at h
  obtain ⟨o, behind, rfl, ho, h⟩ := exists_of_spell_mark .openBrace rfl h
  cases entries with
  | nil =>
    obtain ⟨c, rest, rfl, hc, h⟩ := exists_of_spell_mark .closeBrace rfl h
    exact ⟨rest, h, fun _ => .emptyMapping ho hc⟩
  | cons entry more =>
    obtain ⟨rest, h, hentries⟩ := derivesEntries_of_spell he h
    exact ⟨rest, h, fun _ => .mapping ho hentries hk⟩

end Mapping

theorem rereads_text (value : String) : Rereads source (.text value) := by
  intro tokens after h
  obtain ⟨t, rest, rfl, ht, h⟩ := exists_of_spell_literal h
  have hderives : Derives source.literal? (.text (String.ofList value.toList)) (t :: rest) rest :=
    .text ht
  rw [String.ofList_toList] at hderives
  exact ⟨rest, h, fun _ => hderives⟩

theorem rereads_number {n : Number} (hn : n.isFinite = true) : Rereads source (.number n) := by
  intro tokens after h
  rw [Pattern.words, Pattern.numberWords_of_isFinite hn] at h
  obtain ⟨t, rest, rfl, ht, h⟩ := exists_of_spell_literal h
  exact ⟨rest, h, fun _ => .number ht⟩

/-- A regular expression stands for itself unless a sequence follows. -/
theorem rereads_regex {expression : Regex}
    (hc : Regex.compile expression.source expression.ignoreCase = .ok expression) :
    Rereads source (.regex expression) := by
  intro tokens after h
  obtain ⟨t, rest, rfl, ht, h⟩ := exists_of_spell_literal h
  refine ⟨rest, h, fun hends => .regex ht ?_ fun next hnext => hends next hnext expression rfl⟩
  rwa [String.ofList_toList]

theorem rereads_groups {expression : Regex} {elements : List Pattern}
    (hc : Regex.compile expression.source expression.ignoreCase = .ok expression)
    (hs : Rereads source (.sequence elements)) : Rereads source (.groups expression elements) := by
  intro tokens after h
  rw [Pattern.words_groups] at h
  obtain ⟨t, behind, rfl, ht, h⟩ := exists_of_spell_literal h
  obtain ⟨rest, hrest, hderives⟩ := hs behind after h
  have hsequence := hderives fun next _ expression h => nomatch h
  cases hsequence with
  | sequence hs =>
    refine ⟨rest, hrest, fun _ => .groups ht ?_ hs⟩
    rwa [String.ofList_toList]

theorem rereads_variable (name : String) : Rereads source (.variable name false) := by
  intro tokens after h
  obtain ⟨t, rest, rfl, ht, h⟩ := exists_of_spell_name h
  exact ⟨rest, h, fun _ => .variable ht⟩

/-- A pattern is read back from its words. -/
theorem rereads_of_isRead {p : Pattern} (h : p.IsRead Payload.IsPlain) : Rereads source p := by
  refine Pattern.induction_isRead (motive := Rereads source) ?_ ?_ ?_ ?_ ?_ ?_ ?_ p h
  · exact fun value _ => rereads_text value
  · exact fun n hn => rereads_number (hn.2 n rfl)
  · exact fun expression he => rereads_regex he.1
  · exact fun name _ => rereads_variable name
  · exact fun before tail hb _ => rereads_sequence tail fun e hm =>
      ⟨Pattern.isTailVariable_eq_false (hb e hm).1, (hb e hm).2⟩
  · exact fun entries hn he => rereads_mapping hn fun entry hm => (he entry hm).2
  · exact fun expression before tail he ih => rereads_groups he.1 ih

/-- The tokens of a pattern are read as the pattern. -/
theorem Reading.ofTokens_of_spell {p : Pattern} (h : p.IsRead Payload.IsPlain)
    (hs : Spell source tokens p.words) : Pattern.ofTokens source tokens = .ok p := by
  have hs : Spell source tokens (p.words ++ []) := by rwa [List.append_nil]
  obtain ⟨rest, hrest, hderives⟩ := rereads_of_isRead h tokens [] hs
  obtain rfl : rest = [] := hrest
  exact Reading.ofTokens_eq_ok.mpr (hderives fun _ hnext => nomatch hnext)

end Destructure
