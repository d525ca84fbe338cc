import Destructure.Proofs.Compile

namespace Destructure

namespace Token

def beginsWithEquals (tokens : List Token) : Bool :=
  tokens.head?.any (·.lexeme == .equals)

def variableNames : List Token → List String
  | [] => []
  | t :: rest =>
    match t.lexeme with
    | .name name =>
      if name = Pattern.discardName ∨ beginsWithEquals rest then variableNames rest
      else name :: variableNames rest
    | _ => variableNames rest

theorem beginsWithEquals_cons {t : Token} {rest : List Token} (h : t.lexeme ≠ .equals) :
    beginsWithEquals (t :: rest) = false :=
  beq_eq_false_iff_ne.mpr h

theorem variableNames_cons_of_ne {t : Token} (h : ∀ name, t.lexeme ≠ .name name)
    (rest : List Token) :
    variableNames (t :: rest) = variableNames rest := by
  rw [variableNames]
  split
  · rename_i name ht
    exact absurd ht (h name)
  · rfl

theorem variableNames_cons_name {t : Token} {name : String} {rest : List Token}
    (h : t.lexeme = .name name) (hr : beginsWithEquals rest = false) (isTail : Bool) :
    variableNames (t :: rest) = (Pattern.variable name isTail).variableNames ++ variableNames rest := by
  rw [variableNames, h, Pattern.variableNames]
  dsimp only
  by_cases hd : name = Pattern.discardName
  · rw [if_pos (Or.inl hd), if_pos hd]
    rfl
  · have hkept : ¬(name = Pattern.discardName ∨ beginsWithEquals rest = true) := by
      rw [hr]
      simpa using hd
    rw [if_neg hkept, if_neg hd]
    rfl

/-- What a key is and the sign behind it bind nothing. -/
theorem variableNames_cons_key (k : Token) {e : Token} (he : e.lexeme = .equals)
    (rest : List Token) :
    variableNames (k :: e :: rest) = variableNames rest := by
  have hequals : variableNames (e :: rest) = variableNames rest :=
    variableNames_cons_of_ne (fun name h => nomatch he.symm.trans h) rest
  have hbegins : beginsWithEquals (e :: rest) = true := beq_iff_eq.mpr he
  rw [variableNames]
  split
  · rw [if_pos (Or.inr hbegins), hequals]
  · exact hequals

end Token

section Derivation

variable {literal? : Nat → Option Literal}

theorem Token.Carries.variableNames_cons {t : Token} {payload : Payload}
    (h : t.Carries literal? payload) (rest : List Token) :
    Token.variableNames (t :: rest) = Token.variableNames rest := by
  obtain ⟨number, l, ht, -⟩ := h
  exact Token.variableNames_cons_of_ne (fun name hn => nomatch ht.symm.trans hn) rest

theorem DerivesTail.beginsWithEquals {name : String} {tokens rest : List Token}
    (h : DerivesTail name tokens rest) : Token.beginsWithEquals tokens = false := by
  obtain ⟨hb, -, -⟩ := h
  exact Token.beginsWithEquals_cons (by simp [hb])

theorem DerivesTail.variableNames_eq {name : String} {tokens rest : List Token}
    (h : DerivesTail name tokens rest) :
    Token.variableNames tokens =
      (Pattern.variable name true).variableNames ++ Token.variableNames rest := by
  obtain ⟨hb, hn, hc⟩ := h
  rw [Token.variableNames_cons_of_ne (by simp [hb]),
    Token.variableNames_cons_name hn (Token.beginsWithEquals_cons (by simp [hc])) true,
    Token.variableNames_cons_of_ne (by simp [hc])]

mutual

/-- The names that a pattern binds are written as variables in its tokens. Only a name that ends
them could still turn out to be a key. -/
theorem Derives.variableNames_eq {p : Pattern} {tokens rest : List Token}
    (h : Derives literal? p tokens rest) (hr : Token.beginsWithEquals rest = false) :
    Token.variableNames tokens = p.variableNames ++ Token.variableNames rest := by
  match h with
  | .variable h => exact Token.variableNames_cons_name h hr false
  | .text h | .number h | .regex h _ _ => exact h.variableNames_cons rest
  | .groups h _ hs => exact (h.variableNames_cons _).trans hs.variableNames_eq
  | .sequence hs => exact hs.variableNames_eq
  | .emptyMapping ho hc =>
    rw [Token.variableNames_cons_of_ne (by simp [ho]), Token.variableNames_cons_of_ne (by simp [hc])]
    rfl
  | .mapping ho he _ => exact (Token.variableNames_cons_of_ne (by simp [ho]) _).trans he.variableNames_eq

theorem DerivesSequence.variableNames_eq {elements : List Pattern} {tokens rest : List Token}
    (h : DerivesSequence literal? elements tokens rest) :
    Token.variableNames tokens = Pattern.namesOfElements elements ++ Token.variableNames rest := by
  match h with
  | .empty ho hc =>
    rw [Token.variableNames_cons_of_ne (by simp [ho]), Token.variableNames_cons_of_ne (by simp [hc])]
    rfl
  | .onlyTail ho ht =>
    rw [Token.variableNames_cons_of_ne (by simp [ho]), ht.variableNames_eq, Pattern.namesOfElements,
      Pattern.namesOfElements, List.append_nil]
  | .elements ho he => exact (Token.variableNames_cons_of_ne (by simp [ho]) _).trans he.variableNames_eq

theorem DerivesElements.variableNames_eq {elements : List Pattern} {tokens rest : List Token}
    (h : DerivesElements literal? elements tokens rest) :
    Token.variableNames tokens = Pattern.namesOfElements elements ++ Token.variableNames rest := by
  match h with
  | .last hp hc =>
    rw [hp.variableNames_eq (Token.beginsWithEquals_cons (by simp [hc])),
      Token.variableNames_cons_of_ne (by simp [hc]), Pattern.namesOfElements, Pattern.namesOfElements,
      List.append_nil]
  | .tail hp ht =>
    rw [hp.variableNames_eq ht.beginsWithEquals, ht.variableNames_eq, Pattern.namesOfElements,
      Pattern.namesOfElements, Pattern.namesOfElements, List.append_nil, List.append_assoc]
  | .commaTail hp hc ht =>
    rw [hp.variableNames_eq (Token.beginsWithEquals_cons (by simp [hc])),
      Token.variableNames_cons_of_ne (by simp [hc]), ht.variableNames_eq, Pattern.namesOfElements,
      Pattern.namesOfElements, Pattern.namesOfElements, List.append_nil, List.append_assoc]
  | .more hp hc he =>
    rw [hp.variableNames_eq (Token.beginsWithEquals_cons (by simp [hc])),
      Token.variableNames_cons_of_ne (by simp [hc]), he.variableNames_eq, Pattern.namesOfElements,
      List.append_assoc]

theorem DerivesEntries.variableNames_eq {entries : List (String × Pattern)} {tokens rest : List Token}
    (h : DerivesEntries literal? entries tokens rest) :
    Token.variableNames tokens = Pattern.namesOfEntries entries ++ Token.variableNames rest := by
  match h with
  | .last _ he hp hc =>
    rw [Token.variableNames_cons_key _ he,
      hp.variableNames_eq (Token.beginsWithEquals_cons (by simp [hc])),
      Token.variableNames_cons_of_ne (by simp [hc]), Pattern.namesOfEntries, Pattern.namesOfEntries,
      List.append_nil]
  | .more _ he hp hc hm =>
    rw [Token.variableNames_cons_key _ he,
      hp.variableNames_eq (Token.beginsWithEquals_cons (by simp [hc])),
      Token.variableNames_cons_of_ne (by simp [hc]), hm.variableNames_eq, Pattern.namesOfEntries,
      List.append_assoc]

end

end Derivation

/-- The names that a pattern binds are those that its tokens show as variables. -/
theorem Pattern.variableNames_of_ofTokens {source : Reading.Source} {tokens : List Token}
    {p : Pattern} (h : Pattern.ofTokens source tokens = .ok p) :
    p.variableNames = Token.variableNames tokens := by
  have hderives := (Reading.ofTokens_eq_ok.mp h).variableNames_eq rfl
  rw [hderives]
  exact (List.append_nil _).symm

/-- A text that compiles binds the names that stand in its pattern part, in their order there and
with their repetitions. Names before an equals sign are keys and do not count, nor does the name that
keeps no value. -/
theorem compile_variableNames {text : String} {compiled : Compiled}
    (h : compile text = .ok compiled) :
    ∃ t tokens, Template.ofText text.toList = .ok t ∧ Token.scan t.patternCells = .ok tokens ∧
      compiled.tree.variableNames = Token.variableNames tokens := by
  obtain ⟨t, tokens, ht, hs, hp, -⟩ := readPattern_eq_ok (compile_eq_ok_iff.mp h).1
  exact ⟨t, tokens, ht, hs, Pattern.variableNames_of_ofTokens hp⟩

/-- Keys, a repeated name, a discarded value, captures and a tail, before a condition. -/
theorem compile_variableNames_record :
    ∃ compiled t tokens,
      compile "\x7bk = [a, _ | b], 'q' = /(.)/ [_, a]\x7d when a" = .ok compiled ∧
      Template.ofText "\x7bk = [a, _ | b], 'q' = /(.)/ [_, a]\x7d when a".toList = .ok t ∧
      Token.scan t.patternCells = .ok tokens ∧
      compiled.tree.variableNames = Token.variableNames tokens ∧
      compiled.tree.variableNames = ["a", "b", "a"] := by
  -- only the names are computed, since trees cannot be compared
  have hnames : (readPattern "\x7bk = [a, _ | b], 'q' = /(.)/ [_, a]\x7d when a").toOption.map
      (fun read => read.1.variableNames) = some ["a", "b", "a"] := by
    decide +kernel
  obtain ⟨⟨tree, condition⟩, hr, hn⟩ := Option.map_eq_some_iff.mp hnames
  have h := compile_of_readPattern (Run.toOption_eq_some.mp hr)
  obtain ⟨t, tokens, ht, hs, hnames⟩ := compile_variableNames h
  exact ⟨_, t, tokens, h, ht, hs, hnames, hn⟩

end Destructure
