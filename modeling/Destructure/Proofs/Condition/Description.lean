import Destructure.Condition.Describe
import Destructure.Proofs.Condition.Language
import Destructure.Proofs.Condition.Written
import Destructure.Proofs.Separation

/-!
Conditions that are described and read again. A description has parentheses around every operator
between two operands, so it does not matter how closely operators bind. Main statement: an expression
that has been read is read again from its description, unless it has a number that is infinite, which
is described by a word, or a text with a character that is described by its number.
-/

namespace Destructure

def Text.IsNumbered (c : Char) : Prop :=
  isPrintable c.toNat = false ∧ c ≠ '\n' ∧ c ≠ '\r' ∧ c ≠ '\t'

instance : DecidablePred Text.IsNumbered :=
  fun c => inferInstanceAs
    (Decidable (Text.isPrintable c.toNat = false ∧ c ≠ '\n' ∧ c ≠ '\r' ∧ c ≠ '\t'))

def Expression.lexemes : Expression → List Condition.Lexeme
  | .constant value => [.constant value]
  | .variable name => [.name name]
  | .negation operand => .negation :: operand.lexemes
  | .minus operand => .operator .sub :: operand.lexemes
  | .binary operator left right =>
    .openParen :: (left.lexemes ++ .operator operator :: right.lexemes ++ [.closeParen])

namespace Condition

section Quoted

variable {quote c : Char} {content : List Char}

theorem isQuote_quoteFor (content : List Char) : IsQuote (Text.quoteFor content) := by
  unfold Text.quoteFor
  split
  · exact Or.inr rfl
  · exact Or.inl rfl

theorem unescape?_escapeLetter? {letter : Char} (h : Text.escapeLetter? c = some letter) :
    Lifting.unescape? letter = some c := by
  unfold Text.escapeLetter? at h
  split at h
  · cases h
    rfl
  · cases h
    rfl
  · cases h
    rfl
  · cases h

theorem escapeLetter?_eq_none (hc : Text.IsNumbered c) : Text.escapeLetter? c = none := by
  unfold Text.escapeLetter?
  split
  · exact absurd rfl hc.2.1
  · exact absurd rfl hc.2.2.1
  · exact absurd rfl hc.2.2.2
  · rfl

/-- What is written for a character inside quotes is read as that character. -/
theorem quoted_quotedChar (hq : IsQuote quote) (hc : ¬ Text.IsNumbered c) (position : Int)
    {more : List Char} (hm : more ≠ []) :
    ∃ place, Token.quoted quote position (Text.quotedChar quote c ++ more) =
      (Token.quoted quote place more).map fun (content, length) =>
        (c :: content, length + (Text.quotedChar quote c).length) := by
  unfold Text.quotedChar
  split
  · rename_i hescaped
    have hself : Lifting.unescape? c = some c := by
      rcases hescaped with rfl | rfl
      · rcases hq with rfl | rfl
        · rfl
        · rfl
      · rfl
    exact ⟨_, Token.quoted_escape hq hself position more⟩
  · rename_i hplain
    cases hletter : Text.escapeLetter? c with
    | some letter =>
      exact ⟨_, Token.quoted_escape hq (unescape?_escapeLetter? hletter) position more⟩
    | none =>
      have hprintable : Text.isPrintable c.toNat = true := by
        rw [← Bool.not_eq_false]
        intro hp
        refine hc ⟨hp, ?_, ?_, ?_⟩
        · rintro rfl
          cases hletter
        · rintro rfl
          cases hletter
        · rintro rfl
          cases hletter
      dsimp only
      rw [if_pos hprintable]
      exact ⟨_, Token.quoted_plain (fun h => hplain (Or.inl h)) (fun h => hplain (Or.inr h))
        position hm⟩

/-- A quoted text is read back, if no character in it is shown by its number. -/
theorem quoted_content (hq : IsQuote quote) (hc : ∀ c ∈ content, ¬ Text.IsNumbered c)
    (position : Int) :
    Token.quoted quote position (content.flatMap (Text.quotedChar quote) ++ [quote]) =
      .ok (content, (content.flatMap (Text.quotedChar quote) ++ [quote]).length) := by
  induction content generalizing position with
  | nil => exact Token.quoted_quote quote position []
  | cons c rest ih =>
    obtain ⟨hfirst, hrest⟩ := List.forall_mem_cons.mp hc
    have hne : rest.flatMap (Text.quotedChar quote) ++ [quote] ≠ [] :=
      List.append_ne_nil_of_right_ne_nil _ (List.cons_ne_nil _ _)
    obtain ⟨place, hchar⟩ := quoted_quotedChar hq hfirst position hne
    have hlength (more : List Char) : (Text.quotedChar quote c ++ more).length =
        more.length + (Text.quotedChar quote c).length := by
      rw [List.length_append, Nat.add_comm]
    rw [List.flatMap_cons, List.append_assoc, hchar, ih hrest place, hlength]
    rfl

/-- A quoted text in which a character is shown by its number is rejected. -/
theorem quoted_numbered (hq : IsQuote quote) (hc : ∃ c ∈ content, Text.IsNumbered c)
    (position : Int) (more : List Char) :
    ∃ found, Token.quoted quote position
      (content.flatMap (Text.quotedChar quote) ++ quote :: more) = .error (some found) := by
  induction content generalizing position with
  | nil =>
    obtain ⟨c, hm, -⟩ := hc
    cases hm
  | cons c rest ih =>
    rw [List.flatMap_cons, List.append_assoc]
    by_cases hfirst : Text.IsNumbered c
    · have hplain : ¬ (c = quote ∨ c = '\\') := by
        rintro (rfl | rfl)
        · rcases hq with rfl | rfl
          · cases hfirst.1
          · cases hfirst.1
        · cases hfirst.1
      have hne : ¬ '\\' = quote := fun he => Token.ne_backslash_of_isQuote hq he.symm
      have hshown : ∃ d digits, Text.quotedChar quote c = '\\' :: d :: digits ∧
          Lifting.unescape? d = none := by
        rw [Text.quotedChar, if_neg hplain, escapeLetter?_eq_none hfirst]
        dsimp only
        rw [hfirst.1, if_neg Bool.false_ne_true, Text.numberEscape]
        split
        · exact ⟨_, _, rfl, rfl⟩
        · split
          · exact ⟨_, _, rfl, rfl⟩
          · exact ⟨_, _, rfl, rfl⟩
      obtain ⟨d, digits, hshown, hd⟩ := hshown
      rw [hshown, List.cons_append, List.cons_append, Token.quoted, if_neg hne, if_pos rfl, hd]
      exact ⟨_, rfl⟩
    · have hrest : ∃ c ∈ rest, Text.IsNumbered c := by
        obtain ⟨d, hm, hd⟩ := hc
        rcases List.mem_cons.mp hm with rfl | hm
        · exact absurd hd hfirst
        · exact ⟨d, hm, hd⟩
      have hne : rest.flatMap (Text.quotedChar quote) ++ quote :: more ≠ [] :=
        List.append_ne_nil_of_right_ne_nil _ (List.cons_ne_nil _ _)
      obtain ⟨place, hchar⟩ := quoted_quotedChar hq hfirst position hne
      obtain ⟨found, hfound⟩ := ih hrest place
      refine ⟨found, ?_⟩
      rw [hchar, hfound]
      rfl

end Quoted

section Scanned

variable {names : List String} {p : Int} {c : Char} {cs rest : List Char}

def Lexeme.IsScanned : Lexeme → Prop
  | .constant (.number (.integer k)) => 0 ≤ k ∧ (Number.integer k).isWritable = true
  | .constant (.number (.float x)) => x.negative = false ∧ x.isNaN = false
  | .name text => Text.isName text.toList = true ∧ ofWord text.toList = .name text
  | _ => True

theorem Lexeme.isScanned_ofWord {word : List Char} (h : Text.isName word = true) :
    (ofWord word).IsScanned := by
  cases hword : ofWord word with
  | name text =>
    have htext : text = String.ofList word := by
      unfold ofWord at hword
      split at hword
      all_goals cases hword
      rfl
    rw [htext, IsScanned, String.toList_ofList]
    exact ⟨h, htext ▸ hword⟩
  | constant value =>
    cases value with
    | boolean b => trivial
    | number n =>
      unfold ofWord at hword
      split at hword
      all_goals cases hword
    | text s => trivial
  | openParen | closeParen | negation | operator op => trivial

theorem isScanned_ofNumeral {n : Numeral} {lexeme : Lexeme}
    (hd : ∀ d ∈ n.whole, d.isDigit = true) (h : Token.ofNumeral n = .ok lexeme) :
    lexeme.IsScanned := by
  unfold Token.ofNumeral at h
  split at h
  · split at h
    · cases h
    · rename_i hlength
      cases h
      have hlt : n.toNat < Binary64.tenTo Number.maxDigits :=
        calc n.toNat < Binary64.tenTo n.whole.length := Numeral.valueOfDigits_lt hd
          _ ≤ Binary64.tenTo Number.maxDigits := Binary64.tenTo_le_tenTo (Nat.not_lt.mp hlength)
      exact ⟨Int.natCast_nonneg _, Number.isWritable_integer.mpr hlt⟩
  · cases h
    refine ⟨?_, Binary64.isNaN_ofDecimal ..⟩
    rw [Numeral.toBinary64, Binary64.ofDecimal_negative]

theorem isDigit_whole {n : Numeral} {after : List Char} (h : Numeral.split? cs = some (n, after)) :
    ∀ d ∈ n.whole, d.isDigit = true := by
  have hwhole : n.whole = cs.takeWhile Char.isDigit := by
    obtain ⟨more, -, -, rfl, -⟩ | ⟨-, -, rfl, -⟩ := Numeral.split?_cases h
    · rfl
    · rfl
  rw [hwhole]
  exact fun d hd => List.mem_takeWhile_imp hd

theorem isScanned_of_lexemeAt {lexeme : Lexeme} {length : Nat}
    (h : Token.lexemeAt p c rest = .ok (lexeme, length)) : lexeme.IsScanned := by
  cases Token.lexemeAt_eq_ok.mp h with
  | numeral hs hl => exact isScanned_ofNumeral (isDigit_whole hs) hl
  | word hc =>
    refine Lexeme.isScanned_ofWord ?_
    rw [Text.isName, hc, Bool.true_and]
    exact List.all_eq_true.mpr fun d hd => List.mem_takeWhile_imp hd
  | _ => trivial

theorem isScanned_of_scans {skip : Nat} {tokens : List Token} (h : Token.Scans skip p cs tokens) :
    ∀ t ∈ tokens, t.lexeme.IsScanned := by
  induction h with
  | nil => exact fun t ht => nomatch ht
  | skip h ih | blank hb h ih => exact ih
  | token hb hl h ih => exact List.forall_mem_cons.mpr ⟨isScanned_of_lexemeAt hl, ih⟩

/-- An expression is described with the lexemes from which it has been derived, apart from those that
say nothing by themselves. -/
theorem DerivesAt.isScanned_lexemes {layer : Layer} {e : Expression} {lexemes : List Lexeme}
    (h : DerivesAt names layer e lexemes) (hl : ∀ l ∈ lexemes, l.IsScanned) :
    ∀ l ∈ e.lexemes, l.IsScanned := by
  induction h with
  | next hn h ih => exact ih hl
  | join hn ho hleft hright ihl ihr =>
    obtain ⟨hfirst, hrest⟩ := List.forall_mem_append.mp hl
    have hlast := (List.forall_mem_cons.mp hrest).2
    refine List.forall_mem_cons.mpr ⟨trivial, List.forall_mem_append.mpr ⟨?_, ?_⟩⟩
    · exact List.forall_mem_append.mpr
        ⟨ihl hfirst, List.forall_mem_cons.mpr ⟨trivial, ihr hlast⟩⟩
    · exact List.forall_mem_singleton.mpr trivial
  | negation h ih =>
    exact List.forall_mem_cons.mpr ⟨trivial, ih (List.forall_mem_cons.mp hl).2⟩
  | minus h ih =>
    exact List.forall_mem_cons.mpr ⟨trivial, ih (List.forall_mem_cons.mp hl).2⟩
  | constant value => exact hl
  | «variable» hn => exact hl
  | parentheses h ih =>
    exact ih (List.forall_mem_append.mp (List.forall_mem_cons.mp hl).2).1

/-- The description of an expression with known names is an expression again, the same one. -/
theorem derivesAt_lexemes {e : Expression} (h : ∀ name ∈ e.names, name ∈ names) :
    DerivesAt names .signed e e.lexemes := by
  induction e with
  | constant value => exact .next rfl (.constant value)
  | «variable» name => exact .next rfl (.variable (h name (List.mem_singleton_self _)))
  | negation operand ih => exact .negation (ih h)
  | minus operand ih => exact .minus (ih h)
  | binary op left right ihl ihr =>
    obtain ⟨hleft, hright⟩ := List.forall_mem_append.mp h
    obtain ⟨layer, tighter, ho, hn⟩ := Layer.exists_mem_operators op
    have hrank := Layer.rank_lt_of_mem_operators ho
    have htighter := Layer.rank_of_next? hn
    have hjoined : DerivesAt names layer (.binary op left right)
        (left.lexemes ++ .operator op :: right.lexemes) :=
      .join hn ho ((ihl hleft).loosen (by omega)) ((ihr hright).loosen (by omega))
    have hpositive : Layer.disjunction.rank ≤ layer.rank := by
      cases layer <;> decide
    exact .next rfl (.parentheses (hjoined.loosen hpositive))

end Scanned

section Description

variable {names : List String} {e : Expression} {rest : List Char}

def Lexeme.reread : Lexeme → Lexeme
  | .constant (.number (.float x)) =>
    if x.isInfinite then .name "inf" else .constant (.number (.float x))
  | l => l

def IsBoundary (rest : List Char) : Prop :=
  ∀ c ∈ rest.head?, Text.isNameChar c = false ∧ Lifting.isNumberChar c = false

theorem isBoundary_nil : IsBoundary [] :=
  fun _ hc => nomatch hc

theorem isBoundary_blank (rest : List Char) : IsBoundary (' ' :: rest) := by
  intro c hc
  cases hc
  decide

theorem isBoundary_closeParen (rest : List Char) : IsBoundary (')' :: rest) := by
  intro c hc
  cases hc
  decide

def HasNumbered : Constant → Prop
  | .text s => ∃ c ∈ s.toList, Text.IsNumbered c
  | _ => False

open Destructure.Condition.Token (ReadsAs IsRefused)

theorem readsAs_integer {k : Int} (hs : 0 ≤ k ∧ (Number.integer k).isWritable = true)
    (hr : IsBoundary rest) :
    ReadsAs (Number.integer k).render rest [.constant (.number (.integer k))] := by
  have hlength : ¬ Number.maxDigits < (Binary64.digitsOf k.natAbs).length :=
    Nat.not_lt_of_le (Number.length_digitsOf_le (Number.isWritable_integer.mp hs.2) (by decide))
  have hread : Token.ofNumeral ⟨Binary64.digitsOf k.natAbs, false, [], none⟩ =
      .ok (.constant (.number (.integer k))) := by
    have hvalue : Numeral.valueOfDigits (Binary64.digitsOf k.natAbs) = k.natAbs :=
      Numeral.valueOfDigits_toDigits _
    have hk : (k.natAbs : Int) = k := Int.natAbs_of_nonneg hs.1
    have hwhole : (⟨Binary64.digitsOf k.natAbs, false, [], none⟩ : Numeral).isWhole = true := rfl
    rw [Token.ofNumeral, hwhole, if_pos rfl, if_neg hlength, Numeral.toNat, hvalue, hk]
  have hsign : decide (k < 0) = false := decide_eq_false (Int.not_lt.mpr hs.1)
  rw [Number.render_integer, hsign]
  exact Token.readsAs_numeral (Number.split?_digitsOf _) (fun c hc => (hr c hc).2) hread

theorem readsAs_float {x : Binary64} (hs : x.negative = false ∧ x.isNaN = false)
    (hr : IsBoundary rest) :
    ReadsAs (Number.float x).render rest [Lexeme.reread (.constant (.number (.float x)))] := by
  rw [Lexeme.reread]
  cases hi : x.isInfinite with
  | true =>
    have hrender : (Number.float x).render = ['i', 'n', 'f'] := by
      change x.render = _
      rw [Binary64.render, hs.1, hs.2, hi]
      rfl
    have hword : ∀ d ∈ ['n', 'f'], Text.isNameChar d = true := List.all_eq_true.mp rfl
    rw [hrender]
    exact Token.readsAs_word (by decide) hword fun c hc => (hr c hc).1
  | false =>
    have hfinite : x.isFinite = true := Binary64.isFinite_iff.mpr ⟨hs.2, hi⟩
    obtain ⟨digits, exponent, ⟨n, hsplit, -, hwhole, hvalue⟩, hx⟩ :=
      Binary64.spells_renderFinite hfinite
    have hread : Token.ofNumeral n = .ok (.constant (.number (.float x))) := by
      rw [Token.ofNumeral, hwhole, if_neg Bool.false_ne_true, hvalue, ← hs.1, hx]
    rw [Number.render_float hfinite, hs.1]
    exact Token.readsAs_numeral hsplit (fun c hc => (hr c hc).2) hread

theorem describe_text (s : String) :
    (Constant.text s).describe = Text.quoteFor s.toList ::
      (s.toList.flatMap (Text.quotedChar (Text.quoteFor s.toList)) ++ [Text.quoteFor s.toList]) :=
  rfl

/-- A constant is read from its description. -/
theorem readsAs_constant {value : Constant} (hs : (Lexeme.constant value).IsScanned)
    (hp : ¬ HasNumbered value) (hr : IsBoundary rest) :
    ReadsAs value.describe rest [(Lexeme.constant value).reread] := by
  have hname (c : Char) (hc : c ∈ rest.head?) := (hr c hc).1
  match value with
  | .number (.integer k) => exact readsAs_integer hs hr
  | .number (.float x) => exact readsAs_float hs hr
  | .text s =>
    have hplain : ∀ c ∈ s.toList, ¬ Text.IsNumbered c := fun c hc hn => hp ⟨c, hc, hn⟩
    have hquote := isQuote_quoteFor s.toList
    have hread := Token.readsAs_quoted hquote (quoted_content hquote hplain 0) rest
    rw [String.ofList_toList] at hread
    rw [describe_text]
    exact hread
  | .boolean true =>
    have hword : ∀ d ∈ ['r', 'u', 'e'], Text.isNameChar d = true := List.all_eq_true.mp rfl
    exact Token.readsAs_word (by decide) hword hname
  | .boolean false =>
    have hword : ∀ d ∈ ['a', 'l', 's', 'e'], Text.isNameChar d = true := List.all_eq_true.mp rfl
    exact Token.readsAs_word (by decide) hword hname

theorem isRefused_constant {value : Constant} (hp : HasNumbered value) (rest : List Char) :
    IsRefused value.describe rest := by
  match value with
  | .text s =>
    have hquote := isQuote_quoteFor s.toList
    rw [describe_text]
    refine Token.isRefused_quoted hquote fun position => ?_
    rw [List.append_assoc]
    exact quoted_numbered hquote hp position rest

theorem readsAs_name {name : String} (hs : (Lexeme.name name).IsScanned) (hr : IsBoundary rest) :
    ReadsAs name.toList rest [.name name] := by
  obtain ⟨hname, hword⟩ := hs
  rw [← hword]
  cases hl : name.toList with
  | nil =>
    rw [hl] at hname
    cases hname
  | cons c word =>
    rw [hl, Text.isName, Bool.and_eq_true, List.all_eq_true] at hname
    exact Token.readsAs_word hname.1 hname.2 fun c hc => (hr c hc).1

theorem describe_binary (op : Operator) (left right : Expression) :
    (Expression.binary op left right).describe =
      ['('] ++ (left.describe ++ ([' '] ++ (op.text.toList ++ ([' '] ++ (right.describe ++ [')']))))) := by
  simp [Expression.describe]

theorem describe_negation (operand : Expression) :
    (Expression.negation operand).describe = ['n', 'o', 't'] ++ ([' '] ++ operand.describe) :=
  rfl

theorem describe_minus (operand : Expression) :
    (Expression.minus operand).describe = ['-'] ++ operand.describe :=
  rfl

/-- An expression without characters that are shown by their number is read from its description,
apart from infinity. -/
theorem readsAs_describe (hs : ∀ l ∈ e.lexemes, l.IsScanned)
    (hp : ∀ value ∈ e.constants, ¬ HasNumbered value) (rest : List Char) (hr : IsBoundary rest) :
    ReadsAs e.describe rest (e.lexemes.map Lexeme.reread) := by
  induction e generalizing rest with
  | constant value =>
    exact readsAs_constant (hs _ (List.mem_singleton_self _)) (hp _ (List.mem_singleton_self _)) hr
  | «variable» name => exact readsAs_name (hs _ (List.mem_singleton_self _)) hr
  | negation operand ih =>
    have hoperand := ih (List.forall_mem_cons.mp hs).2 hp rest hr
    rw [describe_negation]
    exact (Token.readsAs_not _).append ((Token.readsAs_blank _).append hoperand)
  | minus operand ih =>
    have hoperand := ih (List.forall_mem_cons.mp hs).2 hp rest hr
    rw [describe_minus]
    exact (Token.readsAs_minus _).append hoperand
  | binary op left right ihl ihr =>
    obtain ⟨hsl, hsr⟩ := List.forall_mem_append.mp
      (List.forall_mem_append.mp (List.forall_mem_cons.mp hs).2).1
    obtain ⟨hpl, hpr⟩ := List.forall_mem_append.mp hp
    have hright := ihr (List.forall_mem_cons.mp hsr).2 hpr _ (isBoundary_closeParen rest)
    have hclosed := hright.append (Token.readsAs_closeParen rest)
    have hbehind := (Token.readsAs_operator op _).append ((Token.readsAs_blank _).append hclosed)
    have hleft := ihl hsl hpl _ (isBoundary_blank
      (op.text.toList ++ ([' '] ++ (right.describe ++ [')'])) ++ rest))
    have hall := (Token.readsAs_openParen _).append
      (hleft.append ((Token.readsAs_blank _).append hbehind))
    rw [describe_binary]
    simpa [Expression.lexemes, Lexeme.reread] using hall

/-- An expression with a character that is shown by its number is not read from its description. -/
theorem isRefused_describe (hs : ∀ l ∈ e.lexemes, l.IsScanned)
    (hp : ∃ value ∈ e.constants, HasNumbered value) (rest : List Char) :
    IsRefused e.describe rest := by
  induction e generalizing rest with
  | constant value =>
    obtain ⟨found, hm, hn⟩ := hp
    exact isRefused_constant (List.mem_singleton.mp hm ▸ hn) rest
  | «variable» name =>
    obtain ⟨found, hm, -⟩ := hp
    cases hm
  | negation operand ih =>
    have hoperand := ih (List.forall_mem_cons.mp hs).2 hp rest
    rw [describe_negation]
    exact (Token.readsAs_not _).isRefused ((Token.readsAs_blank _).isRefused hoperand)
  | minus operand ih =>
    have hoperand := ih (List.forall_mem_cons.mp hs).2 hp rest
    rw [describe_minus]
    exact (Token.readsAs_minus _).isRefused hoperand
  | binary op left right ihl ihr =>
    obtain ⟨hsl, hsr⟩ := List.forall_mem_append.mp
      (List.forall_mem_append.mp (List.forall_mem_cons.mp hs).2).1
    rw [describe_binary]
    refine (Token.readsAs_openParen _).isRefused ?_
    by_cases hleft : ∃ value ∈ left.constants, HasNumbered value
    · exact (ihl hsl hleft _).append_left
    · have hplain : ∀ value ∈ left.constants, ¬ HasNumbered value :=
        fun value hm hn => hleft ⟨value, hm, hn⟩
      have hright : ∃ value ∈ right.constants, HasNumbered value := by
        obtain ⟨value, hm, hn⟩ := hp
        rcases List.mem_append.mp hm with hm | hm
        · exact absurd hn (hplain value hm)
        · exact ⟨value, hm, hn⟩
      have hrefused := (ihr (List.forall_mem_cons.mp hsr).2 hright ([')'] ++ rest)).append_left
      refine (readsAs_describe hsl hplain _ (isBoundary_blank _)).isRefused ?_
      exact (Token.readsAs_blank _).isRefused
        ((Token.readsAs_operator op _).isRefused ((Token.readsAs_blank _).isRefused hrefused))

/-- No constant that is read from a description is infinite. -/
theorem isInfinite_of_reread {l : Lexeme} {x : Binary64}
    (h : l.reread.constant? = some (.number (.float x))) : x.isInfinite = false := by
  unfold Lexeme.reread at h
  split at h
  · split at h
    · cases h
    · rename_i hx
      cases h
      exact Bool.eq_false_iff.mpr hx
  · rename_i hother
    match l with
    | .constant value =>
      cases h
      exact absurd rfl (hother x)

theorem reread_eq_self {l : Lexeme}
    (h : ∀ x, l = .constant (.number (.float x)) → x.isInfinite = false) : l.reread = l := by
  unfold Lexeme.reread
  split
  · rename_i x
    rw [h x rfl, if_neg Bool.false_ne_true]
  · rfl

variable {text : List Char} {place : Int} {condition : Condition}

/-- An expression that has been read is read again from its description exactly if none of its numbers
is infinite and none of its texts has a character that is shown by its number. -/
theorem ofText_describe (h : Condition.ofText names text place = .ok condition) (again : Int) :
    (∃ other, Condition.ofText names condition.expression.describe again = .ok other ∧
      other.expression = condition.expression) ↔
    (∀ x, .number (.float x) ∈ condition.expression.constants → x.isInfinite = false) ∧
      ∀ s, .text s ∈ condition.expression.constants → ∀ c ∈ s.toList, ¬ Text.IsNumbered c := by
  obtain ⟨tokens, e, hscan, hparse, rfl⟩ := ofText_eq_ok.mp h
  have hread := parse_eq_ok.mp hparse
  have hscanned : ∀ l ∈ e.lexemes, l.IsScanned :=
    hread.isScanned_lexemes (List.forall_mem_map.mpr (isScanned_of_scans (Token.scanFrom_eq_ok.mp hscan)))
  have hsigned : DerivesAt names .signed e e.lexemes :=
    derivesAt_lexemes fun name hm => names_parse hparse hm
  have hderives : DerivesAt names .disjunction e e.lexemes := hsigned.loosen (by decide)
  constructor
  · rintro ⟨other, hagain, he⟩
    obtain ⟨tokens', e', hscan', hparse', rfl⟩ := ofText_eq_ok.mp hagain
    obtain rfl : e' = e := he
    have hplain : ∀ value ∈ e'.constants, ¬ HasNumbered value := by
      intro value hm hn
      obtain ⟨failure, hf⟩ := (isRefused_describe hscanned ⟨value, hm, hn⟩ []).scan again
      cases hf.symm.trans hscan'
    obtain ⟨moved, hmoved, hlexemes⟩ :=
      (readsAs_describe hscanned hplain [] isBoundary_nil).scan again
    obtain rfl : moved = tokens' := Except.ok.inj (hmoved.symm.trans hscan')
    have hconstants := (parse_eq_ok.mp hparse').constants_eq
    rw [hlexemes] at hconstants
    refine ⟨fun x hx => ?_, fun s hs c hc hn => hplain _ hs ⟨c, hc, hn⟩⟩
    rw [hconstants] at hx
    obtain ⟨l, hl, hconstant⟩ := List.mem_filterMap.mp hx
    obtain ⟨shown, -, rfl⟩ := List.mem_map.mp hl
    exact isInfinite_of_reread hconstant
  · rintro ⟨hfinite, htexts⟩
    have hplain : ∀ value ∈ e.constants, ¬ HasNumbered value := by
      rintro value hm hn
      match value with
      | .text s =>
        obtain ⟨c, hc, hn⟩ := hn
        exact htexts s hm c hc hn
    have hsame : e.lexemes.map Lexeme.reread = e.lexemes := by
      refine (List.map_congr_left fun l hl => reread_eq_self fun x hx => hfinite x ?_).trans
        (List.map_id _)
      rw [hderives.constants_eq]
      exact List.mem_filterMap.mpr ⟨l, hl, by rw [hx]; rfl⟩
    obtain ⟨moved, hmoved, hlexemes⟩ :=
      (readsAs_describe hscanned hplain [] isBoundary_nil).scan again
    refine ⟨⟨_, e⟩, ofText_eq_ok.mpr ⟨moved, e, hmoved, parse_eq_ok.mpr ?_, rfl⟩, rfl⟩
    rw [hlexemes, hsame]
    exact hderives

/-- Signs and quotes are kept, whereas a number that is too large for a float is not. -/
theorem ofText_describe_signs :
    (∃ condition other, Condition.ofText ["n"] "not - -n == \"it's\"".toList 0 = .ok condition ∧
      Condition.ofText ["n"] condition.expression.describe 0 = .ok other ∧
        other.expression = condition.expression) ∧
    ∃ condition, Condition.ofText ["n"] "n < 1e999".toList 0 = .ok condition ∧
      ¬ ∃ other, Condition.ofText ["n"] condition.expression.describe 0 = .ok other ∧
        other.expression = condition.expression := by
  constructor
  · let e : Expression :=
      .binary .eq (.negation (.minus (.minus (.variable "n")))) (.constant (.text "it's"))
    have h : Condition.ofText ["n"] "not - -n == \"it's\"".toList 0 =
        .ok ⟨"not - -n == \"it's\"", e⟩ := by rfl
    obtain ⟨other, hagain, he⟩ := (ofText_describe h 0).mpr <| by
      have hconstants : e.constants = [.text "it's"] := rfl
      refine ⟨fun x hx => ?_, fun s hs => ?_⟩
      · rw [hconstants] at hx
        cases List.mem_singleton.mp hx
      · rw [hconstants] at hs
        cases List.mem_singleton.mp hs
        have hall : "it's".toList.all (fun c => decide (¬ Text.IsNumbered c)) = true := by decide
        exact fun c hc => of_decide_eq_true (List.all_eq_true.mp hall c hc)
    exact ⟨_, other, h, hagain, he⟩
  · let e : Expression :=
      .binary .lt (.variable "n") (.constant (.number (.float (Binary64.infinity false))))
    have h : Condition.ofText ["n"] "n < 1e999".toList 0 = .ok ⟨"n < 1e999", e⟩ := by rfl
    refine ⟨_, h, fun hagain => ?_⟩
    have hfinite := ((ofText_describe h 0).mp hagain).1 _ (List.mem_singleton_self _)
    cases hfinite

end Description

end Condition

end Destructure
