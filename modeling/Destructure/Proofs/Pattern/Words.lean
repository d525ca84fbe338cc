import Mathlib.Data.List.Chain
import Destructure.Proofs.Number.Render
import Destructure.Proofs.Pattern.Subpattern
import Destructure.Token

namespace Destructure

open Pattern (quoteText)

def Payload.written : Payload → List Char
  | .text value => quoteText value
  | .number value => value.render
  | .regex source ignoreCase => '/' :: source ++ '/' :: (if ignoreCase then ['i'] else [])

def fitsSlashes : (escaping : Bool) → List Char → Bool
  | escaping, [] => !escaping
  | true, _ :: cs => fitsSlashes false cs
  | false, c :: cs => if c = '\\' then fitsSlashes true cs else c != '/' && fitsSlashes false cs

def Payload.IsLifted : Payload → Prop
  | .text _ => True
  | .number n => n.isWritable = true ∧ ∀ x, n = .float x → x.isNaN = false
  | .regex source _ => fitsSlashes false source = true

def Payload.IsPlain (payload : Payload) : Prop :=
  payload.IsLifted ∧ ∀ n, payload = .number n → n.isFinite = true

inductive Word
  | mark (c : Char)
  | blank
  | dash
  | name (cs : List Char)
  | literal (payload : Payload)

namespace Word

def text : Word → List Char
  | .mark c => [c]
  | .blank => [' ']
  | .dash => ['-']
  | .name cs => cs
  | .literal payload => payload.written

def isSoft : Word → Bool
  | .mark _ | .blank => true
  | _ => false

def Meets (a b : Word) : Prop :=
  a.isSoft = true ∨ b.isSoft = true ∨ a = .dash ∧ ∃ cs, b = .name cs

def IsPlain : Word → Prop
  | .mark c => (Lexeme.punctuation? c).isSome = true
  | .blank | .dash => True
  | .name cs => Text.isName cs = true
  | .literal payload => payload.IsPlain

def SoftHeaded (ws : List Word) : Prop :=
  ∀ w ∈ ws.head?, w.isSoft = true

end Word

namespace Pattern

def numberWords (n : Number) : List Word :=
  match n with
  | .float x =>
    if x.isInfinite then (if x.negative then [.dash] else []) ++ [.name ['i', 'n', 'f']]
    else [.literal (.number n)]
  | .integer _ => [.literal (.number n)]

def regexWord (r : Regex) : Word :=
  .literal (.regex r.source.toList r.ignoreCase)

def keyWord (key : String) : Word :=
  if Text.isName key.toList then .name key.toList else .literal (.text key.toList)

def separator (first : Bool) (p : Pattern) : List Word :=
  if first then [] else if p.isTailVariable then [.blank] else [.mark ',', .blank]

mutual

def words : Pattern → List Word
  | .text value => [.literal (.text value.toList)]
  | .number value => numberWords value
  | .regex expression => [regexWord expression]
  | .variable name isTail =>
    (if isTail then [.mark '|', .blank] else []) ++ [.name name.toList]
  | .sequence elements => .mark '[' :: elementWords true elements ++ [.mark ']']
  | .mapping entries => .mark '\x7b' :: entryWords true entries ++ [.mark '\x7d']
  | .groups expression elements =>
    regexWord expression :: .blank :: .mark '[' :: elementWords true elements ++ [.mark ']']
  | .foreign _ => []

def elementWords : Bool → List Pattern → List Word
  | _, [] => []
  | first, element :: rest => separator first element ++ element.words ++ elementWords false rest

def entryWords : Bool → List (String × Pattern) → List Word
  | _, [] => []
  | first, (key, pattern) :: rest =>
    (if first then [] else [.mark ',', .blank]) ++
      keyWord key :: .blank :: .mark '=' :: .blank :: pattern.words ++ entryWords false rest

end

theorem words_groups (expression : Regex) (elements : List Pattern) :
    (groups expression elements).words =
      regexWord expression :: .blank :: (sequence elements).words :=
  rfl

theorem elementWords_append (first : Bool) (before after : List Pattern) :
    elementWords first (before ++ after) =
      elementWords first before ++ elementWords (first && before.isEmpty) after := by
  induction before generalizing first with
  | nil => rw [List.nil_append, elementWords, List.nil_append, List.isEmpty_nil, Bool.and_true]
  | cons e rest ih =>
    have hrest : (false && rest.isEmpty) = (first && (e :: rest).isEmpty) := by
      rw [List.isEmpty_cons, Bool.and_false, Bool.false_and]
    rw [List.cons_append, elementWords, elementWords, ih, hrest, List.append_assoc,
      List.append_assoc, List.append_assoc]

variable {P : Payload → Prop} {p : Pattern}

theorem isTailVariable_eq_false (h : p.IsRead P) : p.isTailVariable = false := by
  cases p with
  | «variable» name isTail => exact h.2
  | _ => rfl

section Text

def textOf (ws : List Word) : List Char :=
  ws.flatMap Word.text

theorem textOf_cons (w : Word) (ws : List Word) : textOf (w :: ws) = w.text ++ textOf ws :=
  rfl

theorem textOf_append (a b : List Word) : textOf (a ++ b) = textOf a ++ textOf b :=
  List.flatMap_append

theorem textOf_keyWord (key : String) : (keyWord key).text = describeKey key := by
  unfold keyWord describeKey
  split <;> rfl

theorem textOf_numberWords (n : Number) : textOf (numberWords n) = n.render := by
  have hliteral : textOf [.literal (.number n)] = n.render := List.append_nil _
  unfold numberWords
  split
  · rename_i x
    split
    · rename_i hi
      have hn : x.isNaN = false := by
        refine decide_eq_false ?_
        rw [eq_of_beq hi]
        exact Nat.lt_irrefl _
      change _ = x.render
      unfold Binary64.render
      rw [hn, hi]
      cases x.negative <;> rfl
    · exact hliteral
  · exact hliteral

theorem describeElements_eq (elements : List Pattern) :
    describeElements elements = elements.map describe := by
  induction elements with
  | nil => rfl
  | cons element rest ih => rw [describeElements, ih, List.map_cons]

variable {before : List Pattern}

/-- The elements of a sequence before its tail are separated by commas. -/
theorem textOf_elementWords (hb : ∀ e ∈ before, e.IsRead P ∧ textOf e.words = e.describe) :
    textOf (elementWords true before) = [',', ' '].intercalate (before.map describe) := by
  induction before with
  | nil => rfl
  | cons e rest ih =>
    obtain ⟨⟨-, he⟩, hr⟩ := List.forall_mem_cons.mp hb
    have hfirst : textOf (elementWords true (e :: rest)) =
        e.describe ++ textOf (elementWords false rest) := by
      rw [elementWords, textOf_append, textOf_append, he]
      rfl
    rw [hfirst]
    cases rest with
    | nil =>
      rw [List.map_cons, List.map_nil, List.intercalate_singleton]
      exact List.append_nil _
    | cons f rest =>
      obtain ⟨hf, -⟩ := List.forall_mem_cons.mp hr
      have hs : elementWords false (f :: rest) =
          .mark ',' :: .blank :: elementWords true (f :: rest) := by
        rw [elementWords, elementWords, separator, separator, isTailVariable_eq_false hf.1]
        rfl
      have hi : [',', ' '].intercalate ((e :: f :: rest).map describe) =
          e.describe ++ [',', ' '] ++ [',', ' '].intercalate ((f :: rest).map describe) :=
        List.intercalate_cons_cons
      rw [hs, textOf_cons, textOf_cons, ih hr, hi, List.append_assoc]
      rfl

theorem endsInTail_ofTail (hb : ∀ e ∈ before, e.IsRead P) (tail : Option String) :
    endsInTail (before ++ ofTail tail) = tail.isSome := by
  cases tail with
  | some name => rw [ofTail, endsInTail, List.getLast?_concat]; rfl
  | none =>
    rw [ofTail, List.append_nil, endsInTail]
    cases hl : before.getLast? with
    | none => rfl
    | some e => exact isTailVariable_eq_false (hb e (List.mem_of_getLast? hl))

/-- A tail stands behind a blank, unless it is all of the sequence. -/
theorem textOf_tail (name : String) :
    textOf (elementWords before.isEmpty (ofTail (some name))) =
      if before.map describe = [] then describe (.variable name true)
      else ' ' :: describe (.variable name true) := by
  cases before <;>
    simp [textOf, elementWords, separator, words, describe, ofTail, isTailVariable, Word.text]

/-- The text of a sequence in words. -/
theorem textOf_sequence (tail : Option String)
    (hb : ∀ e ∈ before, e.IsRead P ∧ textOf e.words = e.describe) :
    textOf (sequence (before ++ ofTail tail)).words = (sequence (before ++ ofTail tail)).describe := by
  have hw := textOf_elementWords hb
  rw [describe, endsInTail_ofTail (fun e hm => (hb e hm).1), describeElements_eq, words,
    List.cons_append, textOf_cons, textOf_append, elementWords_append, textOf_append, hw,
    List.map_append, Bool.true_and]
  cases tail with
  | none =>
    rw [ofTail, List.map_nil, List.append_nil, elementWords]
    exact congrArg (fun text => '[' :: (text ++ [']'])) (List.append_nil _)
  | some name =>
    rw [textOf_tail, ofTail, List.map_cons, List.map_nil, describeSequence, Option.isSome_some,
      if_pos rfl]
    dsimp only
    rw [List.dropLast_concat, List.getLastD_concat]
    rfl

/-- The text of a mapping in words. -/
theorem textOf_entryWords {entries : List (String × Pattern)}
    (he : ∀ entry ∈ entries, textOf entry.2.words = entry.2.describe) :
    textOf (entryWords true entries) = [',', ' '].intercalate (describeEntries entries) := by
  induction entries with
  | nil => rfl
  | cons entry rest ih =>
    obtain ⟨key, p⟩ := entry
    obtain ⟨hp, hr⟩ := List.forall_mem_cons.mp he
    have hfirst : textOf (entryWords true ((key, p) :: rest)) =
        describeKey key ++ ' ' :: '=' :: ' ' :: p.describe ++ textOf (entryWords false rest) := by
      rw [entryWords, textOf_append, textOf_append, textOf_cons, textOf_keyWord, textOf_cons,
        textOf_cons, textOf_cons, hp]
      rfl
    rw [hfirst]
    cases rest with
    | nil =>
      rw [describeEntries, describeEntries, List.intercalate_singleton]
      exact List.append_nil _
    | cons next rest =>
      obtain ⟨other, q⟩ := next
      have hs : entryWords false ((other, q) :: rest) =
          .mark ',' :: .blank :: entryWords true ((other, q) :: rest) :=
        rfl
      have hi : [',', ' '].intercalate (describeEntries ((key, p) :: (other, q) :: rest)) =
          describeKey key ++ ' ' :: '=' :: ' ' :: p.describe ++ [',', ' '] ++
            [',', ' '].intercalate (describeEntries ((other, q) :: rest)) :=
        List.intercalate_cons_cons
      rw [hs, textOf_cons, textOf_cons, ih hr, hi, List.append_assoc _ [',', ' ']]
      rfl

/-- The words of a pattern are what it is written with. -/
theorem textOf_words (h : p.IsRead P) : textOf p.words = p.describe := by
  refine induction_isRead (motive := fun p => textOf p.words = p.describe)
    ?_ ?_ ?_ ?_ ?_ ?_ ?_ p h
  · exact fun value _ => List.append_nil _
  · exact fun value _ => textOf_numberWords value
  · exact fun expression _ => List.append_nil _
  · exact fun name _ => List.append_nil _
  · exact fun before tail hb _ => textOf_sequence tail hb
  · intro entries _ he
    rw [words, List.cons_append, textOf_cons, textOf_append,
      textOf_entryWords fun entry hm => (he entry hm).2]
    rfl
  · intro expression before tail _ ih
    rw [words_groups, textOf_cons, textOf_cons, ih]
    rfl

end Text

section Forall

variable {C : Word → Prop}

theorem forall_elementWords (hmark : ∀ c, (Lexeme.punctuation? c).isSome = true → C (.mark c))
    (hblank : C .blank) {elements : List Pattern} (he : ∀ e ∈ elements, ∀ w ∈ e.words, C w)
    (first : Bool) : ∀ w ∈ elementWords first elements, C w := by
  induction elements generalizing first with
  | nil => exact fun w hw => nomatch hw
  | cons e rest ih =>
    obtain ⟨he, hr⟩ := List.forall_mem_cons.mp he
    refine List.forall_mem_append.mpr ⟨List.forall_mem_append.mpr ⟨?_, he⟩, ih hr false⟩
    unfold separator
    cases first <;> cases e.isTailVariable <;> simp [hblank, hmark ',' rfl]

theorem forall_entryWords (hmark : ∀ c, (Lexeme.punctuation? c).isSome = true → C (.mark c))
    (hblank : C .blank) (hkey : ∀ key, C (keyWord key)) {entries : List (String × Pattern)}
    (he : ∀ entry ∈ entries, ∀ w ∈ entry.2.words, C w) (first : Bool) :
    ∀ w ∈ entryWords first entries, C w := by
  induction entries generalizing first with
  | nil => exact fun w hw => nomatch hw
  | cons entry rest ih =>
    obtain ⟨key, p⟩ := entry
    obtain ⟨he, hr⟩ := List.forall_mem_cons.mp he
    refine List.forall_mem_append.mpr ⟨List.forall_mem_append.mpr ⟨?_, ?_⟩, ih hr false⟩
    · cases first <;> simp [hblank, hmark ',' rfl]
    · simp only [List.forall_mem_cons]
      exact ⟨hkey key, hblank, hmark '=' rfl, hblank, he⟩

/-- What holds of marks, blanks, names and literals holds of the words of a pattern. -/
theorem forall_words (hmark : ∀ c, (Lexeme.punctuation? c).isSome = true → C (.mark c))
    (hblank : C .blank) (hname : ∀ cs, Text.isName cs = true → C (.name cs))
    (htext : ∀ value, C (.literal (.text value)))
    (hnumber : ∀ n, P (.number n) → ∀ w ∈ numberWords n, C w)
    (hregex : ∀ source ignoreCase, P (.regex source ignoreCase) →
      C (.literal (.regex source ignoreCase))) (h : p.IsRead P) : ∀ w ∈ p.words, C w := by
  have hone {w : Word} (hw : C w) : ∀ v ∈ [w], C v := by
    intro v hv
    rwa [List.mem_singleton.mp hv]
  have hkey (key : String) : C (keyWord key) := by
    unfold keyWord
    split
    · exact hname _ ‹_›
    · exact htext _
  refine induction_isRead (motive := fun p => ∀ w ∈ p.words, C w) ?_ ?_ ?_ ?_ ?_ ?_ ?_ p h
  · exact fun value _ => hone (htext _)
  · exact hnumber
  · exact fun expression he => hone (hregex _ _ he.2)
  · exact fun name hn => hone (hname _ hn)
  · intro before tail hb ht
    have he : ∀ e ∈ before ++ ofTail tail, ∀ w ∈ e.words, C w := by
      refine List.forall_mem_append.mpr ⟨fun e hm => (hb e hm).2, ?_⟩
      cases tail with
      | none => exact fun e hm => (nomatch hm)
      | some name =>
        intro e hm
        rw [List.mem_singleton.mp hm]
        exact List.forall_mem_cons.mpr ⟨hmark '|' rfl, List.forall_mem_cons.mpr
          ⟨hblank, hone (hname _ (ht name rfl))⟩⟩
    exact List.forall_mem_cons.mpr ⟨hmark '[' rfl, List.forall_mem_append.mpr
      ⟨forall_elementWords hmark hblank he true, hone (hmark ']' rfl)⟩⟩
  · intro entries _ he
    exact List.forall_mem_cons.mpr ⟨hmark '\x7b' rfl, List.forall_mem_append.mpr
      ⟨forall_entryWords hmark hblank hkey (fun entry hm => (he entry hm).2) true,
        hone (hmark '\x7d' rfl)⟩⟩
  · intro expression before tail he ih
    exact List.forall_mem_cons.mpr ⟨hregex _ _ he.2, List.forall_mem_cons.mpr ⟨hblank, ih⟩⟩

end Forall

/-- A number that is not infinite is one literal. -/
theorem numberWords_of_isFinite {n : Number} (h : n.isFinite = true) :
    numberWords n = [.literal (.number n)] := by
  unfold numberWords
  split
  · rename_i x
    have hi : x.isInfinite = false := (Binary64.isFinite_iff.mp h).2
    rw [hi, if_neg Bool.false_ne_true]
  · rfl

theorem isPlain_numberWords {n : Number} (h : (Payload.number n).IsLifted) :
    ∀ w ∈ numberWords n, w.IsPlain := by
  by_cases hf : n.isFinite = true
  · intro w hw
    rw [numberWords_of_isFinite hf] at hw
    rw [List.mem_singleton.mp hw]
    refine ⟨h, fun m hm => ?_⟩
    cases hm
    exact hf
  · cases n with
    | integer k => exact absurd rfl hf
    | float x =>
      have hi : x.isInfinite = true := by
        by_contra hi
        exact hf (Binary64.isFinite_iff.mpr ⟨h.2 x rfl, Bool.eq_false_iff.mpr hi⟩)
      rw [numberWords, if_pos hi]
      refine List.forall_mem_append.mpr ⟨fun w hw => ?_, fun w hw => ?_⟩
      · split at hw
        · rw [List.mem_singleton.mp hw]
          trivial
        · cases hw
      · rw [List.mem_singleton.mp hw]
        rfl

/-- The words of a pattern that has been read from a pattern text. -/
theorem isPlain_words (h : p.IsRead Payload.IsLifted) : ∀ w ∈ p.words, w.IsPlain :=
  forall_words (fun _ hc => hc) trivial (fun _ hn => hn)
    (fun _ => ⟨trivial, fun _ hn => nomatch hn⟩) (fun _ hn => isPlain_numberWords hn)
    (fun _ _ hr => ⟨hr, fun _ hn => nomatch hn⟩) h

/-- Only an infinite number needs a minus sign apart from its numeral. -/
theorem ne_dash_words (h : p.IsRead Payload.IsPlain) : ∀ w ∈ p.words, w ≠ .dash := by
  refine forall_words (fun _ _ h => nomatch h) (fun h => nomatch h) (fun _ _ h => nomatch h)
    (fun _ h => nomatch h) (fun n hn w hw => ?_) (fun _ _ _ h => nomatch h) h
  rw [numberWords_of_isFinite (hn.2 n rfl)] at hw
  rw [List.mem_singleton.mp hw]
  exact fun h => nomatch h

section Legible

open Word (Meets SoftHeaded)

variable {ws : List Word}

/-- A word before words that may follow any word. -/
theorem isChain_cons_of_softHeaded (w : Word) (hs : SoftHeaded ws) (hr : ws.IsChain Meets) :
    (w :: ws).IsChain Meets :=
  List.isChain_cons.mpr ⟨fun v hv => Or.inr (Or.inl (hs v hv)), hr⟩

/-- A mark or a blank before any words. -/
theorem isChain_soft {w : Word} (hw : w.isSoft = true) (hr : ws.IsChain Meets) :
    (w :: ws).IsChain Meets :=
  List.isChain_cons.mpr ⟨fun _ _ => Or.inl hw, hr⟩

theorem softHeaded_cons {w : Word} (hw : w.isSoft = true) : SoftHeaded (w :: ws) := by
  intro v hv
  cases hv
  exact hw

theorem isChain_numberWords (n : Number) (hs : SoftHeaded ws) (hr : ws.IsChain Meets) :
    (numberWords n ++ ws).IsChain Meets := by
  unfold numberWords
  split
  · rename_i x
    split
    · have hname := isChain_cons_of_softHeaded (.name ['i', 'n', 'f']) hs hr
      cases x.negative with
      | false => exact hname
      | true =>
        refine List.isChain_cons.mpr ⟨fun v hv => ?_, hname⟩
        cases hv
        exact Or.inr (Or.inr ⟨rfl, _, rfl⟩)
    · exact isChain_cons_of_softHeaded _ hs hr
  · exact isChain_cons_of_softHeaded _ hs hr

/-- The elements of a sequence are kept apart, if each of them is legible before a mark or blank. -/
theorem isChain_elementWords {elements : List Pattern}
    (he : ∀ e ∈ elements, ∀ ws, SoftHeaded ws → ws.IsChain Meets → (e.words ++ ws).IsChain Meets)
    (first : Bool) (hs : SoftHeaded ws) (hr : ws.IsChain Meets) :
    (elementWords first elements ++ ws).IsChain Meets ∧
      (first = false → SoftHeaded (elementWords first elements ++ ws)) := by
  induction elements generalizing first with
  | nil => exact ⟨hr, fun _ => hs⟩
  | cons e rest ih =>
    obtain ⟨he, hrest⟩ := List.forall_mem_cons.mp he
    obtain ⟨hc, hh⟩ := ih hrest false
    have hwords := he _ (hh rfl) hc
    rw [elementWords, List.append_assoc, List.append_assoc]
    cases first with
    | true => exact ⟨hwords, fun h => nomatch h⟩
    | false =>
      rw [separator]
      cases e.isTailVariable with
      | true => exact ⟨isChain_soft rfl hwords, fun _ => softHeaded_cons rfl⟩
      | false => exact ⟨isChain_soft rfl (isChain_soft rfl hwords), fun _ => softHeaded_cons rfl⟩

theorem isChain_entryWords {entries : List (String × Pattern)}
    (he : ∀ entry ∈ entries, ∀ ws, SoftHeaded ws → ws.IsChain Meets →
      (entry.2.words ++ ws).IsChain Meets)
    (first : Bool) (hs : SoftHeaded ws) (hr : ws.IsChain Meets) :
    (entryWords first entries ++ ws).IsChain Meets ∧
      (first = false → SoftHeaded (entryWords first entries ++ ws)) := by
  induction entries generalizing first with
  | nil => exact ⟨hr, fun _ => hs⟩
  | cons entry rest ih =>
    obtain ⟨key, p⟩ := entry
    obtain ⟨he, hrest⟩ := List.forall_mem_cons.mp he
    obtain ⟨hc, hh⟩ := ih hrest false
    have hwords := isChain_cons_of_softHeaded (keyWord key) (softHeaded_cons rfl)
      (isChain_soft (w := .blank) rfl (isChain_soft (w := .mark '=') rfl
        (isChain_soft (w := .blank) rfl (he _ (hh rfl) hc))))
    rw [entryWords, List.append_assoc, List.append_assoc]
    cases first with
    | true => exact ⟨hwords, fun h => nomatch h⟩
    | false => exact ⟨isChain_soft rfl (isChain_soft rfl hwords), fun _ => softHeaded_cons rfl⟩

/-- The words of a pattern do not run into one another. -/
theorem isChain_words (h : p.IsRead P) (hs : SoftHeaded ws) (hr : ws.IsChain Meets) :
    (p.words ++ ws).IsChain Meets := by
  revert ws
  refine induction_isRead (motive := fun p => ∀ {ws}, SoftHeaded ws → ws.IsChain Meets →
    (p.words ++ ws).IsChain Meets) ?_ ?_ ?_ ?_ ?_ ?_ ?_ p h
  · exact fun _ _ _ hs hr => isChain_cons_of_softHeaded _ hs hr
  · exact fun n _ _ hs hr => isChain_numberWords n hs hr
  · exact fun _ _ _ hs hr => isChain_cons_of_softHeaded _ hs hr
  · exact fun _ _ _ hs hr => isChain_cons_of_softHeaded _ hs hr
  · intro before tail hb ht ws hs hr
    have he : ∀ e ∈ before ++ ofTail tail, ∀ ws, SoftHeaded ws → ws.IsChain Meets →
        (e.words ++ ws).IsChain Meets := by
      refine List.forall_mem_append.mpr ⟨fun e hm ws hs hr => (hb e hm).2 hs hr, ?_⟩
      cases tail with
      | none => exact fun e hm => (nomatch hm)
      | some name =>
        intro e hm ws hs hr
        rw [List.mem_singleton.mp hm]
        exact isChain_soft rfl (isChain_soft rfl (isChain_cons_of_softHeaded _ hs hr))
    rw [words, List.cons_append, List.cons_append, List.append_assoc]
    exact isChain_soft rfl (isChain_elementWords he true (softHeaded_cons rfl)
      (isChain_soft rfl hr)).1
  · intro entries _ he ws hs hr
    rw [words, List.cons_append, List.cons_append, List.append_assoc]
    exact isChain_soft rfl (isChain_entryWords (fun entry hm _ hs hr => (he entry hm).2 hs hr)
      true (softHeaded_cons rfl) (isChain_soft rfl hr)).1
  · intro expression before tail _ ih ws hs hr
    rw [words_groups, List.cons_append, List.cons_append]
    exact isChain_cons_of_softHeaded _ (softHeaded_cons rfl) (isChain_soft rfl (ih hs hr))

end Legible

end Pattern

end Destructure
