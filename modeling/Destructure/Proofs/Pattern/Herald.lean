import Destructure.Proofs.Pattern.Words

namespace Destructure

inductive Herald
  | silent
  | blank
  | word
  | heard
  deriving DecidableEq

namespace Herald

def after : Herald → Word → Herald
  | .heard, _ => .heard
  | .word, .blank => .heard
  | _, .blank => .blank
  | .blank, .name cs => if cs = ['w', 'h', 'e', 'n'] then .word else .silent
  | _, _ => .silent

def listen (h : Herald) (ws : List Word) : Herald :=
  ws.foldl after h

theorem listen_cons (h : Herald) (w : Word) (ws : List Word) :
    h.listen (w :: ws) = (h.after w).listen ws :=
  rfl

theorem listen_append (h : Herald) (a b : List Word) :
    h.listen (a ++ b) = (h.listen a).listen b :=
  List.foldl_append

theorem listen_heard (ws : List Word) : heard.listen ws = .heard := by
  induction ws with
  | nil => rfl
  | cons w ws ih => exact ih

/-- What is heard at the end is heard in the first part or behind it. -/
theorem listen_append_eq_heard {g : Herald} {a b : List Word} {Q : Prop}
    (hb : ∀ k, k ≠ heard → (k.listen b = .heard ↔ Q)) :
    g.listen (a ++ b) = .heard ↔ g.listen a = .heard ∨ Q := by
  rw [listen_append]
  by_cases hg : g.listen a = .heard
  · rw [hg, listen_heard]
    exact ⟨fun _ => Or.inl rfl, fun _ => rfl⟩
  · rw [hb _ hg]
    exact ⟨Or.inr, fun h => h.resolve_left hg⟩

theorem after_mark {h : Herald} (hh : h ≠ .heard) (c : Char) : h.after (.mark c) = .silent := by
  cases h <;> first | rfl | exact absurd rfl hh

end Herald

namespace Pattern

open Herald (listen listen_cons listen_append listen_append_eq_heard listen_heard after_mark)

def AnnouncesHere : Pattern → Prop
  | .mapping entries => "when" ∈ entries.tail.map Prod.fst
  | .sequence elements => ∃ before name, before ≠ [] ∧
      elements = before ++ [.variable "when" false, .variable name true]
  | _ => False

def Announces (p : Pattern) : Prop :=
  ∃ q ∈ p.subpatterns, q.AnnouncesHere

/-- A pattern announces no condition unless a mapping has the key `when` behind its first entry or a
sequence has the variable `when` between another element and its tail. -/
theorem not_announces_iff {p : Pattern} :
    ¬ p.Announces ↔
      (∀ first rest, .mapping (first :: rest) ∈ p.subpatterns → "when" ∉ rest.map Prod.fst) ∧
        ∀ before name, .sequence (before ++ [.variable "when" false, .variable name true]) ∈
          p.subpatterns → before = [] := by
  constructor
  · intro h
    refine ⟨fun first rest hm hw => h ⟨_, hm, hw⟩, fun before name hm => ?_⟩
    by_contra hb
    exact h ⟨_, hm, before, name, hb, rfl⟩
  · rintro ⟨hmapping, hsequence⟩ ⟨q, hm, hq⟩
    cases q with
    | mapping entries =>
      cases entries with
      | nil => cases hq
      | cons first rest => exact hmapping first rest hm hq
    | sequence elements =>
      obtain ⟨before, name, hb, rfl⟩ := hq
      exact hb (hsequence before name hm)
    | _ => cases hq

def echo (h : Herald) : Pattern → Herald
  | .variable name _ => if h = .blank ∧ name = "when" then .word else .silent
  | _ => .silent

def Sounds (p : Pattern) : Prop :=
  ∀ h, h = .silent ∨ h = .blank →
    (p.Announces → h.listen p.words = .heard) ∧ (¬ p.Announces → h.listen p.words = p.echo h)

theorem echo_ne_heard (h : Herald) (p : Pattern) : p.echo h ≠ .heard := by
  cases p with
  | «variable» name isTail =>
    rw [echo]
    split <;> decide
  | _ => exact fun h => nomatch h

variable {P : Payload → Prop} {p : Pattern}

theorem Sounds.listen_eq_heard (hp : p.Sounds) {h : Herald} (hh : h = .silent ∨ h = .blank) :
    h.listen p.words = .heard ↔ p.Announces := by
  constructor
  · intro he
    by_contra hn
    rw [(hp h hh).2 hn] at he
    exact echo_ne_heard h p he
  · exact (hp h hh).1

/-- A pattern without patterns inside it, none of whose words is more than a literal. -/
theorem sounds_of_leaf (hs : p.subpatterns = [p]) (hp : ¬ p.AnnouncesHere)
    (hw : ∀ h, h = .silent ∨ h = .blank → h.listen p.words = p.echo h) : p.Sounds := by
  intro h hh
  refine ⟨?_, fun _ => hw h hh⟩
  rintro ⟨q, hq, hq'⟩
  rw [hs] at hq
  rw [List.mem_singleton.mp hq] at hq'
  exact absurd hq' hp

theorem echo_eq_word (h : p.IsRead P) (g : Herald) :
    p.echo g = .word ↔ g = .blank ∧ p = .variable "when" false := by
  cases p with
  | «variable» name isTail =>
    obtain ⟨-, rfl⟩ := h
    rw [echo, Pattern.variable.injEq]
    constructor
    · intro he
      split at he
      · rename_i hg
        exact ⟨hg.1, hg.2, rfl⟩
      · cases he
    · rintro ⟨hg, hn, -⟩
      exact if_pos ⟨hg, hn⟩
  | _ => exact ⟨fun h => (nomatch h), fun h => (nomatch h.2)⟩

/-- A pattern between two marks. -/
theorem sounds_of_enclosed {o c : Char} {ws : List Word} (hw : p.words = .mark o :: ws ++ [.mark c])
    (hk : listen .silent ws = .heard ↔ p.Announces) (he : ∀ h, p.echo h = .silent) : p.Sounds := by
  intro h hh
  have hopen : h.after (.mark o) = .silent := by
    rcases hh with rfl | rfl <;> rfl
  rw [hw, List.cons_append, listen_cons, hopen, listen_append, he]
  constructor
  · intro ha
    rw [hk.mpr ha]
    rfl
  · intro hn
    exact after_mark (fun h => hn (hk.mp h)) c

section Elements

variable {before : List Pattern}

/-- A comma and a blank are heard between two elements. -/
theorem listen_separator (h : p.IsRead P) {g : Herald} (hg : g ≠ .heard) :
    g.listen (separator false p) = .blank := by
  have hs : separator false p = [.mark ',', .blank] := by
    rw [separator, isTailVariable_eq_false h]
    rfl
  rw [hs, listen_cons, after_mark hg]
  rfl

/-- What is heard of the elements of a sequence before its tail. -/
theorem listen_elementWords (hb : ∀ e ∈ before, e.IsRead P ∧ e.Sounds) :
    (listen .silent (elementWords true before) = .heard ↔ ∃ e ∈ before, e.Announces) ∧
      (listen .silent (elementWords true before) ≠ .heard →
        (listen .silent (elementWords true before) = .word ↔
          ∃ init, init ≠ [] ∧ before = init ++ [.variable "when" false])) := by
  induction before using List.reverseRecOn with
  | nil =>
    have hheard : listen .silent (elementWords true []) ≠ .heard := by decide
    have hword : listen .silent (elementWords true []) ≠ .word := by decide
    refine ⟨iff_of_false hheard ?_, fun _ => iff_of_false hword ?_⟩
    · rintro ⟨e, hm, -⟩
      cases hm
    · rintro ⟨init, -, h⟩
      exact List.append_ne_nil_of_right_ne_nil init (List.cons_ne_nil _ _) h.symm
  | append_singleton init e ih =>
    obtain ⟨hinit, he⟩ := List.forall_mem_append.mp hb
    obtain ⟨hread, hsounds⟩ := he e (List.mem_singleton_self e)
    obtain ⟨ihheard, -⟩ := ih hinit
    have hlast : listen .silent (elementWords true (init ++ [e])) =
        ((listen .silent (elementWords true init)).listen (separator init.isEmpty e)).listen e.words := by
      rw [elementWords_append, listen_append, Bool.true_and, elementWords, elementWords,
        List.append_nil, listen_append]
    rw [hlast]
    by_cases hg : listen .silent (elementWords true init) = .heard
    · rw [hg, listen_heard, listen_heard]
      obtain ⟨f, hf, ha⟩ := ihheard.mp hg
      exact ⟨⟨fun _ => ⟨f, List.mem_append_left _ hf, ha⟩, fun _ => rfl⟩, fun h => absurd rfl h⟩
    · have hk : ∃ k, (listen .silent (elementWords true init)).listen (separator init.isEmpty e) = k ∧
          (k = .silent ∨ k = .blank) ∧ (k = .blank ↔ init ≠ []) := by
        cases init with
        | nil => exact ⟨.silent, rfl, Or.inl rfl, iff_of_false (by decide) (absurd rfl)⟩
        | cons f rest =>
          exact ⟨.blank, listen_separator hread hg, Or.inr rfl, fun _ => List.cons_ne_nil _ _,
            fun _ => rfl⟩
      obtain ⟨k, hk, hkind, hblank⟩ := hk
      rw [hk]
      refine ⟨(hsounds.listen_eq_heard hkind).trans ⟨fun ha => ⟨e, by simp, ha⟩, ?_⟩, fun hne => ?_⟩
      · rintro ⟨f, hf, ha⟩
        rcases List.mem_append.mp hf with hf | hf
        · exact absurd (ihheard.mpr ⟨f, hf, ha⟩) hg
        · rwa [List.mem_singleton.mp hf] at ha
      · have hn : ¬ e.Announces := fun ha => hne ((hsounds.listen_eq_heard hkind).mpr ha)
        rw [(hsounds k hkind).2 hn, echo_eq_word hread, hblank]
        constructor
        · rintro ⟨hinit, rfl⟩
          exact ⟨init, hinit, rfl⟩
        · rintro ⟨other, hother, h⟩
          obtain ⟨rfl, he⟩ := List.append_inj' h rfl
          exact ⟨hother, List.singleton_inj.mp he⟩

theorem announces_sequence_iff {elements : List Pattern} :
    (sequence elements).Announces ↔
      (sequence elements).AnnouncesHere ∨ ∃ e ∈ elements, e.Announces := by
  unfold Announces
  rw [subpatterns, subpatternsOfElements_eq]
  simp only [List.mem_cons, List.mem_flatMap, exists_eq_or_imp]
  refine or_congr_right ⟨?_, ?_⟩
  · rintro ⟨q, ⟨e, he, hq⟩, ha⟩
    exact ⟨e, he, q, hq, ha⟩
  · rintro ⟨e, he, q, hq, ha⟩
    exact ⟨q, ⟨e, he, hq⟩, ha⟩

theorem not_announces_variable (name : String) (isTail : Bool) :
    ¬ (Pattern.variable name isTail).Announces := by
  rintro ⟨q, hq, ha⟩
  rw [List.mem_singleton.mp hq] at ha
  exact ha

theorem announces_sequence (hb : ∀ e ∈ before, e.IsRead P) (tail : Option String) :
    (sequence (before ++ ofTail tail)).Announces ↔
      (∃ e ∈ before, e.Announces) ∨
        tail.isSome = true ∧ ∃ init, init ≠ [] ∧ before = init ++ [.variable "when" false] := by
  rw [announces_sequence_iff, or_comm]
  refine or_congr ⟨?_, ?_⟩ ?_
  · rintro ⟨e, he, ha⟩
    rcases List.mem_append.mp he with he | he
    · exact ⟨e, he, ha⟩
    · cases tail with
      | none => cases he
      | some name =>
        rw [List.mem_singleton.mp he] at ha
        exact absurd ha (not_announces_variable name true)
  · rintro ⟨e, he, ha⟩
    exact ⟨e, List.mem_append_left _ he, ha⟩
  · have hsplit (init : List Pattern) (name : String) :
        init ++ [.variable "when" false, .variable name true] =
          init ++ [.variable "when" false] ++ [.variable name true] := by
      rw [List.append_assoc]
      rfl
    constructor
    · rintro ⟨init, name, hne, h⟩
      rw [hsplit] at h
      cases tail with
      | none =>
        rw [ofTail, List.append_nil] at h
        have hm : Pattern.variable name true ∈ before := h ▸ List.mem_append_right _ (by simp)
        cases (hb _ hm).2
      | some tail => exact ⟨rfl, init, hne, (List.append_inj' h rfl).1⟩
    · rintro ⟨ht, init, hne, rfl⟩
      obtain ⟨name, rfl⟩ := Option.isSome_iff_exists.mp ht
      exact ⟨init, name, hne, (hsplit init name).symm⟩

/-- A tail by itself is not heard. -/
theorem listen_tail_ne_heard {g : Herald} (hg : g ≠ .heard) (name : String) :
    g.listen (Pattern.variable name true).words ≠ .heard := by
  have hw : (Pattern.variable name true).words = [.mark '|', .blank, .name name.toList] := rfl
  rw [hw, listen_cons, after_mark hg]
  change (if name.toList = ['w', 'h', 'e', 'n'] then Herald.word else .silent) ≠ .heard
  split <;> decide

/-- A tail behind a blank is heard behind the word `when` only. -/
theorem listen_blank_tail (g : Herald) (name : String) :
    g.listen (.blank :: (Pattern.variable name true).words) = .heard ↔ g = .heard ∨ g = .word := by
  rw [listen_cons]
  cases g with
  | silent =>
    exact ⟨fun h => absurd h (listen_tail_ne_heard (by decide) name), fun h => by
      rcases h with h | h <;> cases h⟩
  | blank =>
    exact ⟨fun h => absurd h (listen_tail_ne_heard (by decide) name), fun h => by
      rcases h with h | h <;> cases h⟩
  | word => exact ⟨fun _ => Or.inr rfl, fun _ => listen_heard _⟩
  | heard => exact ⟨fun _ => Or.inl rfl, fun _ => listen_heard _⟩

/-- What is heard of a sequence before its closing bracket. -/
theorem listen_elements (hb : ∀ e ∈ before, e.IsRead P ∧ e.Sounds) (tail : Option String) :
    listen .silent (elementWords true (before ++ ofTail tail)) = .heard ↔
      (sequence (before ++ ofTail tail)).Announces := by
  obtain ⟨hheard, hword⟩ := listen_elementWords hb
  rw [announces_sequence fun e hm => (hb e hm).1, ← hheard, elementWords_append, listen_append,
    Bool.true_and]
  generalize hg : listen .silent (elementWords true before) = g at hheard hword ⊢
  cases tail with
  | none =>
    rw [ofTail, elementWords]
    exact ⟨Or.inl, fun h => h.elim id fun h => absurd h.1 Bool.false_ne_true⟩
  | some name =>
    have hkey : g.listen (elementWords before.isEmpty (ofTail (some name))) = .heard ↔
        g = .heard ∨ g = .word := by
      cases before with
      | nil =>
        have hw : elementWords ([] : List Pattern).isEmpty (ofTail (some name)) =
            (Pattern.variable name true).words := List.append_nil _
        rw [hw, ← hg]
        exact ⟨fun h => absurd h (listen_tail_ne_heard (by decide) name), fun h => by
          rcases h with h | h <;> cases h⟩
      | cons e rest =>
        have hw : elementWords (e :: rest).isEmpty (ofTail (some name)) =
            .blank :: (Pattern.variable name true).words := List.append_nil _
        rw [hw, listen_blank_tail]
    rw [hkey]
    by_cases h : g = .heard
    · exact ⟨fun _ => Or.inl h, fun _ => Or.inl h⟩
    · rw [hword h]
      exact or_congr_right ⟨fun hi => ⟨rfl, hi⟩, fun hi => hi.2⟩

/-- What is heard of a sequence. -/
theorem sounds_sequence (hb : ∀ e ∈ before, e.IsRead P ∧ e.Sounds) (tail : Option String) :
    (sequence (before ++ ofTail tail)).Sounds :=
  sounds_of_enclosed rfl (listen_elements hb tail) fun _ => rfl

end Elements

section Entries

variable {key : String} {entries : List (String × Pattern)}

/-- A key is heard between blanks if it is the word `when`. -/
theorem listen_key {h : Herald} (hh : h = .silent ∨ h = .blank) :
    (h.after (keyWord key)).after .blank = if h = .blank ∧ key = "when" then .heard else .blank := by
  have hsilent {g : Herald} (hg : g = .silent) : g.after .blank = .blank := by
    rw [hg]
    rfl
  rcases hh with rfl | rfl
  · rw [if_neg fun h => (nomatch h.1)]
    unfold keyWord
    split <;> rfl
  · by_cases hk : key = "when"
    · rw [if_pos ⟨rfl, hk⟩, hk]
      rfl
    · rw [if_neg fun h => hk h.2]
      unfold keyWord
      split
      · have hne : key.toList ≠ ['w', 'h', 'e', 'n'] := fun h => hk (String.toList_inj.mp h)
        exact hsilent (if_neg hne)
      · rfl

/-- What is heard of an entry of a mapping. -/
theorem listen_entry (hp : p.Sounds) {h : Herald} (hh : h = .silent ∨ h = .blank) :
    h.listen (keyWord key :: .blank :: .mark '=' :: .blank :: p.words) = .heard ↔
      (h = .blank ∧ key = "when") ∨ p.Announces := by
  rw [listen_cons, listen_cons, listen_key hh]
  split
  · rename_i hw
    exact ⟨fun _ => Or.inl hw, fun _ => listen_heard _⟩
  · rename_i hw
    exact (hp.listen_eq_heard (Or.inr rfl)).trans ⟨Or.inr, fun h => h.resolve_left hw⟩

/-- What is heard of the entries of a mapping behind the first. -/
theorem listen_entryWords (he : ∀ entry ∈ entries, entry.2.Sounds) {g : Herald} (hg : g ≠ .heard) :
    g.listen (entryWords false entries) = .heard ↔
      "when" ∈ entries.map Prod.fst ∨ ∃ entry ∈ entries, entry.2.Announces := by
  induction entries generalizing g with
  | nil => exact ⟨fun h => absurd h hg, fun h => by rcases h with h | ⟨entry, h, -⟩ <;> cases h⟩
  | cons entry rest ih =>
    obtain ⟨key, p⟩ := entry
    obtain ⟨hp, hr⟩ := List.forall_mem_cons.mp he
    have hcomma : g.listen [.mark ',', .blank] = .blank := by
      rw [listen_cons, after_mark hg]
      rfl
    rw [entryWords, listen_append_eq_heard fun k hk => ih hr hk, listen_append,
      if_neg Bool.false_ne_true, hcomma, listen_entry hp (Or.inr rfl), List.map_cons]
    simp only [List.mem_cons, exists_eq_or_imp, true_and, eq_comm (a := "when")]
    tauto

theorem announces_mapping :
    (mapping entries).Announces ↔
      "when" ∈ entries.tail.map Prod.fst ∨ ∃ entry ∈ entries, entry.2.Announces := by
  unfold Announces
  rw [subpatterns, subpatternsOfEntries_eq]
  simp only [List.mem_cons, List.mem_flatMap, exists_eq_or_imp]
  refine or_congr Iff.rfl ⟨?_, ?_⟩
  · rintro ⟨q, ⟨entry, he, hq⟩, ha⟩
    exact ⟨entry, he, q, hq, ha⟩
  · rintro ⟨entry, he, q, hq, ha⟩
    exact ⟨q, ⟨entry, he, hq⟩, ha⟩

/-- What is heard of a mapping. -/
theorem sounds_mapping (he : ∀ entry ∈ entries, entry.2.Sounds) : (mapping entries).Sounds := by
  refine sounds_of_enclosed (o := '\x7b') (c := '\x7d') rfl ?_ fun _ => rfl
  rw [announces_mapping]
  cases entries with
  | nil => exact ⟨fun h => (nomatch h), fun h => by rcases h with h | ⟨entry, h, -⟩ <;> cases h⟩
  | cons entry rest =>
    obtain ⟨key, p⟩ := entry
    obtain ⟨hp, hr⟩ := List.forall_mem_cons.mp he
    rw [entryWords, listen_append_eq_heard fun k hk => listen_entryWords hr hk, if_pos rfl,
      List.nil_append, listen_entry hp (Or.inl rfl), List.tail_cons]
    simp only [List.mem_cons, exists_eq_or_imp, reduceCtorEq, false_and, false_or]
    exact or_left_comm

end Entries

/-- No name that stands for a number is the word `when`. -/
theorem listen_numberWords {h : Herald} (hh : h = .silent ∨ h = .blank) (n : Number) :
    h.listen (numberWords n) = .silent := by
  unfold numberWords
  split
  · rename_i x
    split
    · cases x.negative <;> rcases hh with rfl | rfl <;> rfl
    · rcases hh with rfl | rfl <;> rfl
  · rcases hh with rfl | rfl <;> rfl

theorem announces_groups (expression : Regex) (elements : List Pattern) :
    (groups expression elements).Announces ↔ (sequence elements).Announces := by
  unfold Announces
  rw [subpatterns_groups]
  constructor
  · rintro ⟨q, hq, ha⟩
    rcases List.mem_cons.mp hq with rfl | hq
    · exact ha.elim
    · rcases List.mem_cons.mp hq with rfl | hq
      · exact ha.elim
      · exact ⟨q, hq, ha⟩
  · rintro ⟨q, hq, ha⟩
    exact ⟨q, List.mem_cons_of_mem _ (List.mem_cons_of_mem _ hq), ha⟩

/-- What is heard of a pattern that has been read. -/
theorem sounds_of_isRead (h : p.IsRead P) : p.Sounds := by
  refine induction_isRead (motive := Sounds) ?_ ?_ ?_ ?_ ?_ ?_ ?_ p h
  · intro value _
    refine sounds_of_leaf rfl id fun h hh => ?_
    rcases hh with rfl | rfl <;> rfl
  · intro n _
    refine sounds_of_leaf rfl id fun h hh => ?_
    exact listen_numberWords hh n
  · intro expression _
    refine sounds_of_leaf rfl id fun h hh => ?_
    rcases hh with rfl | rfl <;> rfl
  · intro name _
    refine sounds_of_leaf rfl id fun h hh => ?_
    have hw : (Pattern.variable name false).words = [.name name.toList] := rfl
    have hname : name.toList = ['w', 'h', 'e', 'n'] ↔ name = "when" :=
      ⟨fun h => String.toList_inj.mp h, fun h => h ▸ rfl⟩
    rw [hw, listen_cons, echo]
    rcases hh with rfl | rfl
    · rw [if_neg fun h => (nomatch h.1)]
      rfl
    · simp only [← hname, true_and]
      rfl
  · exact fun before tail hb _ => sounds_sequence hb tail
  · exact fun entries _ he => sounds_mapping fun entry hm => (he entry hm).2
  · intro expression before tail _ ih h hh
    have hw : h.listen (groups expression (before ++ ofTail tail)).words =
        listen .blank (sequence (before ++ ofTail tail)).words := by
      rw [words_groups]
      rcases hh with rfl | rfl <;> rfl
    rw [hw, announces_groups]
    exact ih .blank (Or.inr rfl)

end Pattern

end Destructure
