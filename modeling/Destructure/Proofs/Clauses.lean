import Destructure.Clauses
import Destructure.Proofs.Run

namespace Destructure

theorem Item.sameKey_text {α : Type} (s t : WideText) :
    (Item.text s : Item α).sameKey (.text t) = (s == t) :=
  rfl

/-- A text is no pair. -/
theorem Item.text?_of_parts? {α : Type} {item : Item α} {parts : List (Item α)}
    (h : item.parts? = some parts) : item.text? = none := by
  cases item with
  | text t => cases h
  | _ => rfl

theorem Item.eq_text_of_text? {α : Type} {item : Item α} {t : WideText} (h : item.text? = some t) :
    item = .text t := by
  cases item with
  | text s => cases h; rfl
  | _ => cases h

theorem Item.eq_action_of_action? {α : Type} {item : Item α} {a : α} (h : item.action? = some a) :
    item = .action a := by
  match item with
  | .action b => cases h; rfl

namespace Clauses

variable {α : Type}

def Alternates (list : List (Item α)) : Prop :=
  list.head?.any (fun item => item.text?.isSome) = true

theorem pairs_of_alternates {list : List (Item α)} (h : Alternates list) :
    (items list).pairs =
      if list.length % 2 = 0 then .ok (alternate list)
      else .error (.ofError (.oddClauseList list.length)) :=
  if_pos h

theorem pairs_of_not_alternates {list : List (Item α)} (h : ¬ Alternates list) :
    (items list).pairs = asPairs 1 list :=
  if_neg h

section Notation

def ofText (clause : WideText × Item α) : Item α × Item α :=
  (.text clause.1, clause.2)

inductive Writes (row : List (WideText × Item α)) : Clauses α → Prop
  | pairs {list : List (Item α)}
      (h : list.map Item.parts? = row.map fun clause => some [(ofText clause).1, clause.2]) :
      Writes row (.items list)
  | alternating : Writes row (.items (row.flatMap fun clause => [(ofText clause).1, clause.2]))
  | mapping (h : (row.map Prod.fst).Nodup) : Writes row (ofEntries (row.map ofText))

theorem asPairs_of_parts {list : List (Item α)} {row : List (WideText × Item α)}
    (h : list.map Item.parts? = row.map fun clause => some [(ofText clause).1, clause.2])
    (number : Nat) : asPairs number list = .ok (row.map ofText) := by
  induction list generalizing row number with
  | nil =>
    obtain rfl := List.map_eq_nil_iff.mp h.symm
    rfl
  | cons item rest ih =>
    match row with
    | clause :: row =>
      obtain ⟨hitem, hrest⟩ := List.cons.inj h
      rw [asPairs, hitem]
      dsimp only
      rw [ih hrest]
      rfl

theorem alternate_flatMap (row : List (WideText × Item α)) :
    alternate (row.flatMap fun clause => [(ofText clause).1, clause.2]) = row.map ofText := by
  induction row with
  | nil => rfl
  | cons clause rest ih => exact congrArg (ofText clause :: ·) ih

theorem length_flatMap (row : List (WideText × Item α)) :
    (row.flatMap fun clause => [(ofText clause).1, clause.2]).length = 2 * row.length := by
  induction row with
  | nil => rfl
  | cons clause rest ih =>
    rw [List.flatMap_cons, List.length_append, ih, List.length_cons]
    simp only [List.length_cons, List.length_nil]
    omega

/-- A key that is not there yet is put at the end. -/
theorem setEntry_of_notMem {key : WideText} {value : Item α} {row : List (WideText × Item α)}
    (h : key ∉ row.map Prod.fst) :
    setEntry (Item.text key).sameKey (.text key) value (row.map ofText) =
      (row ++ [(key, value)]).map ofText := by
  rw [setEntry_of_forall_not, List.map_append]
  · rfl
  · intro entry hm
    obtain ⟨clause, hclause, rfl⟩ := List.mem_map.mp hm
    have hne : key ≠ clause.1 := by
      rintro rfl
      exact h (List.mem_map_of_mem hclause)
    rw [ofText, Item.sameKey_text, beq_false_of_ne hne]

/-- A mapping keeps its entries as they are set, if no key is repeated. -/
theorem ofEntries_of_nodup {row : List (WideText × Item α)} (h : (row.map Prod.fst).Nodup) :
    ofEntries (row.map ofText) = .mapping (row.map ofText) := by
  have hset (done : List (WideText × Item α)) (hd : ((done ++ row).map Prod.fst).Nodup) :
      (row.map ofText).foldl (fun done entry => setEntry entry.1.sameKey entry.1 entry.2 done)
        (done.map ofText) = (done ++ row).map ofText := by
    clear h
    induction row generalizing done with
    | nil => rw [List.append_nil]; rfl
    | cons clause rest ih =>
      have hclause : clause.1 ∉ done.map Prod.fst := by
        intro hm
        rw [List.map_append, List.nodup_append] at hd
        exact hd.2.2 _ hm _ (List.mem_cons_self ..) rfl
      have hnext := ih (done ++ [clause]) (by rwa [List.append_assoc])
      rw [List.append_assoc] at hnext
      rw [List.map_cons, List.foldl_cons, ← List.singleton_append, ← hnext]
      exact congrArg (List.foldl _ · _) (setEntry_of_notMem hclause)
  exact congrArg Clauses.mapping (hset [] h)

/-- Every notation of a row is read as that row. -/
theorem Writes.pairs_eq {row : List (WideText × Item α)} {clauses : Clauses α}
    (h : Writes row clauses) : clauses.pairs = .ok (row.map ofText) := by
  cases h with
  | @pairs list h =>
    have hlist : ¬ Alternates list := by
      match list, row with
      | [], [] => exact Bool.false_ne_true
      | item :: rest, clause :: row =>
        rw [Alternates, List.head?_cons, Option.any_some,
          Item.text?_of_parts? (List.cons.inj h).1]
        exact Bool.false_ne_true
    rw [pairs_of_not_alternates hlist]
    exact asPairs_of_parts h 1
  | alternating =>
    match row with
    | [] => rfl
    | clause :: rest =>
      have hlist : Alternates ((clause :: rest).flatMap fun clause =>
        [(ofText clause).1, clause.2]) := rfl
      rw [pairs_of_alternates hlist, alternate_flatMap, length_flatMap,
        if_pos (Nat.mul_mod_right 2 _)]
  | mapping h =>
    rw [ofEntries_of_nodup h]
    rfl

theorem Writes.resolve_eq {row : List (WideText × Item α)} {clauses other : Clauses α}
    (h : Writes row clauses) (ho : Writes row other) : clauses.resolve = other.resolve := by
  unfold resolve
  rw [h.pairs_eq, ho.pairs_eq]

end Notation

section Validation

inductive HasClause : Clauses α → Item α → Item α → Prop
  | entry {entries : List (Item α × Item α)} {pattern action : Item α}
      (h : (pattern, action) ∈ entries) : HasClause (.mapping entries) pattern action
  | pair {list : List (Item α)} {item pattern action : Item α} (hlist : ¬ Alternates list)
      (hm : item ∈ list) (h : item.parts? = some [pattern, action]) :
      HasClause (.items list) pattern action
  | neighbours {before after : List (Item α)} {pattern action : Item α}
      (hlist : Alternates (before ++ pattern :: action :: after)) (hp : before.length % 2 = 0) :
      HasClause (.items (before ++ pattern :: action :: after)) pattern action

inductive Offends : Clauses α → Item α → Prop
  | notPair {list : List (Item α)} {item : Item α} (hlist : ¬ Alternates list) (hm : item ∈ list)
      (h : ∀ pattern action, item.parts? ≠ some [pattern, action]) : Offends (.items list) item
  | pattern {clauses : Clauses α} {pattern action : Item α}
      (hc : HasClause clauses pattern action) (h : ∀ text, pattern ≠ .text text) :
      Offends clauses pattern
  | action {clauses : Clauses α} {pattern action : Item α}
      (hc : HasClause clauses pattern action) (h : ∀ a, action ≠ .action a) :
      Offends clauses action

inductive Malformed : Clauses α → Prop
  | offends {clauses : Clauses α} {item : Item α} (h : Offends clauses item) : Malformed clauses
  | odd {list : List (Item α)} (hlist : Alternates list) (h : list.length % 2 = 1) :
      Malformed (.items list)

theorem mem_alternate {list : List (Item α)} {pattern action : Item α}
    (heven : list.length % 2 = 0) :
    (pattern, action) ∈ alternate list ↔ ∃ before after,
      list = before ++ pattern :: action :: after ∧ before.length % 2 = 0 := by
  match list with
  | [] =>
    refine ⟨fun h => (nomatch h), ?_⟩
    rintro ⟨before, after, h, -⟩
    cases (List.append_eq_nil_iff.mp h.symm).2
  | [item] => cases heven
  | first :: second :: rest =>
    have hrest : rest.length % 2 = 0 := by
      simp only [List.length_cons] at heven
      omega
    rw [alternate, List.mem_cons, mem_alternate hrest]
    constructor
    · rintro (h | ⟨before, after, rfl, hb⟩)
      · cases h
        exact ⟨[], rest, rfl, rfl⟩
      · refine ⟨first :: second :: before, after, rfl, ?_⟩
        simp only [List.length_cons]
        omega
    · rintro ⟨before, after, h, hb⟩
      match before with
      | [] =>
        cases h
        exact Or.inl rfl
      | [item] => cases hb
      | _ :: _ :: before =>
        cases h
        refine Or.inr ⟨before, after, rfl, ?_⟩
        simp only [List.length_cons] at hb
        omega

theorem asPairs_eq_ok {list : List (Item α)} {number : Nat} {entries : List (Item α × Item α)}
    (h : asPairs number list = .ok entries) :
    list.map Item.parts? = entries.map fun entry => some [entry.1, entry.2] := by
  induction list generalizing number entries with
  | nil =>
    cases h
    rfl
  | cons item rest ih =>
    rw [asPairs] at h
    split at h
    · rename_i pattern action hparts
      obtain ⟨done, hd, h⟩ := Run.bind_eq_ok.mp h
      cases h
      rw [List.map_cons, hparts, ih hd]
      rfl
    · cases h

theorem asPairs_eq_error {list : List (Item α)} {number : Nat} {failure : Failure}
    (h : asPairs number list = .error failure) :
    ∃ item ∈ list, (∀ pattern action, item.parts? ≠ some [pattern, action]) ∧
      ∃ place, failure = refuse item (.clauseNotPair place item.shown) := by
  induction list generalizing number with
  | nil => cases h
  | cons item rest ih =>
    rw [asPairs] at h
    split at h
    · rcases Run.bind_eq_error.mp h with h | ⟨done, -, h⟩
      · obtain ⟨found, hm, hparts, hf⟩ := ih h
        exact ⟨found, List.mem_cons_of_mem _ hm, hparts, hf⟩
      · cases h
    · rename_i hparts
      cases h
      exact ⟨item, List.mem_cons_self .., hparts, number, rfl⟩

/-- What clauses that can be told apart are read as. -/
theorem mem_of_pairs_eq_ok {clauses : Clauses α} {entries : List (Item α × Item α)}
    (h : clauses.pairs = .ok entries) {pattern action : Item α} :
    (pattern, action) ∈ entries ↔ HasClause clauses pattern action := by
  match clauses with
  | .mapping given =>
    cases h
    refine ⟨.entry, ?_⟩
    rintro ⟨hm⟩
    exact hm
  | .items list =>
    by_cases hlist : Alternates list
    · rw [pairs_of_alternates hlist] at h
      split at h
      · rename_i heven
        cases h
        rw [mem_alternate heven]
        constructor
        · rintro ⟨before, after, rfl, hb⟩
          exact .neighbours hlist hb
        · intro hc
          cases hc with
          | pair hn _ _ => exact absurd hlist hn
          | neighbours _ hp => exact ⟨_, _, rfl, hp⟩
      · cases h
    · rw [pairs_of_not_alternates hlist] at h
      have hparts := asPairs_eq_ok h
      constructor
      · intro hm
        have hp := List.mem_map_of_mem (f := fun entry => some [entry.1, entry.2]) hm
        rw [← hparts] at hp
        obtain ⟨item, hi, hp⟩ := List.mem_map.mp hp
        exact .pair hlist hi hp
      · intro hc
        cases hc with
        | pair _ hm hp =>
          have hq := List.mem_map_of_mem (f := Item.parts?) hm
          rw [hparts, hp] at hq
          obtain ⟨entry, he, hq⟩ := List.mem_map.mp hq
          cases hq
          exact he
        | neighbours ha _ => exact absurd ha hlist

theorem validate_eq_ok {entries : List (Item α × Item α)} {number : Nat}
    {resolved : List (WideText × α)} (h : validate number entries = .ok resolved) :
    entries = resolved.map fun clause => (.text clause.1, .action clause.2) := by
  induction entries generalizing number resolved with
  | nil =>
    cases h
    rfl
  | cons entry rest ih =>
    obtain ⟨pattern, action⟩ := entry
    rw [validate] at h
    split at h
    · cases h
    · rename_i text ht
      split at h
      · cases h
      · rename_i a ha
        obtain ⟨done, hd, h⟩ := Run.bind_eq_ok.mp h
        cases h
        rw [List.map_cons, ← ih hd, Item.eq_text_of_text? ht, Item.eq_action_of_action? ha]

theorem validate_eq_error {entries : List (Item α × Item α)} {number : Nat} {failure : Failure}
    (h : validate number entries = .error failure) :
    ∃ entry ∈ entries,
      ((∀ text, entry.1 ≠ .text text) ∧
        ∃ place, failure = refuse entry.1 (.clausePatternNotText place entry.1.shown)) ∨
      ((∀ a, entry.2 ≠ .action a) ∧ ∃ place text,
        failure = refuse entry.2 (.clauseActionNotCallable place text entry.2.shown)) := by
  induction entries generalizing number with
  | nil => cases h
  | cons entry rest ih =>
    obtain ⟨pattern, action⟩ := entry
    rw [validate] at h
    split at h
    · rename_i ht
      cases h
      refine ⟨_, List.mem_cons_self .., Or.inl ⟨?_, number, rfl⟩⟩
      rintro text rfl
      cases ht
    · rename_i text ht
      split at h
      · rename_i ha
        cases h
        refine ⟨_, List.mem_cons_self .., Or.inr ⟨?_, number, text, rfl⟩⟩
        rintro a rfl
        cases ha
      · rcases Run.bind_eq_error.mp h with h | ⟨done, -, h⟩
        · obtain ⟨found, hm, hf⟩ := ih h
          exact ⟨found, List.mem_cons_of_mem _ hm, hf⟩
        · cases h

/-- Clauses that are refused are malformed, and only an item that cannot be written keeps the fault
from being told. -/
theorem malformed_of_resolve {clauses : Clauses α} {failure : Failure}
    (h : clauses.resolve = .error failure) :
    clauses.Malformed ∧ ((∃ error, failure = .invalid error) ∨
      failure = .integerTooLong ∧ ∃ item, clauses.Offends item ∧ item.isWritable = false) := by
  have hrefuse {item : Item α} {error : PatternError} (ho : clauses.Offends item)
      (hw : error.isWritable = true) (hf : failure = refuse item error) :
      clauses.Malformed ∧ ((∃ error, failure = .invalid error) ∨
        failure = .integerTooLong ∧ ∃ item, clauses.Offends item ∧ item.isWritable = false) := by
    refine ⟨.offends ho, ?_⟩
    rw [refuse] at hf
    cases hi : item.isWritable with
    | true => exact Or.inl ⟨error, by rw [hf, hi, if_pos rfl, Failure.ofError, if_pos hw]⟩
    | false => exact Or.inr ⟨by rw [hf, hi]; rfl, item, ho, hi⟩
  rcases Run.bind_eq_error.mp h with hp | ⟨entries, hp, hv⟩
  · match clauses with
    | .mapping given => cases hp
    | .items list =>
      by_cases hlist : Alternates list
      · rw [pairs_of_alternates hlist] at hp
        split at hp
        · cases hp
        · rename_i hodd
          cases hp
          exact ⟨.odd hlist (by omega), Or.inl ⟨_, rfl⟩⟩
      · rw [pairs_of_not_alternates hlist] at hp
        obtain ⟨item, hm, hparts, place, hf⟩ := asPairs_eq_error hp
        exact hrefuse (.notPair hlist hm hparts) rfl hf
  · obtain ⟨⟨pattern, action⟩, hm, ⟨ht, place, hf⟩ | ⟨ha, place, text, hf⟩⟩ := validate_eq_error hv
    · exact hrefuse (.pattern ((mem_of_pairs_eq_ok hp).mp hm) ht) rfl hf
    · exact hrefuse (.action ((mem_of_pairs_eq_ok hp).mp hm) ha) rfl hf

/-- Malformed clauses are refused, wherever the fault is. -/
theorem Malformed.resolve {clauses : Clauses α} (h : clauses.Malformed) :
    ∃ failure, clauses.resolve = .error failure := by
  cases hr : clauses.resolve with
  | error failure => exact ⟨failure, rfl⟩
  | ok resolved =>
    obtain ⟨entries, hp, hv⟩ := Run.bind_eq_ok.mp hr
    have hvalid {pattern action : Item α} (hc : HasClause clauses pattern action) :
        ∃ text a, pattern = .text text ∧ action = .action a := by
      have hm := (mem_of_pairs_eq_ok hp).mpr hc
      rw [validate_eq_ok hv, List.mem_map] at hm
      obtain ⟨clause, -, hclause⟩ := hm
      cases hclause
      exact ⟨_, _, rfl, rfl⟩
    cases h with
    | offends ho =>
      cases ho with
      | notPair hlist hm hparts =>
        rw [pairs_of_not_alternates hlist] at hp
        have hentry := List.mem_map_of_mem (f := Item.parts?) hm
        rw [asPairs_eq_ok hp] at hentry
        obtain ⟨entry, -, hentry⟩ := List.mem_map.mp hentry
        exact absurd hentry.symm (hparts _ _)
      | pattern hc ht =>
        obtain ⟨text, -, hpattern, -⟩ := hvalid hc
        exact absurd hpattern (ht text)
      | action hc ha =>
        obtain ⟨-, a, -, haction⟩ := hvalid hc
        exact absurd haction (ha a)
    | odd hlist hodd =>
      rw [pairs_of_alternates hlist, if_neg (by omega)] at hp
      cases hp

end Validation

end Clauses

namespace Engine

variable {α : Type} {m : Type → Type} [Monad m]

/-- What a dispatch makes of the way in which its clauses are written. Clauses that write the same row
dispatch alike: with the same result, the same action invoked, the same effects and the same engine
behind. Malformed clauses are refused before anything is compiled or enacted, as invalid unless an
item at fault cannot be written; and no other clauses are. -/
theorem dispatch_asWritten (e : Engine) (source : Value)
    (invoke : α → Scope → Except Failure Value)
    (act : α → Scope → Engine → m (Except Failure Value × Engine)) (clauses : Clauses α) :
    (∀ row other, Clauses.Writes row clauses → Clauses.Writes row other →
      e.dispatch invoke source clauses = e.dispatch invoke source other ∧
        e.enact act source clauses = e.enact act source other) ∧
    (clauses.Malformed → ∃ failure,
      e.dispatch invoke source clauses = ⟨.error failure, none, e⟩ ∧
        e.enact act source clauses = pure (.error failure, e) ∧
        ((∃ error, failure = .invalid error) ∨
          failure = .integerTooLong ∧ ∃ item, clauses.Offends item ∧ item.isWritable = false)) ∧
    (¬ clauses.Malformed → ∃ resolved, clauses.resolve = .ok resolved) := by
  refine ⟨fun row other h ho => ?_, fun h => ?_, fun h => ?_⟩
  · have hresolve := h.resolve_eq ho
    unfold dispatch enact
    rw [hresolve]
    exact ⟨rfl, rfl⟩
  · obtain ⟨failure, hf⟩ := h.resolve
    have htold := (Clauses.malformed_of_resolve hf).2
    unfold dispatch enact
    rw [hf]
    exact ⟨failure, rfl, rfl, htold⟩
  · cases hr : clauses.resolve with
    | ok resolved => exact ⟨resolved, rfl⟩
    | error failure => exact absurd (Clauses.malformed_of_resolve hr).1 h

/-- A clause that takes any value is not tried if a number is written behind it in the place of a
clause, whereas alone it may be written as a mapping or as the list of its parts. -/
theorem dispatch_asWritten_number :
    let e := Engine.new .overwrite
    let invoke : Unit → Scope → Except Failure Value := fun _ _ => .ok .null
    let act : Unit → Scope → Engine → Id (Except Failure Value × Engine) :=
      fun _ _ e => (.ok .null, e)
    let any : List (Item Unit) := [.text "n", .action ()]
    let late : Clauses Unit := .items [.tuple any, .value (.int 1) ⟨rfl, rfl⟩]
    (∃ failure, e.dispatch invoke (.int 5) late = ⟨.error failure, none, e⟩ ∧
      e.enact act (.int 5) late = pure (.error failure, e)) ∧
    e.dispatch invoke (.int 5) (.items any) =
      e.dispatch invoke (.int 5) (.mapping [(.text "n", .action ())]) ∧
    ∃ resolved, (Clauses.items any).resolve = .ok resolved := by
  intro e invoke act any late
  have halternating : Clauses.Writes [("n", .action ())] (.items any) := .alternating
  refine ⟨?_, ?_, ?_⟩
  · have hmalformed : late.Malformed := by
      have hlast : Item.value (.int 1) ⟨rfl, rfl⟩ ∈ [.tuple any, .value (.int 1) ⟨rfl, rfl⟩] :=
        List.mem_cons_of_mem _ (List.mem_singleton_self _)
      exact .offends (.notPair Bool.false_ne_true hlast fun _ _ h => nomatch h)
    obtain ⟨failure, hd, he, -⟩ := (dispatch_asWritten e (.int 5) invoke act late).2.1 hmalformed
    exact ⟨failure, hd, he⟩
  · have hmapping : Clauses.Writes [("n", .action ())]
        (.mapping [(.text "n", .action ())]) :=
      .mapping (List.nodup_cons.mpr ⟨List.not_mem_nil, List.nodup_nil⟩)
    exact ((dispatch_asWritten e (.int 5) invoke act _).1 _ _ halternating hmapping).1
  · refine (dispatch_asWritten e (.int 5) invoke act _).2.2 fun h => ?_
    have hr : (Clauses.items any).resolve = .ok [("n", ())] := by
      rw [Clauses.resolve, halternating.pairs_eq]
      rfl
    obtain ⟨failure, hf⟩ := h.resolve
    cases hr.symm.trans hf

end Engine

end Destructure
