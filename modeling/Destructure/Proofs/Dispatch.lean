import Destructure.Proofs.Cache.Request
import Destructure.Proofs.Mismatch

/-!
Which clause a dispatch comes to, and what it leaves behind. Clauses are tried in their order, each
in a scope of its own, until one does not end in a mismatch. Main statement: that clause decides the
dispatch, its action is enacted once and with its bindings, and no pattern behind it is compiled.
-/

namespace Destructure

def Outcome.isMismatch (o : Outcome) : Bool :=
  o.failure.any Failure.isMismatch

namespace Compiled

/-- With a condition, a match fails and leaves the scope as it was, or it succeeds as the match of
the pattern alone does. -/
theorem bindIn_cases {compiled : Compiled} {condition : Condition}
    (hc : compiled.condition = some condition) (policy : Policy) (source : Value) (scope : Scope) :
    (∃ failure, compiled.bindIn policy source scope = .failed scope failure) ∨
      ∃ next, compiled.bindIn policy source scope = .matched next ∧
        compiled.tree.bindAll policy source scope = .matched next := by
  rw [bindIn_eq_ownScope policy source scope hc]
  dsimp only
  rw [failure_ownScope, update_ownScope]
  cases hf : (compiled.tree.bindAll policy source scope).failure with
  | some failure => exact Or.inl ⟨failure, rfl⟩
  | none =>
    have hmatched := Outcome.eq_matched hf
    dsimp only
    split
    · exact Or.inl ⟨_, rfl⟩
    · exact Or.inr ⟨_, rfl, hmatched⟩
    · exact Or.inl ⟨_, rfl⟩

/-- A match that succeeds binds what the pattern alone binds. -/
theorem bindAll_of_bindIn {compiled : Compiled} {policy : Policy} {source : Value}
    {scope next : Scope} (h : compiled.bindIn policy source scope = .matched next) :
    compiled.tree.bindAll policy source scope = .matched next := by
  cases hc : compiled.condition with
  | none =>
    rw [bindIn_of_none policy source scope hc] at h
    exact h
  | some condition =>
    obtain ⟨failure, hfailed⟩ | ⟨other, hother, hdirect⟩ := bindIn_cases hc policy source scope
    · cases congrArg Outcome.failure (hfailed.symm.trans h)
    · rw [hdirect, ← hother]
      exact h

end Compiled

namespace Engine

def requestAll (e : Engine) (texts : List WideText) : Engine :=
  texts.foldl (fun e text => (e.request text).2) e

@[simp] theorem requestAll_nil (e : Engine) : e.requestAll [] = e :=
  rfl

@[simp] theorem requestAll_cons (e : Engine) (text : WideText) (rest : List WideText) :
    e.requestAll (text :: rest) = (e.request text).2.requestAll rest :=
  rfl

/-- Requests change the cache only. -/
theorem requestAll_eq (e : Engine) (texts : List WideText) :
    e.requestAll texts = { e with cache := e.cache.requestAll compile texts } := by
  induction texts generalizing e with
  | nil => rfl
  | cons text rest ih =>
    rw [requestAll_cons, ih, request_eq]
    rfl

/-- Requests for other texts change no answer, unless two texts share a fingerprint. -/
theorem fst_request_requestAll (e : Engine) {texts : List WideText} {text : WideText}
    (apart : ∀ other ∈ texts, ∀ key, fingerprint other = .ok key → fingerprint text = .ok key →
      other = text) :
    ((e.requestAll texts).request text).1 = (e.request text).1 := by
  rw [requestAll_eq, request_eq, request_eq]
  exact Cache.fst_requestText_requestAll compile e.cache apart

/-- A match is made of the answer to the request. -/
theorem fst_destructure (e : Engine) (text : WideText) (source : Value) (scope : Scope) :
    (e.destructure text source scope).1 =
      match (e.request text).1 with
      | .ok compiled => compiled.bindIn e.policy source scope
      | .error failure => .failed scope failure := by
  unfold destructure
  have hp : (e.request text).2.policy = e.policy := rfl
  generalize e.request text = answer at hp ⊢
  obtain ⟨result, next⟩ := answer
  cases result with
  | ok compiled => rw [← hp]
  | error failure => rfl

theorem fst_destructure_congr {e e' : Engine} {text : WideText} (hp : e.policy = e'.policy)
    (hr : (e.request text).1 = (e'.request text).1) (source : Value) (scope : Scope) :
    (e.destructure text source scope).1 = (e'.destructure text source scope).1 := by
  rw [fst_destructure, fst_destructure, hp, hr]

/-- A match that succeeds in a new scope binds the variables of its pattern and no other names. -/
theorem mem_names_of_destructure {e : Engine} {text : WideText} {source : Value} {compiled : Compiled}
    (hr : (e.request text).1 = .ok compiled)
    (hf : (e.destructure text source .empty).1.failure = none) (name : String) :
    name ∈ (e.destructure text source .empty).1.scope.names ↔
      name ∈ compiled.tree.variableNames := by
  have hm : compiled.bindIn e.policy source .empty =
      .matched (e.destructure text source .empty).1.scope := by
    rw [← destructure_of_request hr]
    exact Outcome.eq_matched hf
  rw [Pattern.mem_names_of_bindAll (Compiled.bindAll_of_bindIn hm)]
  constructor
  · rintro (h | h)
    · exact h
    · cases h
  · exact Or.inl

variable {α : Type}

def trial (e : Engine) (source : Value) (clauses : List (WideText × α)) (place : Nat) :
    Option Outcome :=
  clauses[place]?.map fun clause =>
    ((e.requestAll ((clauses.take place).map Prod.fst)).destructure clause.1 source .empty).1

theorem trial_eq_some {e : Engine} {source : Value} {clauses : List (WideText × α)} {place : Nat}
    {pattern : WideText} {action : α} (h : clauses[place]? = some (pattern, action)) :
    e.trial source clauses place =
      some ((e.requestAll ((clauses.take place).map Prod.fst)).destructure
        pattern source .empty).1 := by
  unfold trial
  rw [h]
  rfl

theorem trial_cons_zero (e : Engine) (source : Value) (pattern : WideText) (action : α)
    (rest : List (WideText × α)) :
    e.trial source ((pattern, action) :: rest) 0 =
      some (e.destructure pattern source .empty).1 :=
  rfl

theorem trial_cons_succ (e : Engine) (source : Value) (pattern : WideText) (action : α)
    (rest : List (WideText × α)) (place : Nat) :
    e.trial source ((pattern, action) :: rest) (place + 1) =
      (e.request pattern).2.trial source rest place :=
  rfl

/-- Unless two patterns share a fingerprint, a clause matches as if it were the only one. -/
theorem trial_of_apart (e : Engine) (source : Value) {clauses : List (WideText × α)}
    (apart : FingerprintsApart (clauses.map Prod.fst)) {place : Nat} {pattern : WideText}
    {action : α} (h : clauses[place]? = some (pattern, action)) :
    e.trial source clauses place = some (e.destructure pattern source .empty).1 := by
  have hmem : pattern ∈ clauses.map Prod.fst :=
    List.mem_map_of_mem (f := Prod.fst) (List.mem_of_getElem? h)
  rw [trial_eq_some h, List.map_take]
  apply congrArg some
  apply fst_destructure_congr
  · rw [requestAll_eq]
  · apply fst_request_requestAll
    intro other ho
    exact apart other (List.mem_of_mem_take ho) pattern hmem

/-- A clause whose match succeeds binds the variables of its pattern and no other names. -/
theorem mem_names_of_trial {e : Engine} {source : Value} {clauses : List (WideText × α)}
    {place : Nat} {pattern : WideText} {action : α} {outcome : Outcome}
    (h : clauses[place]? = some (pattern, action))
    (htrial : e.trial source clauses place = some outcome) (hf : outcome.failure = none) :
    ∃ compiled,
      ((e.requestAll ((clauses.take place).map Prod.fst)).request pattern).1 = .ok compiled ∧
        ∀ name, name ∈ outcome.scope.names ↔ name ∈ compiled.tree.variableNames := by
  rw [trial_eq_some h] at htrial
  obtain rfl := Option.some.inj htrial
  have hd := fst_destructure (e.requestAll ((clauses.take place).map Prod.fst)) pattern source
    .empty
  cases hr : ((e.requestAll ((clauses.take place).map Prod.fst)).request pattern).1 with
  | ok compiled => exact ⟨compiled, rfl, mem_names_of_destructure hr hf⟩
  | error failure =>
    rw [hr] at hd
    rw [hd] at hf
    cases hf

section Enact

variable {m : Type → Type} [Monad m]
  (act : α → Scope → Engine → m (Except Failure Value × Engine)) (source : Value)

theorem enactTo_cons (e : Engine) (pattern : WideText) (action : α) (rest : List (WideText × α)) :
    e.enactTo act source ((pattern, action) :: rest) =
      let outcome := (e.destructure pattern source .empty).1
      let next := (e.request pattern).2
      match outcome.failure with
      | none => act action outcome.scope next
      | some failure =>
        if failure.isMismatch then next.enactTo act source rest
        else pure (.error failure, next) := by
  rw [← snd_destructure source .empty]
  rfl

/-- A mismatch leads to the next clause. -/
theorem enactTo_of_mismatch {e : Engine} {pattern : WideText} (action : α)
    (rest : List (WideText × α))
    (h : (e.destructure pattern source .empty).1.isMismatch = true) :
    e.enactTo act source ((pattern, action) :: rest) =
      (e.request pattern).2.enactTo act source rest := by
  rw [enactTo_cons]
  unfold Outcome.isMismatch at h
  dsimp only
  cases hf : (e.destructure pattern source .empty).1.failure with
  | none =>
    rw [hf] at h
    cases h
  | some failure =>
    rw [hf] at h
    exact if_pos h

/-- Anything else decides the dispatch. -/
theorem enactTo_of_not_mismatch {e : Engine} {pattern : WideText} (action : α)
    (rest : List (WideText × α))
    (h : (e.destructure pattern source .empty).1.isMismatch = false) :
    e.enactTo act source ((pattern, action) :: rest) =
      match (e.destructure pattern source .empty).1.failure with
      | none => act action (e.destructure pattern source .empty).1.scope (e.request pattern).2
      | some failure => pure (.error failure, (e.request pattern).2) := by
  rw [enactTo_cons]
  unfold Outcome.isMismatch at h
  dsimp only
  cases hf : (e.destructure pattern source .empty).1.failure with
  | none => rfl
  | some failure =>
    rw [hf] at h
    exact if_neg (Bool.eq_false_iff.mp h)

/-- With mismatches only, no action is enacted, and all patterns have been compiled. -/
theorem enactTo_of_mismatches {e : Engine} {clauses : List (WideText × α)}
    (h : ∀ place outcome, e.trial source clauses place = some outcome →
      outcome.isMismatch = true) :
    e.enactTo act source clauses = pure (.ok .null, e.requestAll (clauses.map Prod.fst)) := by
  induction clauses generalizing e with
  | nil => rfl
  | cons clause rest ih =>
    obtain ⟨pattern, action⟩ := clause
    have hhead := h 0 _ (trial_cons_zero ..)
    rw [enactTo_of_mismatch act source action rest hhead]
    apply ih
    intro place outcome ht
    exact h (place + 1) outcome ((trial_cons_succ ..).trans ht)

/-- The first clause without a mismatch decides, and the patterns up to it have been compiled. -/
theorem enactTo_of_first {e : Engine} {clauses : List (WideText × α)} {place : Nat}
    {pattern : WideText} {action : α} {outcome : Outcome}
    (hclause : clauses[place]? = some (pattern, action))
    (htrial : e.trial source clauses place = some outcome) (hm : outcome.isMismatch = false)
    (hbefore : ∀ earlier < place, ∀ other, e.trial source clauses earlier = some other →
      other.isMismatch = true) :
    e.enactTo act source clauses =
      let next := e.requestAll ((clauses.take (place + 1)).map Prod.fst)
      match outcome.failure with
      | none => act action outcome.scope next
      | some failure => pure (.error failure, next) := by
  induction clauses generalizing e place with
  | nil => cases hclause
  | cons clause rest ih =>
    cases place with
    | zero =>
      obtain rfl := Option.some.inj hclause
      rw [trial_cons_zero] at htrial
      obtain rfl := Option.some.inj htrial
      rw [enactTo_of_not_mismatch act source action rest hm]
      rfl
    | succ place =>
      obtain ⟨first, skipped⟩ := clause
      have hhead := hbefore 0 place.succ_pos _ (trial_cons_zero ..)
      rw [trial_cons_succ] at htrial
      rw [enactTo_of_mismatch act source skipped rest hhead]
      apply ih hclause htrial
      intro earlier hlt other ho
      exact hbefore (earlier + 1) (Nat.succ_lt_succ hlt) other ((trial_cons_succ ..).trans ho)

end Enact

section Recording

variable (invoke : α → Scope → Except Failure Value) {source : Value} {e : Engine}
  {clauses : List (WideText × α)}

theorem dispatchTo_of_mismatches
    (h : ∀ place outcome, e.trial source clauses place = some outcome →
      outcome.isMismatch = true) :
    e.dispatchTo invoke source clauses =
      ⟨.ok .null, none, e.requestAll (clauses.map Prod.fst)⟩ := by
  unfold dispatchTo
  rw [enactTo_of_mismatches (recording invoke) source h]
  rfl

theorem dispatchTo_of_first {place : Nat} {pattern : WideText} {action : α} {outcome : Outcome}
    (hclause : clauses[place]? = some (pattern, action))
    (htrial : e.trial source clauses place = some outcome) (hm : outcome.isMismatch = false)
    (hbefore : ∀ earlier < place, ∀ other, e.trial source clauses earlier = some other →
      other.isMismatch = true) :
    e.dispatchTo invoke source clauses =
      let next := e.requestAll ((clauses.take (place + 1)).map Prod.fst)
      match outcome.failure with
      | none => ⟨invoke action outcome.scope, some outcome.scope, next⟩
      | some failure => ⟨.error failure, none, next⟩ := by
  unfold dispatchTo
  rw [enactTo_of_first (recording invoke) source hclause htrial hm hbefore]
  cases outcome.failure <;> rfl

theorem dispatch_of_ok {written : Clauses α} (h : written.resolve = .ok clauses) :
    e.dispatch invoke source written = e.dispatchTo invoke source clauses := by
  unfold dispatch enact
  rw [h]
  rfl

theorem dispatch_of_error {written : Clauses α} {failure : Failure}
    (h : written.resolve = .error failure) :
    e.dispatch invoke source written = ⟨.error failure, none, e⟩ := by
  unfold dispatch enact
  rw [h]
  rfl

end Recording

def tried (source : Value) (e : Engine) : List (WideText × α) → List WideText
  | [] => []
  | (pattern, _) :: rest =>
    pattern ::
      if (e.destructure pattern source .empty).1.isMismatch then
        tried source (e.request pattern).2 rest
      else []

theorem mem_of_mem_tried {e : Engine} {source : Value} {clauses : List (WideText × α)}
    {text : WideText} (h : text ∈ e.tried source clauses) : text ∈ clauses.map Prod.fst := by
  induction clauses generalizing e with
  | nil => cases h
  | cons clause rest ih =>
    obtain ⟨pattern, action⟩ := clause
    rw [tried] at h
    rcases List.mem_cons.mp h with rfl | h
    · exact List.mem_cons_self ..
    · split at h
      · exact List.mem_cons_of_mem _ (ih h)
      · cases h

/-- A dispatch leaves the engine as requests for the patterns that it tries do. -/
theorem engine_dispatchTo (invoke : α → Scope → Except Failure Value) (source : Value) (e : Engine)
    (clauses : List (WideText × α)) :
    (e.dispatchTo invoke source clauses).engine = e.requestAll (e.tried source clauses) := by
  induction clauses generalizing e with
  | nil => rfl
  | cons clause rest ih =>
    obtain ⟨pattern, action⟩ := clause
    rw [dispatchTo_cons, tried, requestAll_cons, Outcome.isMismatch]
    dsimp only
    cases (e.destructure pattern source .empty).1.failure with
    | none => rfl
    | some failure =>
      rw [Option.any_some]
      dsimp only
      split
      · exact ih _
      · rfl

/-- The first clause that is no mismatch decides a dispatch. Without one the result is null and no
action is enacted. Where its match fails otherwise, that failure is the result and no action is
enacted. Where it succeeds, its action is enacted, once, with its bindings, and what the action
answers is the result; the bindings are those of the variables of its pattern and no others. The
patterns up to the deciding clause are compiled and no others. A clause matches as if it were the
only one, unless two patterns share a fingerprint. -/
theorem dispatch_firstMatch {m : Type → Type} [Monad m] (e : Engine) (source : Value)
    {written : Clauses α} {clauses : List (WideText × α)} (hvalid : written.resolve = .ok clauses)
    (invoke : α → Scope → Except Failure Value)
    (act : α → Scope → Engine → m (Except Failure Value × Engine)) :
    let patterns := clauses.map Prod.fst
    let comesTo := fun place outcome => e.trial source clauses place = some outcome
    ((∀ place outcome, comesTo place outcome → outcome.isMismatch = true) →
      e.dispatch invoke source written = ⟨.ok .null, none, e.requestAll patterns⟩ ∧
      e.enact act source written = pure (.ok .null, e.requestAll patterns)) ∧
    (∀ place pattern action outcome, clauses[place]? = some (pattern, action) →
      comesTo place outcome → outcome.isMismatch = false →
      (∀ earlier < place, ∀ other, comesTo earlier other → other.isMismatch = true) →
      let before := e.requestAll (patterns.take place)
      let next := e.requestAll (patterns.take (place + 1))
      (∀ failure, outcome.failure = some failure →
        e.dispatch invoke source written = ⟨.error failure, none, next⟩ ∧
        e.enact act source written = pure (.error failure, next)) ∧
      (outcome.failure = none →
        e.dispatch invoke source written =
          ⟨invoke action outcome.scope, some outcome.scope, next⟩ ∧
        e.enact act source written = act action outcome.scope next ∧
        ∃ compiled, (before.request pattern).1 = .ok compiled ∧
          ∀ name, name ∈ outcome.scope.names ↔ name ∈ compiled.tree.variableNames)) ∧
    (FingerprintsApart patterns →
      ∀ place pattern action, clauses[place]? = some (pattern, action) →
        comesTo place (e.destructure pattern source .empty).1) := by
  intro patterns comesTo
  have henact : e.enact act source written = e.enactTo act source clauses := by
    unfold enact
    rw [hvalid]
  rw [dispatch_of_ok invoke hvalid, henact]
  refine ⟨fun h => ⟨?_, ?_⟩, ?_, ?_⟩
  · exact dispatchTo_of_mismatches invoke h
  · exact enactTo_of_mismatches act source h
  · intro place pattern action outcome hclause htrial hm hbefore before next
    have hd := dispatchTo_of_first invoke hclause htrial hm hbefore
    have ha := enactTo_of_first act source hclause htrial hm hbefore
    have hnames := mem_names_of_trial hclause htrial
    rw [List.map_take] at hd ha hnames
    refine ⟨fun failure hf => ⟨?_, ?_⟩, fun hf => ⟨?_, ?_, hnames hf⟩⟩
    · rw [hd, hf]
    · rw [ha, hf]
    · rw [hd, hf]
    · rw [ha, hf]
  · intro apart place pattern action hclause
    exact trial_of_apart e source apart hclause

def anything : Compiled where
  text := "_"
  fingerprint := Text.Digest.ofString "_"
  tree := .variable "_" false
  condition := none

theorem compile_anything : compile "_" = .ok anything := by
  have h : readPattern "_" = .ok (.variable "_" false, none) := by
    rfl
  exact compile_eq_ok_iff.mpr ⟨h, by rw [anything], by rw [anything]⟩

/-- A number that is not below one comes to the second clause, whose action is enacted without
bindings. -/
theorem dispatch_firstMatch_anything :
    let clauses : Clauses Value := .items [
      .tuple [.text "n when n < 1", .action (.text "low")],
      .tuple [.text "_", .action (.text "other")]]
    let e := Engine.new .overwrite
    e.dispatch (fun action _ => .ok action) (.int 5) clauses =
      ⟨.ok (.text "other"), some .empty, e.requestAll ["n when n < 1", "_"]⟩ := by
  intro clauses e
  have hvalid : clauses.resolve =
      .ok [("n when n < 1", Value.text "low"), ("_", Value.text "other")] := rfl
  have hmain := dispatch_firstMatch (m := Id) e (.int 5) hvalid (fun action _ => .ok action)
    (fun action _ next => (.ok action, next))
  have hdigests : DigestsApart ["n when n < 1", "_"] := by
    unfold DigestsApart
    decide +kernel
  have apart : FingerprintsApart ["n when n < 1", "_"] := hdigests.fingerprintsApart
  have hlow : (e.destructure "n when n < 1" (.int 5) .empty).1 =
      belowOne.bindIn .overwrite (.int 5) .empty :=
    destructure_of_request ((request_new ..).trans compile_belowOne) _ _
  have hother : (e.destructure "_" (.int 5) .empty).1 = .matched .empty :=
    destructure_of_request ((request_new ..).trans compile_anything) _ _
  have hfirst := hmain.2.2 apart 0 _ _ rfl
  have hsecond := hmain.2.2 apart 1 _ _ rfl
  rw [hlow] at hfirst
  rw [hother] at hsecond
  refine ((hmain.2.1 1 _ _ _ rfl hsecond rfl ?_).2 rfl).1
  intro earlier hlt other ho
  obtain rfl : earlier = 0 := by omega
  obtain rfl := Option.some.inj (hfirst.symm.trans ho)
  decide +kernel

end Engine

end Destructure
