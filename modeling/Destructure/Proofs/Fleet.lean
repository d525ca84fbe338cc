import Destructure.Fleet
import Destructure.Proofs.Session

/-!
What the counters of a shared cache say. Main statement: whichever engines have been used for
whatever, hits and misses add up to the requests for texts that can be encoded, and the entries to the
misses that did not fail.
-/

namespace Destructure.Fleet

variable {ι α : Type}

def requests (f : Fleet ι) : Demand ι α → List WideText
  | .perform engine command => (f.session engine).requests command
  | .get _ | .contains _ => []

variable [DecidableEq ι] (invoke : α → Scope → Except Failure Value)

def requested (f : Fleet ι) : List (Demand ι α) → List WideText
  | [] => []
  | demand :: rest => f.requests demand ++ requested (f.serve invoke demand).2 rest

theorem after_cons (f : Fleet ι) (demand : Demand ι α) (rest : List (Demand ι α)) :
    f.after invoke (demand :: rest) = (f.serve invoke demand).2.after invoke rest :=
  rfl

/-- A demand leaves the cache as the requests for its texts do. -/
theorem cache_serve (f : Fleet ι) (demand : Demand ι α) :
    (f.serve invoke demand).2.cache = f.cache.requestAll compile (f.requests demand) := by
  cases demand with
  | perform engine command => exact Session.cache_perform invoke (f.session engine) command
  | get text => rfl
  | contains value => rfl

theorem cache_after (f : Fleet ι) (demands : List (Demand ι α)) :
    (f.after invoke demands).cache =
      f.cache.requestAll compile (f.requested invoke demands) := by
  induction demands generalizing f with
  | nil => rfl
  | cons demand rest ih =>
    rw [after_cons, ih, cache_serve, requested, Cache.requestAll_append]

theorem resume_session (f : Fleet ι) (engine : ι) : f.resume engine (f.session engine) = f := by
  have hpolicy : (fun other => if other = engine then f.policy engine else f.policy other) =
      f.policy := by
    funext other
    split
    · next h => rw [h]
    · rfl
  unfold resume session
  rw [hpolicy]

/-- A command that leaves the session of an engine as it is leaves the fleet as it is. -/
theorem serve_perform_eq_self {f : Fleet ι} {engine : ι} {command : Command α}
    (h : ((f.session engine).perform invoke command).2 = f.session engine) :
    (f.serve invoke (.perform engine command)).2 = f := by
  change f.resume engine ((f.session engine).perform invoke command).2 = f
  rw [h, resume_session]

section Idle

variable (f : Fleet ι)

theorem serve_compile_notText {pattern : Argument} (h : ∀ text, pattern ≠ .text text)
    (engine : ι) : (f.serve invoke (.perform engine (.compile pattern))).2 = f := by
  apply serve_perform_eq_self
  cases pattern with
  | text t => exact absurd rfl (h t)
  | other v _ => rfl

theorem serve_destructure_notText {pattern : Argument} (h : ∀ text, pattern ≠ .text text)
    (engine : ι) (source : Value) (scope : Option String) :
    (f.serve invoke (.perform engine (.destructure pattern source scope))).2 = f := by
  have hput (name : String) :
      (f.session engine).setScope name (f.scopes name) = f.session engine :=
    Session.setScope_self ..
  apply serve_perform_eq_self
  cases pattern with
  | text t => exact absurd rfl (h t)
  | other v _ =>
    cases scope with
    | none => rfl
    | some name => exact hput name

theorem serve_dispatch_of_error {clauses : Clauses α} {failure : Failure}
    (h : clauses.resolve = .error failure) (engine : ι) (source : Value) :
    (f.serve invoke (.perform engine (.dispatch source clauses))).2 = f := by
  apply serve_perform_eq_self
  change Session.mk ((f.session engine).engine.dispatch invoke source clauses).engine _ = _
  rw [Engine.dispatch_of_error invoke h]

/-- A text that cannot be encoded has no fingerprint to be counted under. -/
theorem serve_compile_of_encode {text : WideText} {surrogates : Unencodable}
    (h : text.encode = .error surrogates) (engine : ι) :
    f.serve invoke (.perform engine (.compile (.text text))) =
      (.reply (.compiled (.error (.unencodable surrogates))), f) := by
  have hrequest : (f.session engine).perform invoke (.compile (.text text)) =
      (.compiled (.error (.unencodable surrogates)), f.session engine) := by
    rw [Session.perform, Engine.requestArgument, Engine.request_eq,
      Cache.requestText_of_error (fingerprint_of_encode h)]
  rw [serve, hrequest]
  exact congrArg (Prod.mk _) (resume_session f engine)

end Idle

/-- The account that a shared cache keeps, whatever row of demands engines have served. Hits, misses and
the texts that cannot be encoded add up to the requests for texts; of a dispatch these are the patterns
that it tries. Each miss has led to an entry or was answered with a failure. There is an entry for each
fingerprint that was answered with one. Further demands leave the entries where they are and add entries
at most. Questions to the cache, patterns that are no texts, texts that cannot be encoded and clauses
that are not valid change nothing. -/
theorem account_after (policy : ι → Policy) (scopes : String → Scope)
    (demands : List (Demand ι α)) :
    let start : Fleet ι := ⟨.empty, policy, scopes⟩
    let f := start.after invoke demands
    let requested := start.requested invoke demands
    let answers := Cache.empty.log compile requested
    f.cache.hits + f.cache.misses + (requested.countP fun text => !text.encode.isOk) =
      requested.length ∧
    f.cache.size + (answers.countP fun answer => answer.1.encode.isOk && !answer.2.isOk) =
      f.cache.misses ∧
    f.cache.size = (Cache.answeredKeys answers).dedup.length ∧
    (∀ more, f.cache.size ≤ (f.after invoke more).cache.size ∧
      f.cache.entries <+: (f.after invoke more).cache.entries) ∧
    (∀ text, (f.serve invoke (.get text)).2 = f) ∧
    (∀ pattern, (f.serve invoke (.contains pattern)).2 = f) ∧
    (∀ engine pattern, (∀ text, pattern ≠ .text text) →
      (f.serve invoke (.perform engine (.compile pattern))).2 = f ∧
      ∀ source scope,
        (f.serve invoke (.perform engine (.destructure pattern source scope))).2 = f) ∧
    (∀ engine text surrogates, text.encode = .error surrogates →
      f.serve invoke (.perform engine (.compile (.text text))) =
        (.reply (.compiled (.error (.unencodable surrogates))), f)) ∧
    (∀ engine source clauses failure, clauses.resolve = .error failure →
      (f.serve invoke (.perform engine (.dispatch source clauses))).2 = f) ∧
    (∀ engine policy,
      (f.serve invoke (.perform engine (.setPolicy policy))).2.cache = f.cache) := by
  intro start f requested answers
  have hcache : f.cache = Cache.empty.requestAll compile requested := cache_after ..
  have hcount := Cache.count_requestAll compile .empty requested
  have hmisses := Cache.misses_requestAll compile .empty requested
  have hsize := Cache.size_requestAll_empty compile requested
  rw [← hcache] at hcount hmisses hsize
  have hcount : f.cache.hits + f.cache.misses +
    (requested.countP fun text => !text.encode.isOk) = 0 + 0 + requested.length := hcount
  have hmisses : f.cache.misses + 0 = 0 + f.cache.size +
    answers.countP fun answer => answer.1.encode.isOk && !answer.2.isOk := hmisses
  refine ⟨by omega, by omega, hsize, ?_, fun text => rfl, fun pattern => rfl, ?_, ?_, ?_, ?_⟩
  · intro more
    have hkept : f.cache.entries <+: (f.after invoke more).cache.entries := by
      rw [cache_after invoke f more]
      exact Cache.entries_isPrefix_requestAll ..
    exact ⟨hkept.length_le, hkept⟩
  · intro engine pattern h
    exact ⟨serve_compile_notText invoke f h engine, serve_destructure_notText invoke f h engine⟩
  · intro engine text surrogates h
    exact serve_compile_of_encode invoke f h engine
  · intro engine source clauses failure h
    exact serve_dispatch_of_error invoke f h engine source
  · intro engine policy
    rfl

/-- Two engines that share a cache: four requests for texts, of which one cannot be compiled and one
cannot be encoded, and a pattern that is no text. -/
theorem account_after_shared :
    let invoke : Value → Scope → Except Failure Value := fun action _ => .ok action
    let lone : WideText := [.surrogate 0]
    let demands : List (Demand Bool Value) := [
      .perform false (.compile (.text "_")),
      .perform true (.destructure (.text "_") (.int 5) none),
      .contains (.text "_"),
      .perform false (.compile (.text lone)),
      .perform true (.compile (.text ""))]
    let start : Fleet Bool := ⟨.empty, fun _ => .overwrite, fun _ => .empty⟩
    let f := start.after invoke demands
    f.cache.hits + f.cache.misses + 1 = 4 ∧
      (f.serve invoke (.perform true (.compile (.other (.int 5) rfl)))).2 = f ∧
      f.serve invoke (.perform true (.compile (.text lone))) =
        (.reply (.compiled (.error (.unencodable ⟨0, 0, 1⟩))), f) := by
  intro invoke lone demands start
  have hnumber (text : WideText) : Argument.other (.int 5) rfl ≠ .text text := fun h => by cases h
  have hlone : lone.encode = .error ⟨0, 0, 1⟩ := rfl
  have hrequested : start.requested invoke demands =
      [WideText.ofString "_", WideText.ofString "_", lone, WideText.ofString ""] := rfl
  have hmain := account_after invoke start.policy start.scopes demands
  change let f := start.after invoke demands; _ at hmain
  dsimp only at hmain ⊢
  generalize start.after invoke demands = f at hmain ⊢
  obtain ⟨hcount, -, -, -, -, -, hnotText, hlater, -⟩ := hmain
  rw [hrequested] at hcount
  exact ⟨hcount, (hnotText true _ hnumber).1, hlater true lone _ hlone⟩

end Destructure.Fleet
