import Destructure.Session
import Destructure.Proofs.Dispatch

/-!
What the cache of an engine does for its caller: nothing but to save work. Main statement: whatever
an engine has been used for, each of its answers is that of a new engine with the same policy, and
two requests for one text come to one entry, which stays where it is.
-/

namespace Destructure

namespace Engine

def AnswersAnew (e : Engine) (texts : List WideText) : Prop :=
  ∀ text ∈ texts, (e.request text).1 = compile text

theorem answersAnew_new (policy : Policy) (texts : List WideText) :
    (Engine.new policy).AnswersAnew texts := by
  intro text _
  exact request_new policy text

variable {texts : List WideText} {e e' : Engine}

theorem AnswersAnew.requestAll (apart : FingerprintsApart texts) (h : e.AnswersAnew texts)
    {requested : List WideText} (hsub : requested ⊆ texts) :
    (e.requestAll requested).AnswersAnew texts := by
  intro text hm
  rw [fst_request_requestAll e fun other ho => apart other (hsub ho) text hm]
  exact h text hm

theorem AnswersAnew.request (apart : FingerprintsApart texts) (h : e.AnswersAnew texts)
    {text : WideText} (hm : text ∈ texts) : (e.request text).2.AnswersAnew texts :=
  h.requestAll apart (List.cons_subset.mpr ⟨hm, List.nil_subset texts⟩)

/-- The policy plays no part in it. -/
theorem AnswersAnew.of_cache_eq (h : e.AnswersAnew texts) (hc : e'.cache = e.cache) :
    e'.AnswersAnew texts := by
  intro text hm
  rw [← h text hm, request_eq, request_eq, hc]

theorem AnswersAnew.fst_request_eq (h : e.AnswersAnew texts) (h' : e'.AnswersAnew texts)
    {text : WideText} (hm : text ∈ texts) : (e.request text).1 = (e'.request text).1 := by
  rw [h text hm, h' text hm]

/-- Of two such engines with one policy, both dispatch in the same way. -/
theorem AnswersAnew.dispatchTo_eq {α : Type} (apart : FingerprintsApart texts)
    (hp : e.policy = e'.policy) (h : e.AnswersAnew texts) (h' : e'.AnswersAnew texts)
    (invoke : α → Scope → Except Failure Value) (source : Value) {clauses : List (WideText × α)}
    (hsub : clauses.map Prod.fst ⊆ texts) :
    (e.dispatchTo invoke source clauses).result = (e'.dispatchTo invoke source clauses).result ∧
      (e.dispatchTo invoke source clauses).invoked =
        (e'.dispatchTo invoke source clauses).invoked := by
  induction clauses generalizing e e' with
  | nil => exact ⟨rfl, rfl⟩
  | cons clause rest ih =>
    obtain ⟨pattern, action⟩ := clause
    obtain ⟨hm, hrest⟩ := List.cons_subset.mp hsub
    have hsame := fst_destructure_congr hp (h.fst_request_eq h' hm) source .empty
    rw [dispatchTo_cons, dispatchTo_cons, hsame]
    dsimp only
    cases (e'.destructure pattern source .empty).1.failure with
    | none => exact ⟨rfl, rfl⟩
    | some failure =>
      dsimp only
      split
      · exact ih hp (h.request apart hm) (h'.request apart hm) hrest
      · exact ⟨rfl, rfl⟩

end Engine

def Argument.texts : Argument → List WideText
  | .text t => [t]
  | .other _ _ => []

variable {α : Type}

def Clauses.texts (clauses : Clauses α) : List WideText :=
  match clauses.resolve with
  | .ok resolved => resolved.map Prod.fst
  | .error _ => []

def Command.texts : Command α → List WideText
  | .compile pattern | .destructure pattern _ _ => pattern.texts
  | .dispatch _ clauses => clauses.texts
  | .setPolicy _ | .setScope _ _ => []

theorem Command.texts_subset {part commands : List (Command α)} (h : part ⊆ commands) :
    part.flatMap Command.texts ⊆ commands.flatMap Command.texts := by
  intro text ht
  obtain ⟨command, hc, htext⟩ := List.mem_flatMap.mp ht
  exact List.mem_flatMap.mpr ⟨command, h hc, htext⟩

def Command.newPolicy (old : Policy) : Command α → Policy
  | .setPolicy policy => policy
  | .compile _ | .destructure _ _ _ | .dispatch _ _ | .setScope _ _ => old

namespace Engine

/-- A request for a value is one for its text, if it is a text, and else none. -/
theorem snd_requestArgument (e : Engine) (pattern : Argument) :
    (e.requestArgument pattern).2 = e.requestAll pattern.texts := by
  cases pattern <;> rfl

theorem snd_destructureArgument (e : Engine) (pattern : Argument) (source : Value)
    (scope : Scope) :
    (e.destructureArgument pattern source scope).2 = e.requestAll pattern.texts := by
  cases pattern with
  | text t => exact snd_destructure source scope
  | other v _ => rfl

variable {texts : List WideText} {e e' : Engine}

theorem AnswersAnew.fst_requestArgument_eq (h : e.AnswersAnew texts) (h' : e'.AnswersAnew texts)
    {pattern : Argument} (hsub : pattern.texts ⊆ texts) :
    (e.requestArgument pattern).1 = (e'.requestArgument pattern).1 := by
  cases pattern with
  | text t => exact h.fst_request_eq h' (List.cons_subset.mp hsub).1
  | other v _ => rfl

theorem AnswersAnew.fst_destructureArgument_eq (hp : e.policy = e'.policy) (h : e.AnswersAnew texts)
    (h' : e'.AnswersAnew texts) {pattern : Argument} (hsub : pattern.texts ⊆ texts) (source : Value)
    (scope : Scope) :
    (e.destructureArgument pattern source scope).1 =
      (e'.destructureArgument pattern source scope).1 := by
  cases pattern with
  | text t =>
    exact fst_destructure_congr hp (h.fst_request_eq h' (List.cons_subset.mp hsub).1) _ _
  | other v _ => rfl

theorem AnswersAnew.dispatch_eq (apart : FingerprintsApart texts) (hp : e.policy = e'.policy)
    (h : e.AnswersAnew texts) (h' : e'.AnswersAnew texts)
    (invoke : α → Scope → Except Failure Value) (source : Value) {clauses : Clauses α}
    (hsub : clauses.texts ⊆ texts) :
    (e.dispatch invoke source clauses).result = (e'.dispatch invoke source clauses).result ∧
      (e.dispatch invoke source clauses).invoked =
        (e'.dispatch invoke source clauses).invoked := by
  unfold Clauses.texts at hsub
  cases hr : clauses.resolve with
  | error failure =>
    rw [dispatch_of_error invoke hr, dispatch_of_error invoke hr]
    exact ⟨rfl, rfl⟩
  | ok resolved =>
    rw [hr] at hsub
    rw [dispatch_of_ok invoke hr, dispatch_of_ok invoke hr]
    exact h.dispatchTo_eq apart hp h' invoke source hsub

end Engine

namespace Session

variable (invoke : α → Scope → Except Failure Value)

def requests (s : Session) : Command α → List WideText
  | .compile pattern | .destructure pattern _ _ => pattern.texts
  | .dispatch source clauses =>
    match clauses.resolve with
    | .ok resolved => s.engine.tried source resolved
    | .error _ => []
  | .setPolicy _ | .setScope _ _ => []

theorem requests_dispatch (s : Session) (source : Value) (clauses : Clauses α) :
    s.requests (.dispatch source clauses) =
      match clauses.resolve with
      | .ok resolved => s.engine.tried source resolved
      | .error _ => [] :=
  rfl

theorem requests_subset (s : Session) (command : Command α) :
    s.requests command ⊆ command.texts := by
  intro text h
  cases command with
  | dispatch source clauses =>
    change text ∈ clauses.texts
    rw [requests_dispatch] at h
    unfold Clauses.texts
    cases hr : clauses.resolve with
    | error failure =>
      rw [hr] at h
      cases h
    | ok resolved =>
      rw [hr] at h
      exact Engine.mem_of_mem_tried h
  | _ => exact h

/-- A command leaves the engine as the requests for its texts do, but for the policy that it
sets. -/
theorem engine_perform (s : Session) (command : Command α) :
    (s.perform invoke command).2.engine =
      ⟨command.newPolicy s.engine.policy,
        s.engine.cache.requestAll compile (s.requests command)⟩ := by
  have hrequest (texts : List WideText) :
      s.engine.requestAll texts =
        ⟨s.engine.policy, s.engine.cache.requestAll compile texts⟩ := by
    rw [Engine.requestAll_eq]
  cases command with
  | compile pattern =>
    rw [requests, Command.newPolicy, ← hrequest, ← Engine.snd_requestArgument]
    rfl
  | destructure pattern source scope =>
    cases scope with
    | none =>
      rw [requests, Command.newPolicy, ← hrequest,
        ← Engine.snd_destructureArgument _ _ source .empty]
      rfl
    | some name =>
      rw [requests, Command.newPolicy, ← hrequest,
        ← Engine.snd_destructureArgument _ _ source (s.scopes name)]
      rfl
  | dispatch source clauses =>
    change (s.engine.dispatch invoke source clauses).engine = _
    rw [requests_dispatch, Command.newPolicy]
    cases hr : clauses.resolve with
    | error failure =>
      rw [Engine.dispatch_of_error invoke hr]
      rfl
    | ok resolved =>
      rw [Engine.dispatch_of_ok invoke hr, Engine.engine_dispatchTo, hrequest]
  | setPolicy policy => rfl
  | setScope name scope => rfl

theorem cache_perform (s : Session) (command : Command α) :
    (s.perform invoke command).2.engine.cache =
      s.engine.cache.requestAll compile (s.requests command) := by
  rw [engine_perform]

theorem setScope_self (s : Session) (name : String) : s.setScope name (s.scopes name) = s := by
  have hscopes : (fun other => if other = name then s.scopes name else s.scopes other) =
      s.scopes := by
    funext other
    split
    · next h => rw [h]
    · rfl
  rw [setScope, hscopes]

theorem after_cons (s : Session) (command : Command α) (rest : List (Command α)) :
    s.after invoke (command :: rest) = (s.perform invoke command).2.after invoke rest :=
  rfl

/-- What every command of a row keeps, the row keeps. -/
theorem invariant_after {P : Session → Prop} {commands : List (Command α)}
    (hstep : ∀ s, ∀ command ∈ commands, P s → P (s.perform invoke command).2) {s : Session}
    (hs : P s) : P (s.after invoke commands) := by
  induction commands generalizing s with
  | nil => exact hs
  | cons command rest ih =>
    have hfirst : P (s.perform invoke command).2 := hstep s command (List.mem_cons_self ..) hs
    have hrest : ∀ s, ∀ other ∈ rest, P s → P (s.perform invoke other).2 :=
      fun s other hm => hstep s other (List.mem_cons_of_mem _ hm)
    exact ih hrest hfirst

section Entries

variable {s : Session}

theorem entries_isPrefix_perform (command : Command α) :
    s.engine.cache.entries <+: (s.perform invoke command).2.engine.cache.entries := by
  rw [cache_perform]
  exact Cache.entries_isPrefix_requestAll ..

theorem entries_isPrefix_after (commands : List (Command α)) :
    s.engine.cache.entries <+: (s.after invoke commands).engine.cache.entries := by
  apply invariant_after invoke (P := fun t => s.engine.cache.entries <+: t.engine.cache.entries)
  · intro t command _ ht
    exact ht.trans (entries_isPrefix_perform invoke command)
  · exact List.prefix_refl _

theorem nodup_keys_perform (apart : s.engine.cache.keys.Nodup) (command : Command α) :
    (s.perform invoke command).2.engine.cache.keys.Nodup := by
  rw [cache_perform]
  exact Cache.nodup_keys_requestAll compile apart _

theorem nodup_keys_after (apart : s.engine.cache.keys.Nodup) (commands : List (Command α)) :
    (s.after invoke commands).engine.cache.keys.Nodup := by
  apply invariant_after invoke (P := fun t => t.engine.cache.keys.Nodup)
  · intro t command _ ht
    exact nodup_keys_perform invoke ht command
  · exact apart

end Entries

/-- A text that has an entry is requested without a change to the entries. -/
theorem entries_perform_compile {s : Session} {text : WideText} {key : String} {entry : Compiled}
    (hkey : fingerprint text = .ok key) (h : s.engine.cache.find? key = some entry) :
    (s.perform invoke (.compile (.text text) : Command α)).2.engine.cache.entries =
      s.engine.cache.entries := by
  rw [cache_perform, requests, Argument.texts, Cache.requestAll_cons, Cache.requestAll_nil,
    Cache.requestText_of_fingerprint hkey, Cache.request_of_find? h, Cache.entries_countHit]

section Anew

variable {texts : List WideText} {s s' : Session}

theorem answersAnew_perform (apart : FingerprintsApart texts) (h : s.engine.AnswersAnew texts)
    {command : Command α} (hsub : command.texts ⊆ texts) :
    (s.perform invoke command).2.engine.AnswersAnew texts := by
  have hrequested := List.Subset.trans (s.requests_subset command) hsub
  apply (h.requestAll apart hrequested).of_cache_eq
  rw [cache_perform, Engine.requestAll_eq]

theorem answersAnew_after (apart : FingerprintsApart texts) (h : s.engine.AnswersAnew texts)
    {commands : List (Command α)} (hsub : commands.flatMap Command.texts ⊆ texts) :
    (s.after invoke commands).engine.AnswersAnew texts := by
  apply invariant_after invoke (P := fun t => t.engine.AnswersAnew texts)
  · intro t command hm ht
    have hcommand : command.texts ⊆ texts := by
      intro text htext
      exact hsub (List.mem_flatMap.mpr ⟨command, hm, htext⟩)
    exact answersAnew_perform invoke apart ht hcommand
  · exact h

/-- What has been compiled before makes no difference to a command. -/
theorem perform_eq_of_answersAnew (apart : FingerprintsApart texts)
    (hp : s.engine.policy = s'.engine.policy) (hs : s.scopes = s'.scopes)
    (h : s.engine.AnswersAnew texts) (h' : s'.engine.AnswersAnew texts) {command : Command α}
    (hsub : command.texts ⊆ texts) :
    (s.perform invoke command).1 = (s'.perform invoke command).1 ∧
      (s.perform invoke command).2.renewed = (s'.perform invoke command).2.renewed := by
  have hpolicy : (s.perform invoke command).2.engine.policy =
      (s'.perform invoke command).2.engine.policy := by
    rw [engine_perform, engine_perform, hp]
  suffices hrest : (s.perform invoke command).1 = (s'.perform invoke command).1 ∧
      (s.perform invoke command).2.scopes = (s'.perform invoke command).2.scopes by
    refine ⟨hrest.1, ?_⟩
    rw [renewed, renewed, hpolicy, hrest.2]
  -- the two engines differ in their caches, which are asked for the texts of the command only
  obtain ⟨e, scopes⟩ := s
  obtain ⟨e', scopes'⟩ := s'
  obtain rfl : scopes = scopes' := hs
  cases command with
  | compile pattern =>
    have hsame := h.fst_requestArgument_eq h' hsub
    exact ⟨congrArg Reply.compiled hsame, rfl⟩
  | destructure pattern source scope =>
    cases scope with
    | none =>
      have hsame := h.fst_destructureArgument_eq hp h' hsub source .empty
      exact ⟨congrArg Reply.destructured hsame, rfl⟩
    | some name =>
      have hsame := h.fst_destructureArgument_eq hp h' hsub source (scopes name)
      refine ⟨congrArg Reply.destructured hsame, ?_⟩
      exact congrArg (fun outcome : Outcome => fun other =>
        if other = name then outcome.scope else scopes other) hsame
  | dispatch source clauses =>
    have hsame := h.dispatch_eq apart hp h' invoke source hsub
    exact ⟨congrArg₂ Reply.dispatched hsame.1 hsame.2, rfl⟩
  | setPolicy policy => exact ⟨rfl, rfl⟩
  | setScope name scope => exact ⟨rfl, rfl⟩

/-- What the compilation of a text alone comes to is what a request answers and has stored. -/
theorem perform_compile (h : s.engine.AnswersAnew texts) {text : WideText} (hm : text ∈ texts) :
    let compiled := s.perform invoke (.compile (.text text) : Command α)
    compiled.1 = .compiled (compile text) ∧
      ∀ key, fingerprint text = .ok key →
        compiled.2.engine.cache.find? key = (compile text).toOption := by
  intro compiled
  have hanswer := h text hm
  refine ⟨congrArg Reply.compiled hanswer, fun key hkey => ?_⟩
  rw [Engine.request_eq, Cache.requestText_of_fingerprint hkey] at hanswer
  rw [cache_perform, requests, Argument.texts, Cache.requestAll_cons, Cache.requestAll_nil,
    Cache.requestText_of_fingerprint hkey, Cache.find?_request_self]
  exact congrArg Except.toOption hanswer

end Anew

/-- What an engine has been used for makes no difference to what it answers. In a row of commands in
which no two pattern texts share a fingerprint, each command has the reply, and leaves the policy
and the scopes, that it would have with a new engine. Two requests for one text, whatever happens
between them, are both answered by what compiling the text alone comes to. If that is an entry, it
is stored once under its fingerprint, by the first of them, and the second finds it in the same
place. -/
theorem perform_eq_renewed (policy : Policy) (scopes : String → Scope)
    (commands : List (Command α)) (apart : FingerprintsApart (commands.flatMap Command.texts)) :
    let start : Session := ⟨.new policy, scopes⟩
    (∀ before command after, commands = before ++ command :: after →
      let s := start.after invoke before
      (s.perform invoke command).1 = (s.renewed.perform invoke command).1 ∧
        (s.perform invoke command).2.renewed = (s.renewed.perform invoke command).2.renewed) ∧
    (∀ before between after text, commands =
        before ++ .compile (.text text) :: (between ++ .compile (.text text) :: after) →
      let first := (start.after invoke before).perform invoke (.compile (.text text))
      let s := first.2.after invoke between
      let second := s.perform invoke (.compile (.text text))
      first.1 = .compiled (compile text) ∧ second.1 = .compiled (compile text) ∧
      ∀ entry, compile text = .ok entry →
        second.2.engine.cache.entries = s.engine.cache.entries ∧
        fingerprint text = .ok entry.fingerprint ∧
        ∃ place : Nat, first.2.engine.cache.entries[place]? = some (entry.fingerprint, entry) ∧
          second.2.engine.cache.entries[place]? = some (entry.fingerprint, entry) ∧
          ∀ (other : Nat) entry',
            second.2.engine.cache.entries[other]? = some (entry.fingerprint, entry') →
              other = place) := by
  intro start
  have hstart := Engine.answersAnew_new policy (commands.flatMap Command.texts)
  constructor
  · intro before command after hsplit s
    have hbefore : before ⊆ commands := hsplit ▸ List.subset_append_left ..
    have hcommand : command.texts ⊆ commands.flatMap Command.texts := by
      rw [hsplit]
      simp
    have hs : s.engine.AnswersAnew (commands.flatMap Command.texts) :=
      answersAnew_after invoke (s := start) apart hstart (Command.texts_subset hbefore)
    have hrenewed : s.renewed.engine.AnswersAnew (commands.flatMap Command.texts) :=
      Engine.answersAnew_new s.engine.policy _
    exact perform_eq_of_answersAnew invoke apart (by rfl) (by rfl) hs hrenewed hcommand
  · intro before between after text hsplit first s second
    have hbefore : before ⊆ commands := hsplit ▸ List.subset_append_left ..
    have hbetween : between ⊆ commands := by
      intro command hc
      rw [hsplit]
      simp [hc]
    have htext : (Command.compile (.text text) : Command α).texts ⊆
        commands.flatMap Command.texts := by
      rw [hsplit]
      simp
    have hm : text ∈ commands.flatMap Command.texts := htext (List.mem_cons_self ..)
    have hearlier := answersAnew_after invoke (s := start) apart hstart
      (Command.texts_subset hbefore)
    have hlater : s.engine.AnswersAnew (commands.flatMap Command.texts) :=
      answersAnew_after invoke apart (answersAnew_perform invoke apart hearlier htext)
        (Command.texts_subset hbetween)
    obtain ⟨hfirst, hstored⟩ := perform_compile invoke hearlier hm
    obtain ⟨hsecond, -⟩ := perform_compile invoke hlater hm
    refine ⟨hfirst, hsecond, fun entry hc => ?_⟩
    have hkey := fingerprint_of_compile hc
    have hstored := hstored entry.fingerprint hkey
    rw [hc] at hstored
    have hapart : s.engine.cache.keys.Nodup :=
      nodup_keys_after invoke (s := first.2)
        (nodup_keys_perform invoke (nodup_keys_after invoke Cache.nodup_keys_empty before) _)
        between
    have hkept : first.2.engine.cache.entries <+: s.engine.cache.entries :=
      entries_isPrefix_after invoke between
    obtain ⟨hfound, place, hplace, hlater, hunique⟩ := Cache.exists_place hapart hkept hstored
    have hsame : second.2.engine.cache.entries = s.engine.cache.entries :=
      entries_perform_compile invoke hkey hfound
    rw [hsame]
    exact ⟨rfl, hkey, place, hplace, hlater, hunique⟩

/-- A pattern that is compiled again after a match and under another policy. -/
theorem perform_eq_renewed_belowOne :
    let invoke : Value → Scope → Except Failure Value := fun action _ => .ok action
    let again : Command Value := .compile (.text "n when n < 1")
    let between : List (Command Value) :=
      [.setPolicy .agree, .destructure (.text "_") (.int 5) none]
    FingerprintsApart ((again :: (between ++ [again])).flatMap Command.texts) ∧
      let s := ((Session.start .overwrite).perform invoke again).2.after invoke between
      (s.perform invoke again).1 = .compiled (.ok belowOne) ∧
        (s.perform invoke again).2.engine.cache.entries = s.engine.cache.entries := by
  intro invoke again between
  have hdigests : DigestsApart ["n when n < 1", "_", "n when n < 1"] := by
    unfold DigestsApart
    decide +kernel
  have apart : FingerprintsApart ((again :: (between ++ [again])).flatMap Command.texts) :=
    hdigests.fingerprintsApart
  refine ⟨apart, ?_⟩
  have hmain := perform_eq_renewed invoke .overwrite (fun _ => .empty) _ apart
  have hstart : Session.after invoke ⟨.new .overwrite, fun _ => .empty⟩ [] = .start .overwrite :=
    rfl
  obtain ⟨-, hsecond, hstored⟩ := hmain.2 [] between [] "n when n < 1" rfl
  have hagain : Command.compile (.text "n when n < 1") = again := rfl
  have hcompiled : compile "n when n < 1" = .ok belowOne := Engine.compile_belowOne
  obtain ⟨hsame, -⟩ := hstored belowOne hcompiled
  rw [hstart, hagain] at hsecond hsame
  rw [hcompiled] at hsecond
  exact ⟨hsecond, hsame⟩

end Session

end Destructure
