import Mathlib.Algebra.BigOperators.Group.List.Basic
import Mathlib.Algebra.Ring.Nat
import Destructure.Cache.Workers
import Destructure.Proofs.Cache.Request

/-!
Workers at one cache, in any order of their steps. What is known at a stage of a worker is kept by
the steps of all other workers, because they respect the two locks. Main statement: each text is
made at most once, and at the end the counters are right.
-/

namespace Destructure.Cache

variable {α : Type}

inductive Counting.Moves (index : Nat) (s : Shared α) (count : Nat) (set : Nat → Cache α) :
    Counting → Counting → Shared α → Prop
  | waits {clerk : Nat} (hc : s.clerk = some clerk) : Moves index s count set .acquire .acquire s
  | locks (hc : s.clerk = none) :
      Moves index s count set .acquire .read { s with clerk := some index }
  | reads : Moves index s count set .read (.write count) s
  | writes {seen : Nat} :
      Moves index s count set (.write seen) .release { s with cache := set (seen + 1) }

inductive Stage.Moves (make : Nat → String → Except Failure α) (index : Nat) (text : String)
    (s : Shared α) : Stage α → Stage α → Shared α → Prop
  | finds {entry : α} (hf : s.cache.find? (Text.Digest.ofString text) = some entry) :
      Moves make index text s .look (.countHit entry false .acquire) s
  | misses (hf : s.cache.find? (Text.Digest.ofString text) = none) :
      Moves make index text s .look .acquire s
  | waits {owner : Nat} (ho : s.owner = some owner) : Moves make index text s .acquire .acquire s
  | locks (ho : s.owner = none) :
      Moves make index text s .acquire .lookAgain { s with owner := some index }
  | findsLate {entry : α} (hf : s.cache.find? (Text.Digest.ofString text) = some entry) :
      Moves make index text s .lookAgain (.countHit entry true .acquire) s
  | missesAgain (hf : s.cache.find? (Text.Digest.ofString text) = none) :
      Moves make index text s .lookAgain (.countMiss .acquire) s
  | countsMiss {counting counting' : Counting} {s' : Shared α}
      (h : counting.Moves index s s.cache.misses (fun count => { s.cache with misses := count })
        counting' s') :
      Moves make index text s (.countMiss counting) (.countMiss counting') s'
  | countedMiss : Moves make index text s (.countMiss .release) .make { s with clerk := none }
  | makes {entry : α} (hm : make s.attempts text = .ok entry) :
      Moves make index text s .make (.store entry)
        { s with attempts := s.attempts + 1, made := text :: s.made }
  | fails {failure : Failure} (hm : make s.attempts text = .error failure) :
      Moves make index text s .make (.release (.error failure))
        { s with attempts := s.attempts + 1 }
  | stores {entry : α} :
      Moves make index text s (.store entry) (.release (.ok entry))
        { s with cache := s.cache.store (Text.Digest.ofString text) entry }
  | countsHit {entry : α} {holdsLock : Bool} {counting counting' : Counting} {s' : Shared α}
      (h : counting.Moves index s s.cache.hits (fun count => { s.cache with hits := count })
        counting' s') :
      Moves make index text s (.countHit entry holdsLock counting)
        (.countHit entry holdsLock counting') s'
  | countedHit {entry : α} :
      Moves make index text s (.countHit entry false .release) (.done (.ok entry))
        { s with clerk := none }
  | countedLate {entry : α} :
      Moves make index text s (.countHit entry true .release) (.release (.ok entry))
        { s with clerk := none }
  | unlocks {result : Except Failure α} :
      Moves make index text s (.release result) (.done result) { s with owner := none }
  | rests {result : Except Failure α} :
      Moves make index text s (.done result) (.done result) s

def Counting.isClerk : Counting → Bool
  | .acquire => false
  | .read | .write _ | .release => true

def Counting.IsCurrent (count : Nat) : Counting → Prop
  | .write seen => seen = count
  | _ => True

def Counting.counted : Counting → Nat
  | .acquire | .read | .write _ => 0
  | .release => 1

namespace Stage

def isOwner : Stage α → Bool
  | .look | .acquire | .done _ => false
  | .lookAgain | .countMiss _ | .make | .store _ | .release _ => true
  | .countHit _ holdsLock _ => holdsLock

def isClerk : Stage α → Bool
  | .countMiss counting | .countHit _ _ counting => counting.isClerk
  | _ => false

def isMissing : Stage α → Bool
  | .countMiss _ | .make | .store _ => true
  | _ => false

def answer? : Stage α → Option α
  | .countHit entry _ _ => some entry
  | .release result | .done result => result.toOption
  | _ => none

def unstored (text : String) : Stage α → List String
  | .store _ => [Text.Digest.ofString text]
  | _ => []

def IsCurrent (c : Cache α) : Stage α → Prop
  | .countMiss counting => counting.IsCurrent c.misses
  | .countHit _ _ counting => counting.IsCurrent c.hits
  | _ => True

def IsMade (make : Nat → String → Except Failure α) (text : String) : Stage α → Prop
  | .store entry => ∃ attempt, make attempt text = .ok entry
  | _ => True

structure Fits (make : Nat → String → Except Failure α) (s : Shared α) (index : Nat)
    (text : String) (stage : Stage α) : Prop where
  owner : s.owner = some index ↔ stage.isOwner = true
  clerk : s.clerk = some index ↔ stage.isClerk = true
  books : stage.isOwner = true →
    s.made.map Text.Digest.ofString = stage.unstored text ++ s.cache.keys.reverse
  missing : stage.isMissing = true → s.cache.find? (Text.Digest.ofString text) = none
  found : ∀ entry, stage.answer? = some entry → s.cache.find? (Text.Digest.ofString text) = some entry
  current : stage.IsCurrent s.cache
  made : stage.IsMade make text

end Stage

structure Keeps (index : Nat) (s s' : Shared α) : Prop where
  owner : s'.owner = some index ↔ s.owner = some index
  clerk : s'.clerk = some index ↔ s.clerk = some index
  found : ∀ key entry, s.cache.find? key = some entry → s'.cache.find? key = some entry
  entries : s.owner = some index → s'.cache.entries = s.cache.entries
  made : s.owner = some index → s'.made = s.made
  hits : s.clerk = some index → s'.cache.hits = s.cache.hits
  misses : s.clerk = some index → s'.cache.misses = s.cache.misses

theorem keeps_refl (index : Nat) (s : Shared α) : Keeps index s s :=
  ⟨Iff.rfl, Iff.rfl, fun _ _ h => h, fun _ => rfl, fun _ => rfl, fun _ => rfl, fun _ => rfl⟩

variable {make : Nat → String → Except Failure α} {s s' : Shared α} {index : Nat} {text : String}
  {stage stage' : Stage α}

theorem Counting.isCurrent_congr {counting : Counting} {count count' : Nat}
    (h : counting.isClerk = true → count' = count) :
    counting.IsCurrent count' ↔ counting.IsCurrent count := by
  cases counting with
  | write seen => rw [h rfl]
  | _ => rfl

namespace Stage

theorem isCurrent_congr {c c' : Cache α}
    (hhits : stage.isClerk = true → c'.hits = c.hits)
    (hmisses : stage.isClerk = true → c'.misses = c.misses) :
    stage.IsCurrent c' ↔ stage.IsCurrent c := by
  cases stage with
  | countMiss counting => exact Counting.isCurrent_congr hmisses
  | countHit entry holdsLock counting => exact Counting.isCurrent_congr hhits
  | _ => rfl

theorem isOwner_of_isMissing (h : stage.isMissing = true) : stage.isOwner = true := by
  cases stage with
  | countMiss counting => rfl
  | make => rfl
  | store entry => rfl
  | _ => cases h

/-- What a worker relies on is left by the steps of others. -/
theorem Fits.of_keeps (h : stage.Fits make s index text) (hk : Keeps index s s') :
    stage.Fits make s' index text := by
  have hentries (ho : stage.isOwner = true) : s'.cache.entries = s.cache.entries :=
    hk.entries (h.owner.mpr ho)
  constructor
  case owner => exact hk.owner.trans h.owner
  case clerk => exact hk.clerk.trans h.clerk
  case books =>
    intro ho
    rw [hk.made (h.owner.mpr ho), keys, hentries ho]
    exact h.books ho
  case missing =>
    intro hm
    rw [find?, hentries (isOwner_of_isMissing hm)]
    exact h.missing hm
  case found =>
    intro entry he
    exact hk.found _ _ (h.found entry he)
  case current =>
    have hhits (hc : stage.isClerk = true) := hk.hits (h.clerk.mpr hc)
    have hmisses (hc : stage.isClerk = true) := hk.misses (h.clerk.mpr hc)
    exact (isCurrent_congr hhits hmisses).mpr h.current
  case made => exact h.made

/-- A worker that counts waits for the lock, or goes on. -/
theorem exists_countMiss (make : Nat → String → Except Failure α) (index : Nat) (text : String)
    (s : Shared α) (counting : Counting) :
    ∃ stage' s', (Stage.countMiss counting).Moves make index text s stage' s' ∧
      (Stage.countMiss counting).step make index text s = (stage', s') := by
  cases counting with
  | acquire =>
    unfold step Counting.step
    cases hc : s.clerk with
    | none => exact ⟨_, _, .countsMiss (.locks hc), rfl⟩
    | some clerk => exact ⟨_, _, .countsMiss (.waits hc), rfl⟩
  | read => exact ⟨_, _, .countsMiss .reads, rfl⟩
  | write seen => exact ⟨_, _, .countsMiss .writes, rfl⟩
  | release => exact ⟨_, _, .countedMiss, rfl⟩

theorem exists_countHit (make : Nat → String → Except Failure α) (index : Nat) (text : String)
    (s : Shared α) (entry : α) (holdsLock : Bool) (counting : Counting) :
    ∃ stage' s', (Stage.countHit entry holdsLock counting).Moves make index text s stage' s' ∧
      (Stage.countHit entry holdsLock counting).step make index text s = (stage', s') := by
  cases counting with
  | acquire =>
    unfold step Counting.step
    cases hc : s.clerk with
    | none => exact ⟨_, _, .countsHit (.locks hc), rfl⟩
    | some clerk => exact ⟨_, _, .countsHit (.waits hc), rfl⟩
  | read => exact ⟨_, _, .countsHit .reads, rfl⟩
  | write seen => exact ⟨_, _, .countsHit .writes, rfl⟩
  | release =>
    cases holdsLock with
    | false => exact ⟨_, _, .countedHit, rfl⟩
    | true => exact ⟨_, _, .countedLate, rfl⟩

/-- Every step is a move. -/
theorem exists_moves (make : Nat → String → Except Failure α) (index : Nat) (text : String)
    (s : Shared α) (stage : Stage α) :
    ∃ stage' s', stage.Moves make index text s stage' s' ∧
      stage.step make index text s = (stage', s') := by
  cases stage with
  | look =>
    unfold step
    cases hf : s.cache.find? (Text.Digest.ofString text) with
    | none => exact ⟨_, _, .misses hf, rfl⟩
    | some entry => exact ⟨_, _, .finds hf, rfl⟩
  | acquire =>
    unfold step
    cases ho : s.owner with
    | none => exact ⟨_, _, .locks ho, rfl⟩
    | some owner => exact ⟨_, _, .waits ho, rfl⟩
  | lookAgain =>
    unfold step
    cases hf : s.cache.find? (Text.Digest.ofString text) with
    | none => exact ⟨_, _, .missesAgain hf, rfl⟩
    | some entry => exact ⟨_, _, .findsLate hf, rfl⟩
  | countMiss counting => exact exists_countMiss make index text s counting
  | make =>
    unfold step
    cases hm : make s.attempts text with
    | ok entry => exact ⟨_, _, .makes hm, rfl⟩
    | error failure => exact ⟨_, _, .fails hm, rfl⟩
  | store entry => exact ⟨_, _, .stores, rfl⟩
  | countHit entry holdsLock counting =>
    exact exists_countHit make index text s entry holdsLock counting
  | release result => exact ⟨_, _, .unlocks, rfl⟩
  | done result => exact ⟨_, _, .rests, rfl⟩

/-- A step leaves its worker with what it relies on. -/
theorem Moves.fits (hm : stage.Moves make index text s stage' s')
    (h : stage.Fits make s index text)
    (books : s.owner = none → s.made.map Text.Digest.ofString = s.cache.keys.reverse) :
    stage'.Fits make s' index text := by
  cases hm with
  | waits _ | rests => exact h
  | misses _ => exact { h with }
  | finds hf | findsLate hf => exact { h with missing := nofun, found := fun _ he => hf.trans he }
  | locks ho =>
    exact { h with owner := iff_of_true rfl rfl, books := fun _ => books ho, missing := nofun }
  | missesAgain hf => exact { h with missing := fun _ => hf }
  | countsMiss hm | countsHit hm =>
    cases hm with
    | waits _ => exact h
    | locks _ => exact { h with clerk := iff_of_true rfl rfl, current := trivial }
    | reads => exact { h with current := rfl }
    | writes => exact { h with current := trivial }
  | countedMiss | countedHit | countedLate =>
    exact { h with clerk := iff_of_false nofun nofun, current := trivial }
  | @makes entry hmake =>
    have hbooks : (text :: s.made).map Text.Digest.ofString = [Text.Digest.ofString text] ++ s.cache.keys.reverse :=
      congrArg (Text.Digest.ofString text :: ·) (h.books rfl)
    exact { h with books := fun _ => hbooks, made := ⟨s.attempts, hmake⟩ }
  | fails _ => exact { h with missing := nofun, found := nofun }
  | @stores entry =>
    have hbooks : s.made.map Text.Digest.ofString =
        (s.cache.store (Text.Digest.ofString text) entry).keys.reverse := by
      rw [h.books rfl, keys_store, List.reverse_append]
      rfl
    have hfound : (s.cache.store (Text.Digest.ofString text) entry).find? (Text.Digest.ofString text) =
        some entry := by
      rw [find?_store, h.missing rfl, if_pos rfl]
      rfl
    exact { h with
      books := fun _ => hbooks
      missing := nofun
      found := fun _ he => hfound.trans he
      made := trivial }
  | unlocks => exact { h with owner := iff_of_false nofun nofun, books := nofun, missing := nofun }

section Others

variable {other : Nat}

theorem Fits.owner_ne (h : stage.Fits make s index text) (ho : stage.isOwner = true)
    (hne : other ≠ index) : s.owner ≠ some other := by
  rw [h.owner.mpr ho]
  intro he
  exact hne (Option.some.inj he).symm

theorem Fits.clerk_ne (h : stage.Fits make s index text) (hc : stage.isClerk = true)
    (hne : other ≠ index) : s.clerk ≠ some other := by
  rw [h.clerk.mpr hc]
  intro he
  exact hne (Option.some.inj he).symm

theorem keeps_owner {owner : Option Nat} (h : s.owner ≠ some other) (h' : owner ≠ some other) :
    Keeps other s { s with owner := owner } :=
  { keeps_refl other s with owner := iff_of_false h' h }

theorem keeps_clerk {clerk : Option Nat} (h : s.clerk ≠ some other) (h' : clerk ≠ some other) :
    Keeps other s { s with clerk := clerk } :=
  { keeps_refl other s with clerk := iff_of_false h' h }

theorem keeps_counters {c : Cache α} (h : s.clerk ≠ some other)
    (he : c.entries = s.cache.entries) : Keeps other s { s with cache := c } := by
  have hfound : c.find? = s.cache.find? := by
    funext key
    rw [find?, find?, he]
  exact { keeps_refl other s with
    found := fun key entry hf => (congrFun hfound key).trans hf
    entries := fun _ => he
    hits := fun hc => absurd hc h
    misses := fun hc => absurd hc h }

/-- A step in counting keeps what others rely on. -/
theorem keeps_counting {counting counting' : Counting} {count : Nat} {set : Nat → Cache α}
    (hm : counting.Moves index s count set counting' s') (hne : other ≠ index)
    (hclerk : counting.isClerk = true → s.clerk ≠ some other)
    (hset : ∀ count, (set count).entries = s.cache.entries) : Keeps other s s' := by
  cases hm with
  | waits _ | reads => exact keeps_refl other s
  | locks hc => exact keeps_clerk (hc ▸ nofun) fun he => hne (Option.some.inj he).symm
  | writes => exact keeps_counters (hclerk rfl) (hset _)

/-- A step keeps what other workers rely on. -/
theorem Moves.keeps (hm : stage.Moves make index text s stage' s')
    (h : stage.Fits make s index text) (hne : other ≠ index) : Keeps other s s' := by
  cases hm with
  | finds _ | misses _ | waits _ | findsLate _ | missesAgain _ | rests => exact keeps_refl other s
  | locks ho => exact keeps_owner (ho ▸ nofun) fun he => hne (Option.some.inj he).symm
  | countsMiss hm | countsHit hm =>
    exact keeps_counting hm hne (fun hc => h.clerk_ne hc hne) fun _ => rfl
  | countedMiss | countedHit | countedLate => exact keeps_clerk (h.clerk_ne rfl hne) nofun
  | makes _ =>
    exact { keeps_refl other s with made := fun ho => absurd ho (h.owner_ne rfl hne) }
  | fails _ => exact { keeps_refl other s with }
  | stores =>
    exact { keeps_refl other s with
      found := fun _ _ hf => find?_store_of_eq_some hf ..
      entries := fun ho => absurd ho (h.owner_ne rfl hne) }
  | unlocks => exact keeps_owner (h.owner_ne rfl hne) nofun

end Others

/-- The entries change only where one is stored. -/
theorem Moves.entries_eq (hm : stage.Moves make index text s stage' s') :
    s'.cache.entries = s.cache.entries ∨
      ∃ entry, stage = .store entry ∧ s'.cache = s.cache.store (Text.Digest.ofString text) entry := by
  cases hm with
  | @stores entry => exact Or.inr ⟨entry, rfl, rfl⟩
  | countsMiss hm | countsHit hm =>
    left
    cases hm <;> rfl
  | _ => exact Or.inl rfl

/-- While no worker holds the lock of the entries, the texts that have been made are those with an
entry. -/
theorem Moves.books (hm : stage.Moves make index text s stage' s')
    (h : stage.Fits make s index text)
    (books : s.owner = none → s.made.map Text.Digest.ofString = s.cache.keys.reverse) :
    s'.owner = none → s'.made.map Text.Digest.ofString = s'.cache.keys.reverse := by
  have howned (ho : stage.isOwner = true) : s.owner ≠ none := by
    rw [h.owner.mpr ho]
    nofun
  cases hm with
  | locks _ =>
    nofun
  | makes _ | fails _ | stores => exact fun ho => absurd ho (howned rfl)
  | unlocks => exact fun _ => h.books rfl
  | countsMiss hm | countsHit hm => cases hm <;> exact books
  | _ => exact books

def counted : Stage α → Nat
  | .look | .acquire | .lookAgain => 0
  | .countMiss counting | .countHit _ _ counting => counting.counted
  | .make | .store _ | .release _ | .done _ => 1

def hasBegun : Stage α → Bool
  | .look => false
  | _ => true

def isDone : Stage α → Bool
  | .done _ => true
  | _ => false

theorem exists_of_isDone (h : stage.isDone = true) : ∃ result, stage = .done result := by
  cases stage with
  | done result => exact ⟨result, rfl⟩
  | _ => cases h

theorem counted_le (stage : Stage α) : stage.counted ≤ if stage.hasBegun then 1 else 0 := by
  have hcounting (counting : Counting) : counting.counted ≤ 1 := by
    cases counting with
    | release => exact Nat.le_refl 1
    | _ => exact Nat.zero_le 1
  cases stage with
  | look => exact Nat.le_refl 0
  | acquire => exact Nat.zero_le 1
  | lookAgain => exact Nat.zero_le 1
  | countMiss counting => exact hcounting counting
  | countHit entry holdsLock counting => exact hcounting counting
  | _ => exact Nat.le_refl 1

def unmet : Stage α → Nat
  | .countMiss counting => counting.counted
  | .make | .store _ => 1
  | .release result | .done result => if result.isOk then 0 else 1
  | .look | .acquire | .lookAgain | .countHit _ _ _ => 0

/-- The counters add up to the requests that have been counted. -/
theorem Moves.counted_eq (hm : stage.Moves make index text s stage' s')
    (h : stage.Fits make s index text) :
    s'.cache.hits + s'.cache.misses + stage.counted =
      s.cache.hits + s.cache.misses + stage'.counted := by
  cases hm with
  | countsMiss hm =>
    cases hm with
    | writes =>
      obtain rfl := h.current
      rfl
    | _ => rfl
  | countsHit hm =>
    cases hm with
    | writes =>
      obtain rfl := h.current
      change s.cache.hits + 1 + s.cache.misses + 0 = s.cache.hits + s.cache.misses + 1
      omega
    | _ => rfl
  | _ => rfl

/-- A miss leads to an entry, unless it is unmet. -/
theorem Moves.unmet_eq (hm : stage.Moves make index text s stage' s')
    (h : stage.Fits make s index text) :
    s'.cache.misses + s.cache.size + stage.unmet =
      s.cache.misses + s'.cache.size + stage'.unmet := by
  cases hm with
  | countsMiss hm =>
    cases hm with
    | writes =>
      obtain rfl := h.current
      change s.cache.misses + 1 + s.cache.size + 0 = s.cache.misses + s.cache.size + 1
      omega
    | _ => rfl
  | countsHit hm => cases hm <;> rfl
  | stores =>
    change s.cache.misses + s.cache.size + 1 = s.cache.misses + (s.cache.entries ++ [_]).length + 0
    rw [List.length_append]
    rfl
  | _ => rfl

/-- A worker that takes its turn alone comes to what a request is answered with. -/
theorem iterate_step (make : Nat → String → Except Failure α) (index : Nat) (text : String)
    (ho : s.owner = none) (hc : s.clerk = none) :
    ∃ attempts made,
      let answer := s.cache.request (Text.Digest.ofString text) (make s.attempts text)
      (fun p : Stage α × Shared α => p.1.step make index text p.2)^[Crowd.turnLength + 1]
        (.look, s) = (.done answer.1, ⟨answer.2, none, none, attempts, made⟩) := by
  obtain ⟨cache, owner, clerk, attempts, made⟩ := s
  obtain rfl : owner = none := ho
  obtain rfl : clerk = none := hc
  dsimp only
  cases hf : cache.find? (Text.Digest.ofString text) with
  | some entry =>
    refine ⟨attempts, made, ?_⟩
    rw [request_of_find? hf]
    simp only [Crowd.turnLength, Function.iterate_succ, Function.comp_apply, Function.iterate_zero,
      id, step, Counting.step, hf]
    rfl
  | none =>
    cases hm : make attempts text with
    | ok entry =>
      refine ⟨attempts + 1, text :: made, ?_⟩
      rw [request, hf]
      simp only [Crowd.turnLength, Function.iterate_succ, Function.comp_apply,
        Function.iterate_zero, id, step, Counting.step, hf, hm]
      rfl
    | error failure =>
      refine ⟨attempts + 1, made, ?_⟩
      rw [request, hf]
      simp only [Crowd.turnLength, Function.iterate_succ, Function.comp_apply,
        Function.iterate_zero, id, step, Counting.step, hf, hm]
      rfl

end Stage

namespace Crowd

variable {c : Crowd α} {w : Worker α}

theorem step_eq (h : c.workers[index]? = some w) :
    c.step make index =
      ⟨(w.stage.step make index w.text c.toShared).2,
        c.workers.set index ⟨w.text, (w.stage.step make index w.text c.toShared).1⟩⟩ := by
  unfold step
  rw [h]

theorem step_eq_self (h : c.workers[index]? = none) : c.step make index = c := by
  unfold step
  rw [h]

/-- A worker that is there takes a step, which changes nothing of the other workers. -/
theorem exists_moves (make : Nat → String → Except Failure α) (h : c.workers[index]? = some w) :
    ∃ stage' s', w.stage.Moves make index w.text c.toShared stage' s' ∧
      c.step make index = ⟨s', c.workers.set index ⟨w.text, stage'⟩⟩ := by
  obtain ⟨stage', s', hm, hs⟩ := w.stage.exists_moves make index w.text c.toShared
  refine ⟨stage', s', hm, ?_⟩
  rw [step_eq h, hs]

theorem map_text_step (make : Nat → String → Except Failure α) (c : Crowd α) (index : Nat) :
    (c.step make index).workers.map Worker.text = c.workers.map Worker.text := by
  cases h : c.workers[index]? with
  | none => rw [step_eq_self h]
  | some w =>
    obtain ⟨hlt, rfl⟩ := List.getElem?_eq_some_iff.mp h
    have hlt' : index < (c.workers.map Worker.text).length := by simpa using hlt
    have htext : c.workers[index].text = (c.workers.map Worker.text)[index] := by simp
    rw [step_eq h, List.map_set, htext, List.set_getElem_self]

/-- A sum over workers changes where a worker does. -/
theorem sum_set {workers : List (Worker α)} (f : Worker α → Nat) (h : workers[index]? = some w)
    (w' : Worker α) :
    ((workers.set index w').map f).sum + f w = (workers.map f).sum + f w' := by
  induction workers generalizing index with
  | nil => cases h
  | cons first rest ih =>
    cases index with
    | zero =>
      obtain rfl : first = w := Option.some.inj h
      simp only [List.set_cons_zero, List.map_cons, List.sum_cons]
      omega
    | succ index =>
      have hrest := ih h
      simp only [List.set_cons_succ, List.map_cons, List.sum_cons]
      omega

structure Sound (make : Nat → String → Except Failure α) (c : Crowd α) : Prop where
  fits : ∀ (index : Nat) (w : Worker α), c.workers[index]? = some w →
    w.stage.Fits make c.toShared index w.text
  owned : ∀ index, c.owner = some index → index < c.workers.length
  books : c.owner = none → c.made.map Text.Digest.ofString = c.cache.keys.reverse
  apart : c.cache.keys.Nodup
  origin : ∀ key entry, (key, entry) ∈ c.cache.entries →
    ∃ text ∈ c.workers.map Worker.text, Text.Digest.ofString text = key ∧
      ∃ attempt, make attempt text = .ok entry
  counted : c.cache.hits + c.cache.misses = (c.workers.map fun w => w.stage.counted).sum
  unmet : c.cache.misses = c.cache.size + (c.workers.map fun w => w.stage.unmet).sum

theorem sound_start (make : Nat → String → Except Failure α) (texts : List String) :
    (start texts).Sound make := by
  have hlook {w : Worker α} (h : w ∈ (start texts : Crowd α).workers) : w.stage = .look := by
    obtain ⟨text, -, rfl⟩ := List.mem_map.mp h
    rfl
  have hsum {f : Stage α → Nat} (hf : f .look = 0) :
      ((start texts : Crowd α).workers.map fun w => f w.stage).sum = 0 := by
    apply List.sum_eq_zero
    intro count hm
    obtain ⟨w, hw, rfl⟩ := List.mem_map.mp hm
    rw [hlook hw, hf]
  constructor
  case fits =>
    intro index w hw
    rw [hlook (List.mem_of_getElem? hw)]
    exact {
      owner := iff_of_false nofun nofun
      clerk := iff_of_false nofun nofun
      books := nofun
      missing := nofun
      found := nofun
      current := trivial
      made := trivial }
  case owned => nofun
  case books => exact fun _ => rfl
  case apart => exact nodup_keys_empty
  case origin => nofun
  case counted => exact (hsum (f := Stage.counted) rfl).symm
  case unmet =>
    rw [hsum (f := Stage.unmet) rfl]
    rfl

/-- Each step of a worker keeps the crowd sound. -/
theorem Sound.step (h : c.Sound make) (index : Nat) : (c.step make index).Sound make := by
  cases hw : c.workers[index]? with
  | none =>
    rw [step_eq_self hw]
    exact h
  | some w =>
    have hfits := h.fits index w hw
    have hlt : index < c.workers.length := (List.getElem?_eq_some_iff.mp hw).1
    -- the worker that takes the step is the only one whose stage changes
    have htexts := map_text_step make c index
    obtain ⟨stage', s', hmoves, hstep⟩ := exists_moves make hw
    rw [hstep] at htexts ⊢
    dsimp only at htexts
    constructor
    case fits =>
      intro other w' hw'
      dsimp only at hw' ⊢
      rw [List.getElem?_set] at hw'
      split at hw'
      · next same =>
        obtain rfl := same
        obtain rfl := Option.some.inj hw'
        exact hmoves.fits hfits h.books
      · next hne => exact (h.fits other w' hw').of_keeps (hmoves.keeps hfits (Ne.symm hne))
    case owned =>
      intro other ho
      rw [List.length_set]
      by_cases same : other = index
      · rw [same]
        exact hlt
      · exact h.owned other ((hmoves.keeps hfits same).owner.mp ho)
    case books => exact hmoves.books hfits h.books
    case apart =>
      dsimp only
      rcases hmoves.entries_eq with he | ⟨entry, hs, hc⟩
      · rw [keys, he]
        exact h.apart
      · rw [hc]
        rw [hs] at hfits
        exact nodup_keys_store (hfits.missing rfl) h.apart
    case origin =>
      dsimp only
      rw [htexts]
      rcases hmoves.entries_eq with he | ⟨entry, hs, hc⟩
      · rw [he]
        exact h.origin
      · rw [hc]
        rw [hs] at hfits
        intro key entry' hm
        rcases List.mem_append.mp hm with hm | hm
        · exact h.origin key entry' hm
        · obtain ⟨rfl, rfl⟩ := Prod.mk.inj (List.mem_singleton.mp hm)
          exact ⟨w.text, List.mem_map_of_mem (List.mem_of_getElem? hw), rfl, hfits.made⟩
    case counted =>
      have hcounted := hmoves.counted_eq hfits
      have hsum := sum_set (fun w => w.stage.counted) hw ⟨w.text, stage'⟩
      have hbefore := h.counted
      dsimp only at hsum ⊢
      omega
    case unmet =>
      have hunmet := hmoves.unmet_eq hfits
      have hsum := sum_set (fun w => w.stage.unmet) hw ⟨w.text, stage'⟩
      have hbefore := h.unmet
      dsimp only at hsum ⊢
      omega

theorem run_cons (make : Nat → String → Except Failure α) (c : Crowd α) (index : Nat)
    (schedule : List Nat) :
    c.run make (index :: schedule) = (c.step make index).run make schedule :=
  rfl

/-- Whatever the order of the steps, a crowd stays sound. -/
theorem Sound.run (h : c.Sound make) (schedule : List Nat) : (c.run make schedule).Sound make := by
  induction schedule generalizing c with
  | nil => exact h
  | cons index rest ih => exact ih (h.step index)

theorem map_text_run (make : Nat → String → Except Failure α) (c : Crowd α)
    (schedule : List Nat) :
    (c.run make schedule).workers.map Worker.text = c.workers.map Worker.text := by
  induction schedule generalizing c with
  | nil => rfl
  | cons index rest ih => rw [run_cons, ih, map_text_step]

/-- Entries that are there stay there, in their places. -/
theorem entries_isPrefix_step (make : Nat → String → Except Failure α) (c : Crowd α) (index : Nat) :
    c.cache.entries <+: (c.step make index).cache.entries := by
  cases hw : c.workers[index]? with
  | none => exact ⟨[], by rw [step_eq_self hw, List.append_nil]⟩
  | some w =>
    obtain ⟨stage', s', hmoves, hstep⟩ := exists_moves make hw
    rw [hstep]
    dsimp only
    rcases hmoves.entries_eq with he | ⟨entry, -, hc⟩
    · exact ⟨[], (List.append_nil _).trans he.symm⟩
    · rw [hc]
      exact List.prefix_append _ _

theorem entries_isPrefix_run (make : Nat → String → Except Failure α) (c : Crowd α)
    (schedule : List Nat) : c.cache.entries <+: (c.run make schedule).cache.entries := by
  induction schedule generalizing c with
  | nil => exact List.prefix_refl _
  | cons index rest ih => exact (entries_isPrefix_step make c index).trans (ih _)

/-- No text has been made twice. -/
theorem Sound.nodup_made (h : c.Sound make) : c.made.Nodup := by
  apply List.Nodup.of_map Text.Digest.ofString
  -- the books say what has been made: nobody's, or those of the worker that holds the lock
  cases ho : c.owner with
  | none =>
    rw [h.books ho]
    exact List.nodup_reverse.mpr h.apart
  | some index =>
    have hlt := h.owned index ho
    have hfits := h.fits index _ (List.getElem?_eq_getElem hlt)
    rw [hfits.books (hfits.owner.mp ho)]
    generalize hs : c.workers[index].stage = stage at hfits
    cases stage with
    | store entry =>
      have hnew := find?_eq_none_iff.mp (hfits.missing rfl)
      refine List.nodup_cons.mpr ⟨?_, List.nodup_reverse.mpr h.apart⟩
      intro hm
      exact hnew (List.mem_reverse.mp hm)
    | _ => exact List.nodup_reverse.mpr h.apart

/-- No more requests have been counted than have begun. -/
theorem sum_counted_le (workers : List (Worker α)) :
    (workers.map fun w => w.stage.counted).sum ≤ workers.countP fun w => w.stage.hasBegun := by
  induction workers with
  | nil => exact Nat.zero_le _
  | cons w rest ih =>
    have hle := w.stage.counted_le
    rw [List.map_cons, List.sum_cons, List.countP_cons]
    omega

theorem sum_counted_of_done {workers : List (Worker α)}
    (h : ∀ w ∈ workers, w.stage.isDone = true) :
    (workers.map fun w => w.stage.counted).sum = workers.length := by
  induction workers with
  | nil => rfl
  | cons w rest ih =>
    obtain ⟨result, hw⟩ := Stage.exists_of_isDone (h w (List.mem_cons_self ..))
    have hrest := ih fun w hm => h w (List.mem_cons_of_mem _ hm)
    rw [List.map_cons, List.sum_cons, hrest, hw, List.length_cons]
    exact Nat.add_comm 1 rest.length

/-- At the end the misses without an entry are the failures. -/
theorem sum_unmet_of_done (h : ∀ w ∈ c.workers, w.stage.isDone = true) :
    (c.workers.map fun w => w.stage.unmet).sum =
      c.results.countP fun result => !result.isOk := by
  unfold results
  generalize c.workers = workers at h
  induction workers with
  | nil => rfl
  | cons w rest ih =>
    obtain ⟨result, hw⟩ := Stage.exists_of_isDone (h w (List.mem_cons_self ..))
    have hrest := ih fun w hm => h w (List.mem_cons_of_mem _ hm)
    rw [List.map_cons, List.sum_cons, hrest, hw, List.filterMap_cons, hw]
    dsimp only
    rw [List.countP_cons, Stage.unmet]
    cases result.isOk with
    | true => exact Nat.zero_add _
    | false => exact Nat.add_comm 1 _

theorem Sound.mem_keys_iff (h : c.Sound make) {key : String} :
    key ∈ c.cache.keys ↔ ∃ text ∈ c.workers.map Worker.text,
      (c.cache.find? (Text.Digest.ofString text)).isSome = true ∧ Text.Digest.ofString text = key := by
  constructor
  · intro hk
    obtain ⟨⟨key, entry⟩, hm, rfl⟩ := List.mem_map.mp hk
    obtain ⟨text, htext, rfl, -⟩ := h.origin key entry hm
    refine ⟨text, htext, ?_, rfl⟩
    rw [find?_of_mem h.apart hm]
    rfl
  · rintro ⟨text, -, hfound, rfl⟩
    by_contra hk
    rw [find?_eq_none_iff.mpr hk] at hfound
    cases hfound

/-- Unless two texts share a fingerprint, there are as many entries as texts that have one. -/
theorem Sound.size_eq (h : c.Sound make)
    (apart : DigestsApart (c.workers.map Worker.text)) :
    c.cache.size = (c.workers.map Worker.text).dedup.countP fun text =>
      (c.cache.find? (Text.Digest.ofString text)).isSome := by
  have hnodup : (((c.workers.map Worker.text).dedup.filter fun text =>
      (c.cache.find? (Text.Digest.ofString text)).isSome).map Text.Digest.ofString).Nodup := by
    refine List.Nodup.map_on ?_ ((List.nodup_dedup _).filter _)
    intro s hs t ht hst
    exact apart s (List.mem_dedup.mp (List.mem_of_mem_filter hs)) t
      (List.mem_dedup.mp (List.mem_of_mem_filter ht)) hst
  have hperm := (List.perm_ext_iff_of_nodup h.apart hnodup).mpr fun key => by
    rw [h.mem_keys_iff]
    simp [and_assoc]
  calc
    c.cache.size = c.cache.keys.length := (length_keys _).symm
    _ = (((c.workers.map Worker.text).dedup.filter fun text =>
        (c.cache.find? (Text.Digest.ofString text)).isSome).map Text.Digest.ofString).length := hperm.length_eq
    _ = ((c.workers.map Worker.text).dedup.filter fun text =>
        (c.cache.find? (Text.Digest.ofString text)).isSome).length := List.length_map _
    _ = _ := List.countP_eq_length_filter.symm

section InTurn

theorem run_append (make : Nat → String → Except Failure α) (c : Crowd α)
    (first rest : List Nat) : c.run make (first ++ rest) = (c.run make first).run make rest :=
  List.foldl_append

/-- Steps of one worker, one after the other. -/
theorem run_replicate (make : Nat → String → Except Failure α) (h : c.workers[index]? = some w)
    (count : Nat) :
    let last := (fun p : Stage α × Shared α => p.1.step make index w.text p.2)^[count]
      (w.stage, c.toShared)
    c.run make (List.replicate count index) = ⟨last.2, c.workers.set index ⟨w.text, last.1⟩⟩ := by
  induction count generalizing c w with
  | zero =>
    obtain ⟨hlt, rfl⟩ := List.getElem?_eq_some_iff.mp h
    change c = ⟨c.toShared, c.workers.set index c.workers[index]⟩
    rw [List.set_getElem_self]
  | succ count ih =>
    obtain ⟨hlt, -⟩ := List.getElem?_eq_some_iff.mp h
    have hnext : (c.step make index).workers[index]? =
        some ⟨w.text, (w.stage.step make index w.text c.toShared).1⟩ := by
      rw [step_eq h]
      exact List.getElem?_set_self hlt
    rw [List.replicate_succ, run_cons, ih hnext, step_eq h]
    dsimp only
    rw [List.set_set]
    rfl

/-- Workers who take their turns one after the other leave the cache as requests for their texts
do. -/
theorem cache_run_inTurn (make : WideText → Except Failure α) {texts : List String}
    (before : List (Worker α)) (ho : c.owner = none) (hc : c.clerk = none)
    (hw : c.workers = before ++ texts.map fun text => ⟨text, .look⟩) :
    (c.run (fun _ text => make text) ((List.range' before.length texts.length).flatMap
      (List.replicate (turnLength + 1)))).cache =
        c.cache.requestAll make (texts.map WideText.ofString) := by
  induction texts generalizing c before with
  | nil => rfl
  | cons text rest ih =>
    have hfirst : c.workers[before.length]? = some ⟨text, .look⟩ := by
      rw [hw, List.map_cons, List.getElem?_append_right (Nat.le_refl _), Nat.sub_self]
      rfl
    obtain ⟨attempts, made, hturn⟩ :=
      Stage.iterate_step (fun _ text => make text) before.length text ho hc
    have hrun := run_replicate (fun _ text => make text) hfirst (turnLength + 1)
    dsimp only at hturn hrun
    rw [hturn] at hrun
    dsimp only at hrun
    generalize hanswer : c.cache.request (Text.Digest.ofString text) (make text) = answer at hrun
    have hset : c.workers.set before.length ⟨text, .done answer.1⟩ =
        (before ++ [⟨text, .done answer.1⟩]) ++ rest.map fun text => ⟨text, .look⟩ := by
      rw [hw, List.map_cons, List.set_append_right _ _ (Nat.le_refl _), Nat.sub_self]
      simp
    have hrest := ih (c := ⟨⟨answer.2, none, none, attempts, made⟩, _⟩) _ rfl rfl hset
    rw [List.length_append, List.length_singleton] at hrest
    rw [List.length_cons, List.range'_succ, List.flatMap_cons, run_append, hrun, List.map_cons,
      requestAll_cons, requestText_of_fingerprint (fingerprint_ofString text), hanswer]
    exact hrest

end InTurn

/-- Workers ask for texts of which no two share a fingerprint, and take their steps in any order. At
most one entry is stored for each text, and it stays where it is. Each text is made at most once,
even if attempts to make it differ in how they end. A worker that is done with an entry has the
one that is stored, which was made for its text. No more requests are counted than have begun. At
the end all are counted, and the misses are the texts with an entry and the failures. -/
theorem run_makesOnce (make : Nat → String → Except Failure α) {texts : List String}
    (apart : DigestsApart texts) (schedule : List Nat) :
    let c := (start texts : Crowd α).run make schedule
    let stored := fun text => c.cache.find? (Text.Digest.ofString text)
    (∀ text, c.cache.keys.count (Text.Digest.ofString text) ≤ 1) ∧
    (∀ more, c.cache.entries <+: (c.run make more).cache.entries) ∧
    (∀ text, c.made.count text ≤ 1) ∧
    (∀ w ∈ c.workers, ∀ entry, w.stage = .done (.ok entry) →
      stored w.text = some entry ∧ ∃ attempt, make attempt w.text = .ok entry) ∧
    c.cache.hits + c.cache.misses ≤ (c.workers.countP fun w => w.stage.hasBegun) ∧
    ((∀ w ∈ c.workers, w.stage.isDone = true) →
      c.cache.hits + c.cache.misses = texts.length ∧
      c.cache.misses = (texts.dedup.countP fun text => (stored text).isSome) +
        c.results.countP fun result => !result.isOk) := by
  intro c stored
  have h : c.Sound make := (sound_start make texts).run schedule
  have htexts : c.workers.map Worker.text = texts := by
    rw [map_text_run, start, List.map_map]
    exact List.map_id texts
  refine ⟨fun text => List.nodup_iff_count_le_one.mp h.apart _, entries_isPrefix_run make c,
    fun text => List.nodup_iff_count_le_one.mp h.nodup_made _, ?_, ?_, ?_⟩
  · intro w hw entry hdone
    obtain ⟨index, hindex⟩ := List.mem_iff_getElem?.mp hw
    have hfound : stored w.text = some entry := by
      apply (h.fits index w hindex).found
      rw [hdone]
      rfl
    obtain ⟨text, hm, hsame, hmade⟩ := h.origin _ entry (mem_of_find? hfound)
    have htext : w.text ∈ texts := htexts ▸ List.mem_map_of_mem hw
    rw [htexts] at hm
    obtain rfl := apart text hm w.text htext hsame
    exact ⟨hfound, hmade⟩
  · rw [h.counted]
    exact sum_counted_le c.workers
  · intro hdone
    have hcounted := h.counted
    have hunmet := h.unmet
    rw [sum_counted_of_done hdone] at hcounted
    rw [sum_unmet_of_done hdone, h.size_eq (htexts.symm ▸ apart), htexts] at hunmet
    refine ⟨?_, hunmet⟩
    rw [hcounted, ← htexts, List.length_map]

/-- Three workers in turn, two of whom ask for the same text. The third text cannot be made. -/
theorem run_makesOnce_fair :
    let make : Nat → String → Except Failure Nat := fun attempt text =>
      if text = "" then .error .integerTooLong else .ok attempt
    let c := (start ["x", "", "x"]).run make (fairSchedule 3)
    DigestsApart ["x", "", "x"] ∧ (∀ w ∈ c.workers, w.stage.isDone = true) ∧
      c.cache.hits + c.cache.misses = 3 := by
  intro make
  have apart : DigestsApart ["x", "", "x"] := by
    unfold DigestsApart
    decide +kernel
  have hdone : ∀ w ∈ ((start ["x", "", "x"]).run make (fairSchedule 3)).workers,
      w.stage.isDone = true := by
    decide +kernel
  have hmain := run_makesOnce make apart (fairSchedule 3)
  dsimp only at hmain ⊢
  generalize (start ["x", "", "x"]).run make (fairSchedule 3) = c at hdone hmain ⊢
  obtain ⟨-, -, -, -, -, hend⟩ := hmain
  exact ⟨apart, hdone, (hend hdone).1⟩

end Crowd

end Destructure.Cache
