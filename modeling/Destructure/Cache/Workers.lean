import Destructure.Cache

/-!
Several workers asking one cache at once, each for the entry of a text.

A worker first looks for its entry without a lock. If it is missing, the worker waits for the lock
and looks again, because another worker may have made the entry meanwhile. Only then it counts a
miss, makes the entry and stores it. The counters have a lock of their own, under which a counter is
read and written back. Workers take their steps in any order, one step at a time.
-/

namespace Destructure.Cache

variable {α : Type}

inductive Counting
  | acquire
  | read
  | write (count : Nat)
  | release

inductive Stage (α : Type)
  | look
  | acquire
  | lookAgain
  | countMiss (counting : Counting)
  | make
  | store (entry : α)
  | countHit (entry : α) (holdsLock : Bool) (counting : Counting)
  | release (result : Except Failure α)
  | done (result : Except Failure α)

structure Shared (α : Type) where
  cache : Cache α
  owner : Option Nat
  clerk : Option Nat
  attempts : Nat
  made : List String

def Counting.step (index : Nat) (count : Nat) (set : Nat → Cache α) (stage : Counting → Stage α)
    (next : Stage α) (s : Shared α) : Counting → Stage α × Shared α
  | .acquire =>
    match s.clerk with
    | none => (stage .read, { s with clerk := some index })
    | some _ => (stage .acquire, s)
  | .read => (stage (.write count), s)
  | .write count => (stage .release, { s with cache := set (count + 1) })
  | .release => (next, { s with clerk := none })

def Stage.step (make : Nat → String → Except Failure α) (index : Nat) (text : String)
    (s : Shared α) : Stage α → Stage α × Shared α
  | .look =>
    match s.cache.find? (Text.Digest.ofString text) with
    | some entry => (.countHit entry false .acquire, s)
    | none => (.acquire, s)
  | .acquire =>
    match s.owner with
    | none => (.lookAgain, { s with owner := some index })
    | some _ => (.acquire, s)
  | .lookAgain =>
    match s.cache.find? (Text.Digest.ofString text) with
    | some entry => (.countHit entry true .acquire, s)
    | none => (.countMiss .acquire, s)
  | .countMiss counting =>
    counting.step index s.cache.misses (fun count => { s.cache with misses := count })
      .countMiss .make s
  | .make =>
    match make s.attempts text with
    | .ok entry =>
      (.store entry, { s with attempts := s.attempts + 1, made := text :: s.made })
    | .error failure => (.release (.error failure), { s with attempts := s.attempts + 1 })
  | .store entry =>
    (.release (.ok entry), { s with cache := s.cache.store (Text.Digest.ofString text) entry })
  | .countHit entry holdsLock counting =>
    counting.step index s.cache.hits (fun count => { s.cache with hits := count })
      (.countHit entry holdsLock)
      (if holdsLock then .release (.ok entry) else .done (.ok entry)) s
  | .release result => (.done result, { s with owner := none })
  | .done result => (.done result, s)

structure Worker (α : Type) where
  text : String
  stage : Stage α

structure Crowd (α : Type) extends Shared α where
  workers : List (Worker α)

namespace Crowd

def start (texts : List String) : Crowd α :=
  ⟨⟨.empty, none, none, 0, []⟩, texts.map fun text => ⟨text, .look⟩⟩

def step (make : Nat → String → Except Failure α) (c : Crowd α) (index : Nat) : Crowd α :=
  match c.workers[index]? with
  | some w =>
    let (stage, shared) := w.stage.step make index w.text c.toShared
    ⟨shared, c.workers.set index { w with stage := stage }⟩
  | none => c

def run (make : Nat → String → Except Failure α) (c : Crowd α) (schedule : List Nat) : Crowd α :=
  schedule.foldl (step make) c

def results (c : Crowd α) : List (Except Failure α) :=
  c.workers.filterMap fun w =>
    match w.stage with
    | .done result => some result
    | _ => none

def turnLength : Nat := 9

def fairSchedule (count : Nat) : List Nat :=
  List.range count ++ (List.range count).flatMap (List.replicate turnLength)

end Crowd

end Destructure.Cache
