import Destructure.Failure
import Destructure.Text.Digest

namespace Destructure

structure Cache (α : Type) where
  entries : List (String × α)
  hits : Nat
  misses : Nat

def fingerprint (text : WideText) : Except Failure String :=
  (text.encode.mapError Failure.unencodable).map Text.Digest.ofString

namespace Cache

variable {α : Type}

def empty : Cache α :=
  ⟨[], 0, 0⟩

def size (c : Cache α) : Nat :=
  c.entries.length

def find? (c : Cache α) (key : String) : Option α :=
  c.entries.lookup key

def countHit (c : Cache α) : Cache α :=
  { c with hits := c.hits + 1 }

def countMiss (c : Cache α) : Cache α :=
  { c with misses := c.misses + 1 }

def store (c : Cache α) (key : String) (entry : α) : Cache α :=
  { c with entries := c.entries ++ [(key, entry)] }

def request (c : Cache α) (key : String) (make : Except Failure α) : Except Failure α × Cache α :=
  match c.find? key with
  | some entry => (.ok entry, c.countHit)
  | none =>
    match make with
    | .ok entry => (.ok entry, c.countMiss.store key entry)
    | .error failure => (.error failure, c.countMiss)

def requestText (c : Cache α) (make : WideText → Except Failure α) (text : WideText) :
    Except Failure α × Cache α :=
  match fingerprint text with
  | .ok key => c.request key (make text)
  | .error failure => (.error failure, c)

end Cache

end Destructure
