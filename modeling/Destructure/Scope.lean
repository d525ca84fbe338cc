import Destructure.Entries
import Destructure.Value

namespace Destructure

structure Scope where
  entries : List (String × Value)
  nodup : (entries.map Prod.fst).Nodup

namespace Scope

def empty : Scope :=
  ⟨[], List.nodup_nil⟩

def names (s : Scope) : List String :=
  s.entries.map Prod.fst

def get? (s : Scope) (name : String) : Option Value :=
  s.entries.lookup name

def contains (s : Scope) (name : String) : Bool :=
  (s.get? name).isSome

def set (s : Scope) (name : String) (value : Value) : Scope :=
  ⟨setEntry (· == name) name value s.entries, nodup_setEntry name value s.nodup⟩

def setAll (s : Scope) (bindings : List (String × Value)) : Scope :=
  bindings.foldl (fun scope binding => scope.set binding.1 binding.2) s

def update (s other : Scope) : Scope :=
  s.setAll other.entries

def ofList (bindings : List (String × Value)) : Scope :=
  empty.setAll bindings

def sortNames (names : List String) : List String :=
  names.mergeSort fun a b => decide (a ≤ b)

end Scope

end Destructure
