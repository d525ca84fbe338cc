import Destructure.Number
import Destructure.Regex

namespace Destructure

structure ForeignNode where
  typeName : String
  written : String
  description : String
  deriving DecidableEq

inductive Pattern
  | text (value : String)
  | number (value : Number)
  | regex (expression : Regex)
  | variable (name : String) (isTail : Bool)
  | sequence (elements : List Pattern)
  | mapping (entries : List (String × Pattern))
  | groups (expression : Regex) (elements : List Pattern)
  | foreign (node : ForeignNode)

namespace Pattern

def discardName : String := "_"

def isTailVariable : Pattern → Bool
  | .variable _ isTail => isTail
  | _ => false

def endsInTail (elements : List Pattern) : Bool :=
  elements.getLast?.any isTailVariable

mutual

def variableNames : Pattern → List String
  | .variable name _ => if name = discardName then [] else [name]
  | .sequence elements | .groups _ elements => namesOfElements elements
  | .mapping entries => namesOfEntries entries
  | _ => []

def namesOfElements : List Pattern → List String
  | [] => []
  | element :: rest => element.variableNames ++ namesOfElements rest

def namesOfEntries : List (String × Pattern) → List String
  | [] => []
  | (_, pattern) :: rest => pattern.variableNames ++ namesOfEntries rest

end

def sameRegex (a b : Regex) : Bool :=
  a.source == b.source && a.ignoreCase == b.ignoreCase

mutual

def same : Pattern → Pattern → Bool
  | .text a, .text b => a == b
  | .number a, .number b => a.eq b
  | .regex a, .regex b => sameRegex a b
  | .variable a tailA, .variable b tailB => a == b && tailA == tailB
  | .sequence a, .sequence b => sameElements a b
  | .mapping a, .mapping b => sameEntries a b
  | .groups r a, .groups s b => sameRegex r s && sameElements a b
  | .foreign a, .foreign b => a == b
  | _, _ => false

def sameElements : List Pattern → List Pattern → Bool
  | [], [] => true
  | a :: as, b :: bs => same a b && sameElements as bs
  | _, _ => false

def sameEntries : List (String × Pattern) → List (String × Pattern) → Bool
  | [], [] => true
  | (key, a) :: as, (other, b) :: bs => key == other && same a b && sameEntries as bs
  | _, _ => false

end

end Pattern

end Destructure
