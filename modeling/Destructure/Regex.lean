import Destructure.Regex.Expression
import Destructure.Regex.Lowering

namespace Destructure

structure Regex where
  source : String
  ignoreCase : Bool
  groupCount : Nat
  plan : List Regex.Plan

namespace Regex

def reachBound : Nat := 2147483648

def compile (source : String) (ignoreCase : Bool) : Except Problem Regex := do
  let expression ← read source.toList (if ignoreCase then [.ignoreCase] else [])
  let groups (group : Nat) : Width := expression.widths[group - 1]?.getD ⟨0, 0⟩
  let plan ← lowerAll groups expression.flags expression.nodes
  if reachBound ≤ reachOfAll plan then throw .lookbehindTooLong
  return ⟨source, ignoreCase, expression.widths.length, plan⟩

def fullMatch? (r : Regex) (text : String) : Option (List String) :=
  (runWhole r.plan text.toList).map fun c =>
    text :: (List.range r.groupCount).map fun i =>
      String.ofList ((c.captured? (i + 1)).getD [])

end Regex

end Destructure
