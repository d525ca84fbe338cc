import Destructure.Condition.Parse
import Destructure.Pattern.Parse
import Destructure.Template.Lift
import Destructure.Text.Digest

namespace Destructure

structure Compiled where
  text : String
  fingerprint : String
  tree : Pattern
  condition : Option Condition

def whenLength : Nat := 4

def Condition.ofText (names : List String) (text : List Char) (position : Int) :
    Except Failure Condition := do
  let tokens ← Condition.Token.scan text position
  let trimmed := String.ofList (Text.trim text)
  return ⟨trimmed, ← Condition.parse ⟨names, trimmed⟩ tokens⟩

def readPattern (text : String) : Except Failure (Pattern × Option Condition) := do
  let template ← Template.ofText text.toList
  let tokens ← Token.scan template.patternCells
  let tree ← Pattern.ofTokens ⟨template.literal?, text⟩ tokens
  match template.conditionPosition with
  | none => return (tree, none)
  | some position =>
    let start := position + whenLength
    let condition ← Condition.ofText tree.variableNames (text.toList.drop start) start
    return (tree, some condition)

def compile (text : WideText) : Except Failure Compiled := do
  let text ← text.encode.mapError Failure.unencodable
  let (tree, condition) ← readPattern text
  return ⟨text, Text.Digest.ofString text, tree, condition⟩

end Destructure
