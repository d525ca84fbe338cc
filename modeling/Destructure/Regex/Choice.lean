import Destructure.Regex.Syntax

namespace Destructure.Regex

def Node.sameLeaf : Node → Node → Bool
  | .literal a, .literal b => a == b
  | .notLiteral a, .notLiteral b => a == b
  | .any, .any => true
  | .set n a, .set m b => n == m && a == b
  | .anchor a, .anchor b => a == b
  | .reference a, .reference b => a == b
  | _, _ => false

def commonHead? (alternatives : List (List Node)) : Option Node :=
  match alternatives with
  | (node :: _) :: rest =>
    if node.sameLeaf node && rest.all (fun body => body.head?.any node.sameLeaf) then some node
    else none
  | _ => none

def factor : Nat → List (List Node) → List Node × List (List Node)
  | 0, alternatives => ([], alternatives)
  | bound + 1, alternatives =>
    match commonHead? alternatives with
    | none => ([], alternatives)
    | some node =>
      let (leaves, rest) := factor bound (alternatives.map (List.drop 1))
      (node :: leaves, rest)

def setItems? : List Node → Option (List SetItem)
  | [.literal code] => some [.one code]
  | [.set false items] => some items
  | _ => none

def choiceOf (alternatives : List (List Node)) : List Node :=
  match alternatives with
  | [body] => body
  | _ =>
    let bound := alternatives.foldl (fun n body => n + body.length) 0
    let (leaves, rest) := factor (bound + 1) alternatives
    match rest.mapM setItems? with
    | some items => leaves ++ [.set false (withoutRepeats items.flatten)]
    | none => leaves ++ [.choice rest]

def unpack (nodes : List Node) : List Node :=
  nodes.flatMap fun
    | .scoped [] [] body => body
    | node => [node]

end Destructure.Regex
