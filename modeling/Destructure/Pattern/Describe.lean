import Destructure.Pattern
import Destructure.Text.Letter

namespace Destructure.Pattern

def escapeChar (c : Char) : List Char :=
  if c = '\\' ∨ c = '\'' then ['\\', c] else [c]

def quoteText (value : List Char) : List Char :=
  '\'' :: value.flatMap escapeChar ++ ['\'']

def describeRegex (r : Regex) : List Char :=
  '/' :: r.source.toList ++ '/' :: (if r.ignoreCase then ['i'] else [])

def describeKey (key : String) : List Char :=
  if Text.isName key.toList then key.toList else quoteText key.toList

def describeSequence (hasTail : Bool) (parts : List (List Char)) : List Char :=
  if hasTail then
    let before := parts.dropLast
    let tail := parts.getLastD []
    '[' :: [',', ' '].intercalate before ++ (if before = [] then tail else ' ' :: tail) ++ [']']
  else '[' :: [',', ' '].intercalate parts ++ [']']

mutual

def describe : Pattern → List Char
  | .text value => quoteText value.toList
  | .number value => value.render
  | .regex expression => describeRegex expression
  | .variable name isTail => if isTail then '|' :: ' ' :: name.toList else name.toList
  | .sequence elements => describeSequence (endsInTail elements) (describeElements elements)
  | .mapping entries => '\x7b' :: [',', ' '].intercalate (describeEntries entries) ++ ['\x7d']
  | .groups expression elements =>
    describeRegex expression ++
      ' ' :: describeSequence (endsInTail elements) (describeElements elements)
  | .foreign node => node.description.toList

def describeElements : List Pattern → List (List Char)
  | [] => []
  | element :: rest => element.describe :: describeElements rest

def describeEntries : List (String × Pattern) → List (List Char)
  | [] => []
  | (key, pattern) :: rest =>
    (describeKey key ++ ' ' :: '=' :: ' ' :: pattern.describe) :: describeEntries rest

end

mutual

def isWritable : Pattern → Bool
  | .number value => value.isWritable
  | .sequence elements | .groups _ elements => elementsWritable elements
  | .mapping entries => entriesWritable entries
  | _ => true

def elementsWritable : List Pattern → Bool
  | [] => true
  | element :: rest => element.isWritable && elementsWritable rest

def entriesWritable : List (String × Pattern) → Bool
  | [] => true
  | (_, pattern) :: rest => pattern.isWritable && entriesWritable rest

end

def description (p : Pattern) : String :=
  String.ofList p.describe

end Destructure.Pattern
