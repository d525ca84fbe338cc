import Destructure.Value
import Destructure.Text.Quoted

namespace Destructure

def Fault.text (f : Fault) : String :=
  match f.kind with
  | .missingKey => String.ofList (Text.quote f.message.toList)
  | .noMatch | .invalidPattern | .pattern => "Error: " ++ f.message
  | _ => f.message

namespace Writing

def fill : Writing → List Char → List Char
  | .fixed text, _ => text.toList
  | .around opening closing, content => opening.toList ++ content ++ closing.toList

def isFixed : Writing → Bool
  | .fixed _ => true
  | .around _ _ => false

end Writing

namespace Value

def commaSeparated (parts : List (List Char)) : List Char :=
  [',', ' '].intercalate parts

mutual

def render : Value → List Char
  | .null => ['N', 'o', 'n', 'e']
  | .boolean true => ['T', 'r', 'u', 'e']
  | .boolean false => ['F', 'a', 'l', 's', 'e']
  | .number n => n.render
  | .text s => Text.quote s.toList
  | .list items => '[' :: commaSeparated (renderItems items) ++ [']']
  | .tuple [item] => '(' :: item.render ++ [',', ')']
  | .tuple items => '(' :: commaSeparated (renderItems items) ++ [')']
  | .mapping entries => '\x7b' :: commaSeparated (renderEntries entries) ++ ['\x7d']
  | .store type entries _ _ =>
    type.writing.fill ('\x7b' :: commaSeparated (renderEntries entries) ++ ['\x7d'])
  | .bytes content _ => Text.quoteBytes content
  | .object type attributes _ _ => type.writing.fill (commaSeparated (renderAttributes attributes))

def renderItems : List Value → List (List Char)
  | [] => []
  | item :: rest => item.render :: renderItems rest

def renderEntries : List (Value × Value) → List (List Char)
  | [] => []
  | (key, value) :: rest => (key.render ++ ':' :: ' ' :: value.render) :: renderEntries rest

def renderAttributes : List (String × Value) → List (List Char)
  | [] => []
  | (name, value) :: rest =>
    if name = "" then renderAttributes rest
    else (name.toList ++ '=' :: value.render) :: renderAttributes rest

end

mutual

def isWritable : Value → Bool
  | .number n => n.isWritable
  | .list items | .tuple items => itemsWritable items
  | .mapping entries => entriesWritable entries
  | .store type entries _ _ => type.writing.isFixed || entriesWritable entries
  | .object type attributes _ _ => type.writing.isFixed || attributesWritable attributes
  | _ => true

def itemsWritable : List Value → Bool
  | [] => true
  | item :: rest => item.isWritable && itemsWritable rest

def entriesWritable : List (Value × Value) → Bool
  | [] => true
  | (key, value) :: rest => key.isWritable && value.isWritable && entriesWritable rest

def attributesWritable : List (String × Value) → Bool
  | [] => true
  | (name, value) :: rest => (name = "" || value.isWritable) && attributesWritable rest

end

def shorten (limit : Int) (text : List Char) : List Char :=
  if (text.length : Int) ≤ limit then text
  else
    let bound := limit - 3
    let kept := if 0 ≤ bound then bound else text.length + bound
    text.take kept.toNat ++ ['.', '.', '.']

def shown (v : Value) : String :=
  String.ofList (shorten 60 v.render)

def shownWithKind (v : Value) : String :=
  v.shown ++ " (" ++ v.kindName ++ ")"

end Value

end Destructure
