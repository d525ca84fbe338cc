import Destructure.Regex.Reader
import Destructure.Text.CharacterName
import Destructure.Text.Quoted

namespace Destructure.Regex

open Reader

def isOctal (c : Char) : Bool :=
  '0' ≤ c && c ≤ '7'

def isHex (c : Char) : Bool :=
  c.isDigit || ('a' ≤ c && c ≤ 'f') || ('A' ≤ c && c ≤ 'F')

def digitValue (c : Char) : Nat :=
  if c.isDigit then c.toNat - 48
  else if 'a' ≤ c && c ≤ 'f' then c.toNat - 87
  else c.toNat - 55

def valueIn (base : Nat) (digits : List Char) : Nat :=
  digits.foldl (fun n d => base * n + digitValue d) 0

def controlEscape? : Char → Option Nat
  | 'a' => some 7
  | 'f' => some 12
  | 'n' => some 10
  | 'r' => some 13
  | 't' => some 9
  | 'v' => some 11
  | '\\' => some 92
  | _ => none

def categoryEscape? : Char → Option SetItem
  | 'd' => some (.category .digit false)
  | 'D' => some (.category .digit true)
  | 's' => some (.category .space false)
  | 'S' => some (.category .space true)
  | 'w' => some (.category .word false)
  | 'W' => some (.category .word true)
  | _ => none

def anchorEscape? : Char → Option Anchor
  | 'A' => some .textStart
  | 'Z' => some .textEnd
  | 'b' => some (.boundary false)
  | 'B' => some (.boundary true)
  | _ => none

def readHex (mark : Char) (count : Nat) : Reader Nat := do
  let digits ← takeMany isHex count
  let escape := '\\' :: mark :: digits
  if digits.length ≠ count then fail ("incomplete escape ".toList ++ escape) escape.length
  let code := valueIn 16 digits
  if 0x10FFFF < code then fail ("bad escape ".toList ++ escape) escape.length
  return code

def readNamed : Reader Nat := do
  if !(← accept '\x7b') then fail ("missing \x7b").toList 0
  let name ← takeName '\x7d' "character name"
  match Text.CharacterName.find? name with
  | some code => return code
  | none => fail ("undefined character name ".toList ++ Text.quote name) (name.length + 4)

def octal (digits : List Char) : Reader Nat := do
  let escape := '\\' :: digits
  let code := valueIn 8 digits
  if 0o377 < code then
    fail ("octal escape value ".toList ++ escape ++ " outside of range 0-0o377".toList)
      escape.length
  return code

def readCode (c : Char) : Reader Nat := do
  if c = 'x' then readHex c 2
  else if c = 'u' then readHex c 4
  else if c = 'U' then readHex c 8
  else if c = 'N' then readNamed
  else if c.isAlpha || c.isDigit then fail ("bad escape \\".toList ++ [c]) 2
  else return c.toNat

def readSetEscape (c : Char) : Reader SetItem := do
  if c = 'b' then return .one 8
  match controlEscape? c with
  | some code => return .one code
  | none =>
    match categoryEscape? c with
    | some item => return item
    | none =>
      if isOctal c then return .one (← octal (c :: (← takeMany isOctal 2)))
      else return .one (← readCode c)

def readReference (digits : List Char) : Reader Node := do
  let group := valueIn 10 digits
  if group < (← groupCount) then
    if !(← isClosed group) then fail "cannot refer to an open group".toList (digits.length + 1)
    checkLookbehind group
    return .reference group
  else fail ("invalid group reference ".toList ++ Nat.toDigits 10 group) digits.length

def readEscape (c : Char) : Reader Node := do
  match anchorEscape? c with
  | some place => return .anchor place
  | none =>
  match categoryEscape? c with
  | some item => return .set false [item]
  | none =>
  match controlEscape? c with
  | some code => return .literal code
  | none =>
    if c = '0' then return .literal (valueIn 8 (c :: (← takeMany isOctal 2)))
    else if c.isDigit then
      match ← takeMany Char.isDigit 1 with
      | [d] =>
        if isOctal c && isOctal d then
          match ← takeMany isOctal 1 with
          | [e] => return .literal (← octal [c, d, e])
          | _ => readReference [c, d]
        else readReference [c, d]
      | _ => readReference [c]
    else return .literal (← readCode c)

end Destructure.Regex
