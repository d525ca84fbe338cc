import Destructure.Text.Printable

namespace Destructure.Text

def hexDigits (width n : Nat) : List Char :=
  let digits := Nat.toDigits 16 n
  List.replicate (width - digits.length) '0' ++ digits

def quoteFor (content : List Char) : Char :=
  if content.contains '\'' && !content.contains '"' then '"' else '\''

def escapeLetter? : Char → Option Char
  | '\n' => some 'n'
  | '\r' => some 'r'
  | '\t' => some 't'
  | _ => none

def numberEscape (n : Nat) : List Char :=
  if n < 0x100 then '\\' :: 'x' :: hexDigits 2 n
  else if n < 0x10000 then '\\' :: 'u' :: hexDigits 4 n
  else '\\' :: 'U' :: hexDigits 8 n

def quotedChar (quote c : Char) : List Char :=
  if c = quote ∨ c = '\\' then ['\\', c]
  else
    match escapeLetter? c with
    | some letter => ['\\', letter]
    | none => if isPrintable c.toNat then [c] else numberEscape c.toNat

def quote (content : List Char) : List Char :=
  let q := quoteFor content
  q :: content.flatMap (quotedChar q) ++ [q]

def quotedByte (quote : Char) (byte : UInt8) : List Char :=
  if byte.toNat < 128 then quotedChar quote (Char.ofNat byte.toNat)
  else '\\' :: 'x' :: hexDigits 2 byte.toNat

def quoteBytes (content : List UInt8) : List Char :=
  let q := quoteFor (content.map fun byte => Char.ofNat byte.toNat)
  'b' :: q :: content.flatMap (quotedByte q) ++ [q]

end Destructure.Text
