import Destructure.Regex.Reader
import Destructure.Text.Blank
import Destructure.Text.DecimalDigit
import Destructure.Text.Letter
import Destructure.Text.Quoted

namespace Destructure.Regex

open Reader

def flag? : Char → Option Flag
  | 'i' => some .ignoreCase
  | 'L' => some .locale
  | 'm' => some .multiline
  | 's' => some .dotAll
  | 'x' => some .verbose
  | 'a' => some .ascii
  | 't' => some .template
  | 'u' => some .unicode
  | _ => none

def Flag.isAlphabet : Flag → Bool
  | .ascii | .locale | .unicode => true
  | _ => false

def refuseFlag {α : Type} (missing : String) : Option Piece → Reader α
  | none => fail missing.toList 0
  | some piece =>
    let isLetter := match piece with
      | .plain c => Text.isLetter c.toNat
      | _ => false
    fail (if isLetter then "unknown flag".toList else missing.toList) piece.text.length

def readFlagsOn : Nat → Flag → List Flag → Reader (List Flag × Char)
  | 0, _, on => return (on, ')')
  | bound + 1, flag, on => do
    if flag = .locale then
      fail "bad inline flags: cannot use 'L' flag with a str pattern".toList 0
    let on := on ++ [flag]
    if flag.isAlphabet && on.any (fun other => other.isAlphabet && other != flag) then
      fail "bad inline flags: flags 'a', 'u' and 'L' are incompatible".toList 0
    let next ← take
    match next with
    | some (.plain c) =>
      if c = ')' ∨ c = '-' ∨ c = ':' then return (on, c)
      match flag? c with
      | some flag => readFlagsOn bound flag on
      | none => refuseFlag "missing -, : or )" next
    | _ => refuseFlag "missing -, : or )" next

def readFlagsOff : Nat → Flag → List Flag → Reader (List Flag)
  | 0, _, off => return off
  | bound + 1, flag, off => do
    if flag.isAlphabet then
      fail "bad inline flags: cannot turn off flags 'a', 'u' and 'L'".toList 0
    let off := off ++ [flag]
    let next ← take
    match next with
    | some (.plain c) =>
      if c = ':' then return off
      match flag? c with
      | some flag => readFlagsOff bound flag off
      | none => refuseFlag "missing :" next
    | _ => refuseFlag "missing :" next

def readFlags (first : Char) : Reader (Option (List Flag × List Flag)) := do
  let bound := (← get).rest.length + 1
  let (on, ended) ← match flag? first with
    | some flag => readFlagsOn bound flag []
    | none => pure ([], '-')
  if ended = ')' then
    modify fun progress => { progress with flags := progress.flags ++ on }
    return none
  if on.contains .template then
    fail "bad inline flags: cannot turn on global flag".toList 1
  let off ←
    if ended = '-' then
      let next ← take
      match next with
      | some (.plain c) =>
        match flag? c with
        | some flag => readFlagsOff bound flag []
        | none => refuseFlag "missing flag" next
      | _ => refuseFlag "missing flag" next
    else pure []
  if off.contains .template then
    fail "bad inline flags: cannot turn off global flag".toList 1
  if on.any off.contains then fail "bad inline flags: flag turned on and off".toList 1
  return some (on, off)

def checkGroupName (name : List Char) : Reader Unit := do
  if !Text.isIdentifier name then
    fail ("bad character in group name ".toList ++ Text.quote name) (name.length + 1)

def groupNamed (name : List Char) : Reader Nat := do
  match (← get).names.lookup name with
  | some group => return group
  | none => fail ("unknown group name ".toList ++ Text.quote name) (name.length + 1)

def readNamedReference : Reader Node := do
  let name ← takeName ')' "group name"
  checkGroupName name
  let group ← groupNamed name
  if !(← isClosed group) then fail "cannot refer to an open group".toList (name.length + 1)
  checkLookbehind group
  return .reference group

def openGroup (name : Option (List Char)) : Reader Nat := do
  let group ← groupCount
  match name with
  | none => pure ()
  | some name =>
    match (← get).names.lookup name with
    | none => modify fun progress => { progress with names := (name, group) :: progress.names }
    | some earlier =>
      fail ("redefinition of group name ".toList ++ Text.quote name ++ " as group ".toList ++
        Nat.toDigits 10 group ++ "; was group ".toList ++ Nat.toDigits 10 earlier)
        (name.length + 1)
  modify fun progress => { progress with widths := progress.widths ++ [none] }
  return group

def closedWidths : Reader (Nat → Width) := do
  let widths := (← get).widths
  return fun group => (widths[group - 1]?.join).getD ⟨0, 0⟩

def closeGroup (group : Nat) (body : List Node) : Reader Unit := do
  let width := (widthOfAll (← closedWidths) body).cut
  modify fun progress => { progress with widths := progress.widths.set (group - 1) (some width) }

def looseDigits? : List Char → Option Nat
  | [] => none
  | c :: rest => do
    let value ← Text.decimalValue? c.toNat
    rest.foldlM (m := Option) (fun (state : Nat × Bool) d =>
      if d = '_' then (if state.2 then none else some (state.1, true))
      else (Text.decimalValue? d.toNat).map fun v => (10 * state.1 + v, false)) (value, false)
    >>= fun state => if state.2 then none else some state.1

def looseNumber? (text : List Char) : Option Nat :=
  let text := Text.trim text
  if 4300 < (text.filter fun c => Text.isDecimalDigit c.toNat).length then none
  else match text with
    | '+' :: digits => looseDigits? digits
    | '-' :: digits => (looseDigits? digits).bind fun n => if n = 0 then some 0 else none
    | digits => looseDigits? digits

def groupBound : Nat := 1073741823

def readCondition : Reader Nat := do
  let name ← takeName ')' "group name"
  let group ←
    if Text.isIdentifier name then groupNamed name
    else
      match looseNumber? name with
      | none => fail ("bad character in group name ".toList ++ Text.quote name) (name.length + 1)
      | some group =>
        if group = 0 then fail "bad group number".toList (name.length + 1)
        if groupBound ≤ group then
          fail ("invalid group reference ".toList ++ Nat.toDigits 10 group) (name.length + 1)
        let at' := (← position) - name.length - 1
        if ((← get).conditions.lookup group).isNone then
          modify fun progress =>
            { progress with conditions := progress.conditions ++ [(group, at')] }
        pure group
  checkLookbehind group
  return group

def skipComment (start : Nat) : Nat → Reader Unit
  | 0 => return
  | bound + 1 => do
    if (← peek).isNone then
      fail "missing ), unterminated comment".toList ((← position) - start)
    if (← take) ≠ some (.plain ')') then skipComment start bound

def skipLine : Nat → Reader Unit
  | 0 => return
  | bound + 1 => do
    match ← take with
    | none => return
    | some piece => if piece ≠ .plain '\n' then skipLine bound

def closeParenthesis (start : Nat) : Reader Unit := do
  if !(← accept ')') then
    fail "missing ), unterminated subpattern".toList ((← position) - start)

inductive Opening
  | capture (name : Option (List Char))
  | plain (on off : List Flag)
  | atomic
  | look (behind negated : Bool)
  | conditional
  | comment
  | reference
  | globalFlags

def readOpening : Reader Opening := do
  if !(← accept '?') then return .capture none
  let endOfPattern {α : Type} : Reader α := fail "unexpected end of pattern".toList 0
  let unknown {α : Type} (mark : List Char) (piece : Piece) : Reader α :=
    fail ("unknown extension ?".toList ++ mark ++ piece.text) (piece.text.length + mark.length + 1)
  match ← take with
  | none => endOfPattern
  | some piece =>
    match piece with
    | .plain 'P' =>
      if ← accept '<' then
        let name ← takeName '>' "group name"
        checkGroupName name
        return .capture (some name)
      else if ← accept '=' then return .reference
      else
        match ← take with
        | none => endOfPattern
        | some next => unknown ['P'] next
    | .plain ':' => return .plain [] []
    | .plain '#' => return .comment
    | .plain '=' => return .look false false
    | .plain '!' => return .look false true
    | .plain '<' =>
      match ← take with
      | none => endOfPattern
      | some (.plain '=') => return .look true false
      | some (.plain '!') => return .look true true
      | some next => unknown ['<'] next
    | .plain '(' => return .conditional
    | .plain '>' => return .atomic
    | .plain c =>
      if (flag? c).isSome || c = '-' then
        match ← readFlags c with
        | none => return .globalFlags
        | some (on, off) => return .plain on off
      else unknown [] piece
    | _ => unknown [] piece

end Destructure.Regex
