import Destructure.Failure
import Destructure.Template
import Destructure.Text.Blank
import Destructure.Text.Letter

/-!
Lifting the literals out of a pattern text, one character after the other.

Texts stand in single or double quotes. A number starts with a digit, or with a sign directly before
a digit, where it does not continue a name. A regular expression stands between slashes and may
carry the flag `i`. The word `when` with blanks on both sides introduces a condition. From there on
only quoted texts are lifted, so that slashes and signs keep their arithmetic meaning.
-/

namespace Destructure

structure Opened where
  start : Nat
  raw : List Char
  deriving DecidableEq

def Opened.push (o : Opened) (c : Char) : Opened :=
  { o with raw := c :: o.raw }

inductive Mode
  | outside
  | sign (c : Char)
  | quoted (opened : Opened) (quote : Char) (value : List Char) (escaping : Bool)
  | regex (opened : Opened) (escaping : Bool)
  | regexEnd (opened : Opened)
  | number (opened : Opened)
  deriving DecidableEq

structure Trail where
  count : Nat
  last : Char
  word : List Char
  start : Nat
  afterBlank : Bool
  deriving DecidableEq

namespace Trail

def empty : Trail :=
  ⟨0, ' ', [], 0, true⟩

def emit (t : Trail) (c : Char) : Trail :=
  if Text.isNameChar c then
    if t.word.isEmpty then ⟨t.count + 1, c, [c], t.count, Text.isBlank t.last⟩
    else { t with count := t.count + 1, last := c, word := c :: t.word }
  else { t with count := t.count + 1, last := c, word := [] }

def close (t : Trail) : Trail :=
  { t with count := t.count + 1, last := markerChar, word := [], afterBlank := false }

def add (t : Trail) : Piece → Trail
  | .plain c _ => t.emit c
  | .literal _ => t.close

def after (pieces : List Piece) : Trail :=
  pieces.foldr (fun piece t => t.add piece) .empty

end Trail

structure Lifting where
  position : Nat
  pieces : List Piece
  patternPieces : Option Nat
  mode : Mode
  trail : Trail
  tracks : trail = .after pieces
  deriving DecidableEq

namespace Lifting

def state (position : Nat) (pieces : List Piece) (patternPieces : Option Nat) (mode : Mode) :
    Lifting :=
  ⟨position, pieces, patternPieces, mode, .after pieces, rfl⟩

def start : Lifting :=
  state 0 [] none .outside

def unescape? : Char → Option Char
  | '\\' => some '\\'
  | '\'' => some '\''
  | '"' => some '"'
  | '/' => some '/'
  | 'n' => some '\n'
  | 't' => some '\t'
  | 'r' => some '\r'
  | _ => none

def endsInName (s : Lifting) : Bool :=
  Text.isNameChar s.trail.last

def endsInWhen (s : Lifting) : Bool :=
  s.trail.word == ['n', 'e', 'h', 'w'] && s.trail.afterBlank && decide (0 < s.trail.start)

def emit (s : Lifting) (c : Char) (position : Nat) : Lifting where
  position := s.position
  pieces := .plain c position :: s.pieces
  patternPieces := s.patternPieces
  mode := .outside
  trail := s.trail.emit c
  tracks := congrArg (Trail.emit · c) s.tracks

def close (s : Lifting) (opened : Opened) (payload : Payload) : Lifting where
  position := s.position
  pieces := .literal ⟨payload, opened.raw.reverse, opened.start⟩ :: s.pieces
  patternPieces := s.patternPieces
  mode := .outside
  trail := s.trail.close
  tracks := congrArg Trail.close s.tracks

def isNumberChar (c : Char) : Bool :=
  c.isDigit || c == '.' || c == 'e' || c == 'E' || c == '+' || c == '-'

def readNumber (opened : Opened) : Except Failure Number :=
  let text := opened.raw.reverse
  let (negative, unsigned) := Numeral.splitSign text
  match Numeral.split? unsigned with
  | some (numeral, []) =>
    if numeral.isWhole then
      if Number.maxDigits < numeral.whole.length then .error (.numeralTooLong numeral.whole.length)
      else .ok (.integer (if negative then -(numeral.toNat : Int) else numeral.toNat))
    else .ok (.float (numeral.toBinary64 negative))
  | _ => .error (.ofError (.malformedNumber (String.ofList text) opened.start))

def closeNumber (s : Lifting) (opened : Opened) : Except Failure Lifting := do
  return s.close opened (.number (← readNumber opened))

def closeRegex (s : Lifting) (opened : Opened) (ignoreCase : Bool) : Lifting :=
  let content := if ignoreCase then opened.raw.drop 2 else opened.raw.drop 1
  s.close opened (.regex (content.reverse.drop 1) ignoreCase)

def outside (s : Lifting) (c : Char) : Except Failure Lifting :=
  if c = markerChar then .error (.ofError (.nulCharacter s.position))
  else
    -- the blank behind a `when` decides that the condition has begun, and only then is it known how
    -- to read the blank itself and what follows
    let s :=
      if s.patternPieces.isNone && Text.isBlank c && s.endsInWhen then
        { s with patternPieces := some s.trail.start }
      else s
    let opened : Opened := ⟨s.position, [c]⟩
    if c = '\'' ∨ c = '"' then .ok { s with mode := .quoted opened c [] false }
    else if s.patternPieces.isSome then .ok (s.emit c s.position)
    else if c = '/' then .ok { s with mode := .regex opened false }
    else if s.endsInName then .ok (s.emit c s.position)
    else if c.isDigit then .ok { s with mode := .number opened }
    else if c = '+' ∨ c = '-' then .ok { s with mode := .sign c }
    else .ok (s.emit c s.position)

def inQuotes (s : Lifting) (opened : Opened) (quote : Char) (value : List Char) (escaping : Bool)
    (c : Char) : Except Failure Lifting :=
  let opened := opened.push c
  if escaping then
    match unescape? c with
    | some d => .ok { s with mode := .quoted opened quote (d :: value) false }
    | none => .error (.ofError (.unknownEscape c (s.position - 1)))
  else if c = '\\' then .ok { s with mode := .quoted opened quote value true }
  else if c = quote then .ok (s.close opened (.text value.reverse))
  else .ok { s with mode := .quoted opened quote (c :: value) false }

def advance (s : Lifting) (c : Char) : Except Failure Lifting :=
  match s.mode with
  | .outside => s.outside c
  | .sign sign =>
    if c.isDigit then .ok { s with mode := .number ⟨s.position - 1, [c, sign]⟩ }
    else (s.emit sign (s.position - 1)).outside c
  | .quoted opened quote value escaping => s.inQuotes opened quote value escaping c
  | .regex opened escaping =>
    let opened := opened.push c
    if escaping then .ok { s with mode := .regex opened false }
    else if c = '\\' then .ok { s with mode := .regex opened true }
    else if c = '/' then .ok { s with mode := .regexEnd opened }
    else .ok { s with mode := .regex opened false }
  | .regexEnd opened =>
    if c = 'i' then .ok (s.closeRegex (opened.push c) true)
    else (s.closeRegex opened false).outside c
  | .number opened =>
    if isNumberChar c then .ok { s with mode := .number (opened.push c) }
    else do (← s.closeNumber opened).outside c

def step (s : Lifting) (c : Char) : Except Failure Lifting :=
  (s.advance c).map fun s => { s with position := s.position + 1 }

def snippet (opened : Opened) : String :=
  String.ofList (opened.raw.reverse.take 10)

def finish (s : Lifting) : Except Failure Lifting :=
  match s.mode with
  | .outside => .ok s
  | .sign sign => .ok (s.emit sign (s.position - 1))
  | .quoted opened _ _ _ =>
    .error (.ofError (.unterminatedText (snippet opened) opened.start))
  | .regex opened _ => .error (.ofError (.unterminatedRegex (snippet opened) opened.start))
  | .regexEnd opened => .ok (s.closeRegex opened false)
  | .number opened => s.closeNumber opened

end Lifting

def Template.ofText (source : List Char) : Except Failure Template := do
  let s ← (← source.foldlM Lifting.step .start).finish
  return ⟨s.pieces.reverse, s.patternPieces⟩

end Destructure
