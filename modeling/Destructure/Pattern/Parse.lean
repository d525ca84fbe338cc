import Destructure.Token

/-!
Patterns from tokens.

A pattern is a sequence in brackets, a mapping in braces, a literal, a name, or a regular
expression, which a sequence for its captures may follow. A sequence may end in a tail: a bar and a
name, with or without a comma before the bar. The keys of a mapping are names or quoted texts, each
at most once.

Reading goes token by token. The constructs that are still open are kept in a row of frames, the
innermost first; that row also tells which brackets are missing when the tokens run out.
-/

namespace Destructure

namespace Reading

inductive Frame
  | sequence (start : Int) (captured : Option Regex) (elements : List Pattern)
  | mapping (start : Int) (entries : List (String × Int × Pattern))
      (pending : Option (String × Int))

namespace Frame

def start : Frame → Int
  | .sequence start _ _ => start
  | .mapping start _ _ => start

def closer : Frame → Char
  | .sequence _ _ _ => ']'
  | .mapping _ _ _ => '\x7d'

end Frame

inductive Expecting
  | pattern
  | captures (expression : Regex)
  | element (comma : Option Int)
  | afterElement
  | tailName (bar : Int)
  | afterTail
  | key (mayClose : Bool)
  | equals
  | afterEntry
  | nothing (result : Pattern)

end Reading

structure Reading where
  frames : List Reading.Frame
  expecting : Reading.Expecting

namespace Reading

structure Source where
  literal? : Nat → Option Literal
  text : String

namespace Source

def literal (source : Source) (number : Nat) : Except Failure Literal :=
  match source.literal? number with
  | some l => .ok l
  | none => .error .malformedMarker

def shown (source : Source) (t : Token) : String :=
  match t.lexeme with
  | .openBracket => "["
  | .closeBracket => "]"
  | .openBrace => "\x7b"
  | .closeBrace => "\x7d"
  | .comma => ","
  | .equals => "="
  | .pipe => "|"
  | .name text => text
  | .literal number =>
    match source.literal? number with
    | some l => String.ofList l.raw
    | none => ""

end Source

def start : Reading :=
  ⟨[], .pattern⟩

def complete (frames : List Frame) (p : Pattern) : Reading :=
  match frames with
  | [] => ⟨[], .nothing p⟩
  | .sequence start captured elements :: outer =>
    ⟨.sequence start captured (p :: elements) :: outer, .afterElement⟩
  | .mapping start entries (some (key, position)) :: outer =>
    ⟨.mapping start ((key, position, p) :: entries) none :: outer, .afterEntry⟩
  | .mapping start entries none :: outer =>
    ⟨.mapping start entries none :: outer, .afterEntry⟩

def close : Frame → List Frame → Reading
  | .sequence _ none elements, outer => complete outer (.sequence elements.reverse)
  | .sequence _ (some expression) elements, outer =>
    complete outer (.groups expression elements.reverse)
  | .mapping _ entries _, outer =>
    complete outer (.mapping (entries.reverse.map fun (key, _, p) => (key, p)))

def closeFrame : List Frame → Except Failure Reading
  | [] => .error .bracketUnderflow
  | frame :: outer => .ok (close frame outer)

def openSequence (frames : List Frame) (captured : Option Regex) (position : Int) : Reading :=
  ⟨.sequence position captured [] :: frames, .element none⟩

def compileRegex (l : Literal) (source : List Char) (ignoreCase : Bool) : Except Failure Regex :=
  match Regex.compile (String.ofList source) ignoreCase with
  | .ok expression => .ok expression
  | .error (.malformed message position) =>
    .error (.ofError (.invalidRegex (String.ofList l.raw) (String.ofList source)
      (Regex.describeProblem source message position) l.position))
  | .error .repetitionTooLarge => .error .repetitionTooLarge
  | .error (.numeralTooLong digits) => .error (.numeralTooLong digits)
  | .error .incompatibleFlags => .error .incompatibleFlags
  | .error .lookbehindTooLong => .error .lookbehindTooLong

def beginPattern (source : Source) (frames : List Frame) (t : Token) : Except Failure Reading :=
  match t.lexeme with
  | .openBracket => .ok (openSequence frames none t.position)
  | .openBrace => .ok ⟨.mapping t.position [] none :: frames, .key true⟩
  | .name text => .ok (complete frames (.variable text false))
  | .literal number => do
    let l ← source.literal number
    match l.payload with
    | .text value => return complete frames (.text (String.ofList value))
    | .number value => return complete frames (.number value)
    | .regex regex ignoreCase =>
      return ⟨frames, .captures (← compileRegex l regex ignoreCase)⟩
  | _ =>
    .error (.ofError (.unexpectedToken (source.shown t) t.lexeme.kindName t.position))

def keyOf (source : Source) (t : Token) : Except Failure String := do
  let invalid : Failure := .ofError (.invalidKey (source.shown t) t.position)
  match t.lexeme with
  | .name text => return text
  | .literal number =>
    match (← source.literal number).payload with
    | .text value => return String.ofList value
    | _ => throw invalid
  | _ => throw invalid

def beginEntry (source : Source) (frames : List Frame) (t : Token) : Except Failure Reading := do
  let key ← keyOf source t
  match frames with
  | .mapping start entries _ :: outer =>
    match entries.lookup key with
    | some (first, _) => throw (.ofError (.repeatedKey key t.position first))
    | none => return ⟨.mapping start entries (some (key, t.position)) :: outer, .equals⟩
  | _ => return ⟨frames, .equals⟩

def pendingKey : List Frame → String × Int
  | .mapping _ _ (some pending) :: _ => pending
  | _ => ("", 0)

def atElement (source : Source) (frames : List Frame) (comma : Option Int) (t : Token) :
    Except Failure Reading :=
  match t.lexeme, comma with
  | .closeBracket, none => closeFrame frames
  | .closeBracket, some position => .error (.ofError (.trailingComma position))
  | .pipe, _ => .ok ⟨frames, .tailName t.position⟩
  | _, _ => beginPattern source frames t

def advance (source : Source) (r : Reading) (t : Token) : Except Failure Reading :=
  let refuse (error : PatternError) : Except Failure Reading := .error (.ofError error)
  match r.expecting with
  | .pattern => beginPattern source r.frames t
  | .captures _ => .ok r
  | .element comma => atElement source r.frames comma t
  | .afterElement =>
    match t.lexeme with
    | .comma => .ok ⟨r.frames, .element (some t.position)⟩
    | .closeBracket => closeFrame r.frames
    | .pipe => .ok ⟨r.frames, .tailName t.position⟩
    | _ => refuse (.missingComma (source.shown t) t.position)
  | .tailName bar =>
    match t.lexeme with
    | .name text => .ok ⟨(complete r.frames (.variable text true)).frames, .afterTail⟩
    | _ => refuse (.tailWithoutName (some (source.shown t)) bar)
  | .afterTail =>
    match t.lexeme with
    | .closeBracket => closeFrame r.frames
    | _ => refuse (.tailNotLast (source.shown t) t.position)
  | .key mayClose =>
    if mayClose && t.lexeme == .closeBrace then closeFrame r.frames
    else beginEntry source r.frames t
  | .equals =>
    match t.lexeme with
    | .equals => .ok ⟨r.frames, .pattern⟩
    | _ =>
      let (key, position) := pendingKey r.frames
      refuse (.missingEquals key (some (source.shown t)) position)
  | .afterEntry =>
    match t.lexeme with
    | .closeBrace => closeFrame r.frames
    | .comma => .ok ⟨r.frames, .key false⟩
    | _ => refuse (.missingEntryComma (source.shown t) t.position)
  | .nothing _ => refuse (.afterPattern (source.shown t) t.position)

def step (source : Source) (r : Reading) (t : Token) : Except Failure Reading :=
  match r.expecting with
  | .captures expression =>
    if t.lexeme = .openBracket then .ok (openSequence r.frames (some expression) t.position)
    else (complete r.frames (.regex expression)).advance source t
  | _ => r.advance source t

def unterminated (source : Source) (frames : List Frame) : PatternError :=
  .unterminated (frames.map Frame.closer) ((frames.head?.map Frame.start).getD 0) source.text

def settle (source : Source) (r : Reading) : Except Failure Pattern :=
  match r.expecting with
  | .nothing p => .ok p
  | .pattern =>
    if r.frames.isEmpty then .error (.ofError .emptyPattern)
    else .error (.ofError (.patternBreaksOff source.text))
  | .tailName bar => .error (.ofError (.tailWithoutName none bar))
  | .equals =>
    let (key, position) := pendingKey r.frames
    .error (.ofError (.missingEquals key none position))
  | _ => .error (.ofError (unterminated source r.frames))

def finish (source : Source) (r : Reading) : Except Failure Pattern :=
  match r.expecting with
  | .captures expression => (complete r.frames (.regex expression)).settle source
  | _ => r.settle source

end Reading

def Pattern.ofTokens (source : Reading.Source) (tokens : List Token) : Except Failure Pattern := do
  (← tokens.foldlM (Reading.step source) Reading.start).finish source

end Destructure
