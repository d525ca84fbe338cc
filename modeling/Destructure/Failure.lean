import Destructure.PatternError

namespace Destructure

inductive Mismatch
  | literal (pattern : Pattern) (value : Value)
  | notSequence (pattern : Pattern) (value : Value)
  | sequenceTooShort (pattern : Pattern) (value : Value) (length index : Nat)
  | notMapping (pattern : Pattern) (value : Value)
  | missingKey (key : String) (keys : List Value) (pattern : Pattern)
  | failedKey (key : String) (fault : Fault) (value : Value) (pattern : Pattern)
  | missingAttribute (key : String) (value : Value) (pattern : Pattern)
  | failedAttribute (key : String) (fault : Fault) (value : Value) (pattern : Pattern)
  | regexOnOther (expression : Regex) (value : Value)
  | regexDiffers (expression : Regex) (text : String)
  | otherScalar (key : String) (existing value : Value)
  | otherShape (key : String) (existing value : Value)
  | otherLength (key : String) (existing value : Value) (existingLength length : Nat)
  | neverEqual (key : String) (existing value : Value)
  | unboundVariable (name : String) (bound : List String)
  | operand (operator : String) (value : Value) (expected : String)
  | operands (operator : String) (left right : Value) (expected : String)
  | divisionByZero (left right : Value)
  | arithmetic (operator : String) (left right : Value) (reason : ArithmeticError)
  | conditionUndecided (condition : String) (cause : Report)
  | conditionNotMet (condition pattern : String) (bindings : List (Value × Value))

namespace Mismatch

def isWritable : Mismatch → Bool
  | .literal pattern value | .notSequence pattern value | .sequenceTooShort pattern value _ _
  | .notMapping pattern value | .missingAttribute _ value pattern =>
    value.isWritable && pattern.isWritable
  | .missingKey _ keys pattern => Value.itemsWritable keys && pattern.isWritable
  | .failedKey _ _ _ pattern | .failedAttribute _ _ _ pattern => pattern.isWritable
  | .regexOnOther _ value | .operand _ value _ => value.isWritable
  | .otherScalar _ existing value | .otherShape _ existing value
  | .otherLength _ existing value _ _ | .neverEqual _ existing value =>
    value.isWritable && existing.isWritable
  | .operands _ left right _ | .divisionByZero left right | .arithmetic _ left right _ =>
    left.isWritable && right.isWritable
  | .conditionNotMet _ _ bindings => Value.entriesWritable bindings
  | .regexDiffers _ _ | .unboundVariable _ _ | .conditionUndecided _ _ => true

def regexWithCase (r : Regex) : String :=
  String.ofList (Pattern.describeRegex r) ++
    (if r.ignoreCase then " (case-insensitive)" else " (case-sensitive)")

def lookupFailure (what key : String) (fault : Fault) : String :=
  "Lookup of " ++ what ++ " " ++ key ++ " failed: " ++ fault.kind.name ++ ": " ++ fault.text

def elements (length : Nat) (value : Value) : String :=
  toString length ++ " elements: " ++ value.shown

def report : Mismatch → Report
  | .literal pattern value =>
    { message := "Value does not match literal " ++ pattern.description
      received := some value.shownWithKind
      expected := some pattern.description }
  | .notSequence pattern value =>
    { message := "Expected a sequence"
      received := some value.shownWithKind
      expected := some pattern.description }
  | .sequenceTooShort pattern value length index =>
    { message := "Sequence too short: no element at index " ++ toString index
      received := some (elements length value)
      expected := some
        ("At least " ++ toString (index + 1) ++ " elements: " ++ pattern.description) }
  | .notMapping pattern value =>
    { message := "Expected a mapping or object"
      received := some value.shownWithKind
      expected := some pattern.description }
  | .missingKey key keys pattern =>
    { message := "Missing key: " ++ key
      received := some ("Keys: " ++ (Value.list keys).shown)
      expected := some pattern.description }
  | .failedKey key fault value pattern =>
    { message := lookupFailure "key" key fault
      received := some value.kindName
      expected := some pattern.description }
  | .missingAttribute key value pattern =>
    { message := "Missing attribute: " ++ key
      received := some value.shownWithKind
      expected := some pattern.description }
  | .failedAttribute key fault value pattern =>
    { message := lookupFailure "attribute" key fault
      received := some value.kindName
      expected := some pattern.description }
  | .regexOnOther expression value =>
    { message := "Regular expression " ++ regexWithCase expression ++ " requires a string"
      received := some value.shownWithKind
      expected := some "string" }
  | .regexDiffers expression text =>
    { message := "String does not match regular expression " ++ regexWithCase expression
      received := some (Value.text text).shown
      expected := some
        ("Whole string matching " ++ String.ofList (Pattern.describeRegex expression)) }
  | .otherScalar key existing value =>
    { message := "Value for '" ++ key ++ "' does not match existing value"
      received := some value.shown
      expected := some existing.shown
      context := some
        "Variables in an immutable scope cannot be rebound to a different value" }
  | .otherShape key existing value =>
    { message := "Array/non-array mismatch for '" ++ key ++ "'"
      received := some value.shownWithKind
      expected := some existing.shownWithKind }
  | .otherLength key existing value existingLength length =>
    { message := "Array length mismatch for '" ++ key ++ "'"
      received := some (elements length value)
      expected := some (elements existingLength existing) }
  | .neverEqual key existing value =>
    { message := "Cannot rebind '" ++ key ++ "': complex values always considered non-matching"
      received := some value.shownWithKind
      expected := some existing.shownWithKind
      context := some "Immutable scopes only compare scalars and sequences" }
  | .unboundVariable name bound =>
    { message := "Condition variable is not bound: " ++ name
      received := some ("Bound variables: " ++
        (if ", ".intercalate bound = "" then "(none)" else ", ".intercalate bound)) }
  | .operand operator value expected =>
    { message := "Invalid operand for '" ++ operator ++ "' in condition"
      received := some value.shownWithKind
      expected := some expected }
  | .operands operator left right expected =>
    { message := "Invalid operands for '" ++ operator ++ "' in condition"
      received := some
        (left.shownWithKind ++ " " ++ operator ++ " " ++ right.shownWithKind)
      expected := some expected }
  | .divisionByZero left right =>
    { message := "Division by zero in condition"
      received := some (left.shown ++ " / " ++ right.shown) }
  | .arithmetic operator left right reason =>
    { message := "Arithmetic error in condition: " ++ reason.message
      received := some (left.shown ++ " " ++ operator ++ " " ++ right.shown) }
  | .conditionUndecided condition cause =>
    { message := "Condition could not be evaluated: " ++ condition
      context := some cause.message
      received := cause.received }
  | .conditionNotMet condition pattern bindings =>
    { message := "Condition not met: " ++ condition
      received := some ("Bindings: " ++ (Value.mapping bindings).shown)
      context := some ("Pattern: " ++ pattern) }

end Mismatch

inductive Failure
  | invalid (error : PatternError)
  | mismatch (cause : Mismatch)
  | integerTooLong
  | numeralTooLong (digits : Nat)
  | repetitionTooLarge
  | incompatibleFlags
  | lookbehindTooLong
  | malformedMarker
  | bracketUnderflow
  | unencodable (surrogates : Unencodable)
  | raised (fault : Fault)

namespace Failure

def ofError (error : PatternError) : Failure :=
  if error.isWritable then .invalid error else .integerTooLong

def ofMismatch (cause : Mismatch) : Failure :=
  if cause.isWritable then .mismatch cause else .integerTooLong

def digitLimitAdvice : String :=
  "; use sys.set_int_max_str_digits() to increase the limit"

def text : Failure → String
  | .invalid error => error.report.text
  | .mismatch cause => cause.report.text
  | .integerTooLong =>
    "Exceeds the limit (4300 digits) for integer string conversion" ++ digitLimitAdvice
  | .numeralTooLong digits =>
    "Exceeds the limit (4300 digits) for integer string conversion: value has " ++
      toString digits ++ " digits" ++ digitLimitAdvice
  | .repetitionTooLarge => "the repetition number is too large"
  | .incompatibleFlags => "ASCII and UNICODE flags are incompatible"
  | .lookbehindTooLong => "invalid SRE code"
  | .malformedMarker => "Escaper always emits well-formed markers"
  | .bracketUnderflow => "Bracket stack underflow"
  | .unencodable surrogates => surrogates.text
  | .raised fault => fault.text

end Failure

end Destructure
