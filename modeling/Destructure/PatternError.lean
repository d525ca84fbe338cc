import Destructure.Pattern.Describe
import Destructure.Report
import Destructure.Text.Wide
import Destructure.Value.Render

namespace Destructure

inductive PatternError
  | nulCharacter (position : Int)
  | unknownEscape (c : Char) (position : Int)
  | malformedNumber (numeral : String) (position : Int)
  | unterminatedRegex (start : String) (position : Int)
  | unterminatedText (start : String) (position : Int)
  | strayCharacter (c : Char) (position : Int)
  | emptyPattern
  | afterPattern (found : String) (position : Int)
  | unexpectedToken (found kind : String) (position : Int)
  | unterminated (closers : List Char) (position : Int) (pattern : String)
  | patternBreaksOff (pattern : String)
  | tailNotLast (found : String) (position : Int)
  | trailingComma (position : Int)
  | missingComma (found : String) (position : Int)
  | tailWithoutName (found : Option String) (position : Int)
  | repeatedKey (key : String) (position first : Int)
  | missingEquals (key : String) (found : Option String) (position : Int)
  | missingEntryComma (found : String) (position : Int)
  | invalidKey (found : String) (position : Int)
  | invalidRegex (raw source problem : String) (position : Int)
  | unknownConditionEscape (c : Char) (position : Int)
  | unterminatedConditionText (start : String) (position : Int)
  | strayConditionCharacter (c : Char) (position : Int)
  | emptyCondition
  | afterCondition (found : String) (position : Int) (condition : String)
  | conditionBreaksOff (condition : String)
  | unterminatedParenthesis (position : Int) (condition : String)
  | unexpectedConditionToken (found kind : String) (position : Int) (condition : String)
  | unknownVariable (name : String) (position : Int) (known similar : List String)
  | misplacedTail (name : String) (pattern : Pattern)
  | unsupportedNode (node : ForeignNode)
  | patternNotText (value : Value)
  | oddClauseList (count : Nat)
  | clauseNotPair (number : Nat) (item : String)
  | clausePatternNotText (number : Nat) (pattern : String)
  | clauseActionNotCallable (number : Nat) (pattern : WideText) (action : String)

namespace PatternError

def isWritable : PatternError → Bool
  | .misplacedTail _ pattern => pattern.isWritable
  | .patternNotText value => value.isWritable
  | _ => true

def characterWithCode (c : Char) : String :=
  "Character: " ++ toString c ++ " (code " ++ toString c.toNat ++ ")"

def validEscapes : String :=
  "Valid escape: \\\\, \\', \\\", \\/, \\n, \\t or \\r"

def patternContext (pattern : String) : Option String :=
  if pattern = "" then none else some ("Pattern: " ++ pattern)

def conditionContext (condition : String) : Option String :=
  some ("Condition: " ++ condition)

def foundOrEnd (found : Option String) : String :=
  "Found: " ++ found.getD "end of pattern"

def strayCharacterAdvice (c : Char) : String :=
  match c with
  | ':' => "Use '=' between a mapping key and its pattern, not ':'"
  | '(' | ')' => "Use square brackets [ ] for sequence patterns"
  | '.' => "Numbers must start with a digit, e.g. 0.5 rather than .5"
  | '-' => "Identifiers may only contain letters, digits and underscores"
  | '$' | '@' => "Variables are bare identifiers, no sigil is needed"
  | _ => "'" ++ toString c ++ "' is not valid outside a quoted string or regex"

def strayConditionCharacterAdvice (c : Char) : String :=
  match c with
  | '=' => "Use '==' to compare values, conditions cannot assign"
  | '!' => "Use 'not' for negation"
  | '&' => "Use 'and' to combine conditions"
  | '|' => "Use 'or' to combine conditions"
  | '%' => "Only +, -, * and / are supported in conditions"
  | _ => "'" ++ toString c ++ "' is not valid in a condition"

def report : PatternError → Report
  | .nulCharacter position =>
    { message := "Invalid control character in pattern: \\u0000"
      position := some position
      received := some "NUL character"
      suggestion := some "Remove the NUL character from the pattern text" }
  | .unknownEscape c position =>
    { message := "Invalid escape sequence: \\" ++ toString c
      position := some position
      received := some ("Escape sequence: \\" ++ toString c)
      expected := some validEscapes
      sample := some "'it\\'s' or \"say \\\"hi\\\"\""
      suggestion := some "Use a valid escape sequence or remove the backslash" }
  | .malformedNumber numeral position =>
    { message := "Malformed numeric literal: " ++ numeral
      position := some position
      received := some ("Numeric literal: " ++ numeral)
      expected := some "Integer or decimal number, optionally with an exponent"
      sample := some "42, -7, 3.14, 1e-3" }
  | .unterminatedRegex start position =>
    { message := "Unterminated regular expression literal"
      position := some position
      received := some ("Regular expression starting with: " ++ start ++ "...")
      expected := some "Closing / at the end of the regular expression"
      sample := some "Correct: /[0-9]+/\nIncorrect: /[0-9]+"
      suggestion := some "Add a closing / (escape a literal slash as \\/)" }
  | .unterminatedText start position =>
    { message := "Unterminated string literal"
      position := some position
      received := some ("String starting with: " ++ start ++ "...")
      expected := some "Closing quote at the end of the string"
      sample := some "Correct: 'member'\nIncorrect: 'member"
      suggestion := some "Add the matching closing quote" }
  | .strayCharacter c position =>
    { message := "Invalid character in pattern: " ++ toString c
      position := some position
      received := some (characterWithCode c)
      expected := some "Brackets, braces, ',', '=', '|', identifiers or literals"
      sample := some
        "[head | tail], \x7btype = 'member', name = n\x7d, /([0-9]+)/ [_, digits]"
      suggestion := some (strayCharacterAdvice c) }
  | .emptyPattern =>
    { message := "Empty pattern"
      expected := some "Pattern such as _, x, 'literal', [a, b | rest] or \x7bkey = value\x7d"
      sample := some "[head | tail]"
      suggestion := some "Provide a pattern to match against" }
  | .afterPattern found position =>
    { message := "Unexpected token after complete pattern"
      position := some position
      received := some ("Found: " ++ found)
      expected := some "End of pattern or ' when <condition>'"
      sample := some "Correct: [a, b]\nIncorrect: [a, b] c"
      suggestion := some "Wrap multiple patterns in a sequence: [p1, p2]" }
  | .unexpectedToken found kind position =>
    { message := "Unexpected token: " ++ found
      position := some position
      received := some ("Token: " ++ found ++ " (type: " ++ kind ++ ")")
      expected := some "'[', '\x7b', identifier or literal"
      sample := some "[a, b | rest] or \x7bname = n\x7d"
      suggestion :=
        if found = "|" then
          some "Tail markers '|' may only appear inside a sequence, before its last element"
        else none }
  | .unterminated closers position pattern =>
    let depth := closers.length
    { message := "Unterminated pattern - missing " ++ toString depth ++ " closing bracket" ++
        (if 1 < depth then "s" else "")
      position := some position
      expected := some ("Add '" ++ " ".intercalate (closers.map toString) ++
        "' to close all open patterns")
      sample := some "Correct: [a, \x7bb = c\x7d]\nIncorrect: [a, \x7bb = c\x7d"
      context := patternContext pattern }
  | .patternBreaksOff pattern =>
    { message := "Unexpected end of pattern"
      expected := some "Expected a pattern"
      context := patternContext pattern }
  | .tailNotLast found position =>
    { message := "Tail variable must be the last element of a sequence"
      position := some position
      received := some ("Found: " ++ found ++ " after the tail")
      expected := some "']' after the tail variable"
      sample := some "[first, second | rest]" }
  | .trailingComma position =>
    { message := "Trailing comma in sequence pattern"
      position := some position
      expected := some "Another element or a tail ('| name') after ','"
      sample := some "[a, b] or [a, b, | rest]" }
  | .missingComma found position =>
    { message := "Missing comma between sequence elements"
      position := some position
      received := some ("Found: " ++ found)
      expected := some "',', '|' or ']'"
      sample := some "[a, b, c]" }
  | .tailWithoutName found position =>
    { message := "Tail marker must be followed by a variable name"
      position := some position
      received := some (foundOrEnd found)
      expected := some "Identifier after '|'"
      sample := some "[head | tail] or [_ | _]" }
  | .repeatedKey key position first =>
    { message := "Duplicate mapping key: " ++ key
      position := some position
      received := some ("Key '" ++ key ++ "' first used at position " ++ toString first)
      suggestion := some "Each key may only appear once in a mapping pattern" }
  | .missingEquals key found position =>
    { message := "Missing '=' after mapping key: " ++ key
      position := some position
      received := some (foundOrEnd found)
      expected := some "key = pattern"
      sample := some "\x7btype = 'member', name = n\x7d" }
  | .missingEntryComma found position =>
    { message := "Missing comma between mapping entries"
      position := some position
      received := some ("Found: " ++ found)
      expected := some "',' or '\x7d'"
      sample := some "\x7btype = 'member', name = n\x7d" }
  | .invalidKey found position =>
    { message := "Invalid mapping key: " ++ found
      position := some position
      expected := some "Identifier or quoted string as mapping key"
      sample := some "\x7bname = n, 'first name' = f\x7d" }
  | .invalidRegex raw source problem position =>
    { message := "Invalid regular expression: " ++ raw
      position := some position
      received := some ("Regular expression source: " ++ source)
      context := some problem
      suggestion := some "Check the regular expression syntax" }
  | .unknownConditionEscape c position =>
    { message := "Invalid escape sequence in condition: \\" ++ toString c
      position := some position
      expected := some validEscapes }
  | .unterminatedConditionText start position =>
    { message := "Unterminated string literal in condition"
      position := some position
      received := some ("String starting with: " ++ start ++ "...")
      suggestion := some "Add the matching closing quote" }
  | .strayConditionCharacter c position =>
    { message := "Invalid character in condition: " ++ toString c
      position := some position
      received := some (characterWithCode c)
      expected := some "Variables, numbers, strings, true, false, operators or parentheses"
      sample := some "n when n > 0 and n < 10"
      suggestion := some (strayConditionCharacterAdvice c) }
  | .emptyCondition =>
    { message := "Empty condition after 'when'"
      expected := some "Boolean expression over the pattern's variables"
      sample := some "[a, b] when a < b" }
  | .afterCondition found position condition =>
    { message := "Unexpected token after complete condition"
      position := some position
      received := some ("Found: " ++ found)
      expected := some "End of condition, 'and' or 'or'"
      context := conditionContext condition }
  | .conditionBreaksOff condition =>
    { message := "Incomplete condition"
      received := conditionContext condition
      expected := some "Operand after operator"
      sample := some "n when n > 0" }
  | .unterminatedParenthesis position condition =>
    { message := "Unterminated parenthesis in condition"
      position := some position
      expected := some "Closing )"
      context := conditionContext condition }
  | .unexpectedConditionToken found kind position condition =>
    { message := "Unexpected token in condition: " ++ found
      position := some position
      received := some ("Token: " ++ found ++ " (type: " ++ kind ++ ")")
      expected := some "Variable, number, string, true, false, 'not', '-' or '('"
      context := conditionContext condition }
  | .unknownVariable name position known similar =>
    { message := "Unknown variable in condition: " ++ name
      position := some position
      received := some ("Bound variables: " ++
        (if ", ".intercalate known = "" then "(none)" else ", ".intercalate known))
      suggestion := some
        (if similar.isEmpty then "Conditions can only use variables bound by the pattern"
        else "Did you mean: " ++ ", ".intercalate similar ++ "?")
      sample := some "[a, b] when a < b" }
  | .misplacedTail name pattern =>
    { message := "Tail variable '" ++ name ++ "' must be the last element of a sequence"
      received := some pattern.description
      sample := some "[first, second | rest]" }
  | .unsupportedNode node =>
    { message := "Unsupported pattern node: " ++ node.typeName
      received := some node.written }
  | .patternNotText value =>
    { message := "Pattern must be a string"
      received := some (value.typeName ++ ": " ++ String.ofList value.render)
      sample := some "patmatch.match('[a, b | rest]', [1, 2, 3])" }
  | .oddClauseList count =>
    { message := "Guard clause list has an odd number of elements"
      received := some (toString count ++ " elements")
      expected := some
        "Alternating patterns and actions: [pattern1, action1, pattern2, action2]"
      suggestion := some "Every pattern needs an action" }
  | .clauseNotPair number item =>
    { message := "Guard clause " ++ toString number ++ " must be a (pattern, action) pair"
      received := some ("Clause " ++ toString number ++ ": " ++ item)
      sample := some "[('[x]', lambda x: x), ('_', lambda: None)]" }
  | .clausePatternNotText number pattern =>
    { message := "Guard clause " ++ toString number ++ " pattern must be a string"
      received := some ("Pattern: " ++ pattern) }
  | .clauseActionNotCallable number pattern action =>
    { message := "Guard clause " ++ toString number ++ " action must be callable"
      received := some ("Action for " ++ pattern.shown ++ ": " ++ action)
      suggestion := some "Wrap constant results in a lambda: lambda: value" }

end PatternError

end Destructure
