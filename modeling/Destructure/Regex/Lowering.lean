import Destructure.Regex.Search
import Destructure.Regex.Syntax
import Destructure.Text.Blank
import Destructure.Text.DecimalDigit
import Destructure.Text.Letter
import Destructure.Text.LetterCase

/-!
Working the flags into an expression.

When case is ignored, a character is compared by its lower-case form, and lower-case forms with the
same upper-case form count as one. This concerns characters that have two cases; a set in which no
member has two cases is left alone. Beyond the first 65536 code points a set compares a member as it
is written with the lower-case form, and a range also with the upper-case form of that.
-/

namespace Destructure.Regex

inductive Fold
  | exact
  | ascii
  | unicode
  deriving DecidableEq

namespace Fold

def ofFlags (flags : List Flag) : Fold :=
  if flags.contains .ignoreCase then (if flags.contains .unicode then .unicode else .ascii)
  else .exact

def lower : Fold → Nat → Nat
  | .exact, n => n
  | .ascii, n => if 65 ≤ n && n ≤ 90 then n + 32 else n
  | .unicode, n => Text.lower n

def isCased : Fold → Nat → Bool
  | .exact, _ => false
  | .ascii, n => Text.isAsciiLetter n
  | .unicode, n => Text.isCased n

def twins : Fold → Nat → List Nat
  | .unicode, n => Text.lowerTwins n
  | _, _ => []

def sources : Fold → Nat → List Nat
  | .exact, n => [n]
  | .ascii, n =>
    if 97 ≤ n && n ≤ 122 then [n, n - 32] else if 65 ≤ n && n ≤ 90 then [] else [n]
  | .unicode, n => Text.lowerSources n

end Fold

def foldingBound : Nat := 65536

def Category.contains (unicode : Bool) : Category → Nat → Bool
  | .digit, n => if unicode then Text.isDecimalDigit n else Text.isAsciiDigit n
  | .space, n => if unicode then Text.isBlankCode n else (9 ≤ n && n ≤ 13) || n == 32
  | .word, n =>
    n == 95 ||
      if unicode then Text.isAlphanumeric n else Text.isAsciiLetter n || Text.isAsciiDigit n

def SetItem.isCased (fold : Fold) : SetItem → Bool
  | .one code => foldingBound ≤ fold.lower code || fold.isCased code
  | .range low high =>
    foldingBound ≤ high || (List.range' low (high + 1 - low)).any fold.isCased
  | .category _ _ => false

def SetItem.contains (unicode : Bool) : SetItem → Nat → Bool
  | .one code, n => n == code
  | .range low high, n => low ≤ n && n ≤ high
  | .category kind negated, n => kind.contains unicode n != negated

def SetItem.containsFolded (fold : Fold) (unicode : Bool) : SetItem → Nat → Bool
  | .one code, n =>
    if foldingBound ≤ fold.lower code then n == code
    else n == fold.lower code || (fold.twins (fold.lower code)).contains n
  | .range low high, n =>
    ((n :: fold.twins n).any fun form =>
        (fold.sources form).any fun m => low ≤ m && m ≤ high && m < foldingBound) ||
      (foldingBound ≤ high &&
        ((low ≤ n && n ≤ high) || (low ≤ Text.upper n && Text.upper n ≤ high)))
  | .category kind negated, n => kind.contains unicode n != negated

def matchesLiteral (fold : Fold) (code : Nat) : Nat → Bool :=
  if fold.isCased code then
    let form := fold.lower code
    let forms := form :: fold.twins form
    fun n => forms.contains (fold.lower n)
  else fun n => n == code

def matchesSet (fold : Fold) (unicode negated : Bool) (items : List SetItem) : Nat → Bool :=
  if fold != .exact && items.any (SetItem.isCased fold) then
    fun n => (items.any fun item => item.containsFolded fold unicode (fold.lower n)) != negated
  else fun n => (items.any fun item => item.contains unicode n) != negated

def atBoundary (unicode negated : Bool) (c : Cursor) : Bool :=
  let isWord (side : List Char) : Bool :=
    side.head?.any fun x => Category.contains unicode .word x.toNat
  if c.before.isEmpty && c.after.isEmpty then false
  else (isWord c.before != isWord c.after) != negated

def atPlace (flags : List Flag) : Anchor → Cursor → Bool
  | .textStart, c => c.before.isEmpty
  | .textEnd, c => c.after.isEmpty
  | .beginning, c =>
    c.before.isEmpty || (flags.contains .multiline && c.before.head? == some '\n')
  | .ending, c =>
    c.after.isEmpty || c.after == ['\n'] ||
      (flags.contains .multiline && c.after.head? == some '\n')
  | .boundary negated, c => atBoundary (flags.contains .unicode) negated c

def scopedFlags (flags on off : List Flag) : List Flag :=
  let isAlphabet (flag : Flag) : Bool := flag == .ascii || flag == .locale || flag == .unicode
  let kept := if on.any isAlphabet then flags.filter (fun flag => !isAlphabet flag) else flags
  (kept ++ on).filter fun flag => !off.contains flag

def Eagerness.progression : Eagerness → Progression
  | .greedy => .greedy
  | .lazy => .lazy
  | .possessive => .possessive

def Eagerness.name : Eagerness → String
  | .greedy => "MAX_REPEAT"
  | .lazy => "MIN_REPEAT"
  | .possessive => "POSSESSIVE_REPEAT"

def lookbehindWidth (width : Width) : Except Problem Nat :=
  if 4294967295 < width.least then .error (.malformed "looks too much behind" none)
  else if width.least ≠ width.greatest then
    .error (.malformed "look-behind requires fixed-width pattern" none)
  else .ok width.least

mutual

def Node.lower (groups : Nat → Width) (flags : List Flag) : Node → Except Problem (List Plan)
  | .literal code => .ok [.char (matchesLiteral (Fold.ofFlags flags) code)]
  | .notLiteral code =>
    .ok [.char fun n => !matchesLiteral (Fold.ofFlags flags) code n]
  | .any =>
    if flags.contains .dotAll then .ok [.char fun _ => true] else .ok [.char fun n => n != 10]
  | .set negated items =>
    .ok [.char (matchesSet (Fold.ofFlags flags) (flags.contains .unicode) negated items)]
  | .anchor place => .ok [.place (atPlace flags place)]
  | .choice alternatives => do return [.choice (← lowerChoice groups flags alternatives)]
  | .capture group body => do return [.capture group (← lowerAll groups flags body)]
  | .scoped on off body => lowerAll groups (scopedFlags flags on off) body
  | .loop eagerness least most body => do
    if flags.contains .template then
      throw (.malformed ("internal: unsupported template operator " ++ eagerness.name) none)
    return [.loop eagerness.progression least most (← lowerAll groups flags body)]
  | .look behind negated body => do
    let back ← if behind then lookbehindWidth (widthOfAll groups body).cut else pure 0
    return [.look back negated (← lowerAll groups flags body)]
  | .reference group =>
    let fold := Fold.ofFlags flags
    .ok [.reference group fun a b => fold.lower a == fold.lower b]
  | .conditional group yes none => do
    return [.conditional group (← lowerAll groups flags yes) []]
  | .conditional group yes (some no) => do
    return [.conditional group (← lowerAll groups flags yes) (← lowerAll groups flags no)]
  | .atomic body => do return [.atomic (← lowerAll groups flags body)]

def lowerAll (groups : Nat → Width) (flags : List Flag) : List Node → Except Problem (List Plan)
  | [] => .ok []
  | node :: rest => do return (← node.lower groups flags) ++ (← lowerAll groups flags rest)

def lowerChoice (groups : Nat → Width) (flags : List Flag) :
    List (List Node) → Except Problem (List (List Plan))
  | [] => .ok []
  | body :: rest => do return (← lowerAll groups flags body) :: (← lowerChoice groups flags rest)

end

end Destructure.Regex
