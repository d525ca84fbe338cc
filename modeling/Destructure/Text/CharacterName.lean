import Destructure.Text.CharacterName.Alias
import Destructure.Text.CharacterName.Ancient
import Destructure.Text.CharacterName.Brahmic
import Destructure.Text.CharacterName.Compatibility
import Destructure.Text.CharacterName.Component
import Destructure.Text.CharacterName.Cuneiform
import Destructure.Text.CharacterName.EastAsian
import Destructure.Text.CharacterName.European
import Destructure.Text.CharacterName.Hieroglyph
import Destructure.Text.CharacterName.MiddleEastern
import Destructure.Text.CharacterName.Modern
import Destructure.Text.CharacterName.Notation
import Destructure.Text.CharacterName.Phonetic
import Destructure.Text.CharacterName.Pictograph
import Destructure.Text.CharacterName.Regional
import Destructure.Text.CharacterName.SignWriting
import Destructure.Text.CharacterName.SouthAsian
import Destructure.Text.CharacterName.SouthEastAsian
import Destructure.Text.CharacterName.Supplement
import Destructure.Text.CharacterName.Syllabic
import Destructure.Text.CharacterName.Symbol
import Destructure.Text.CharacterName.Tag
import Destructure.Text.CodePoint

/-!
Characters given by name, as of Unicode 14.

Most names are listed. Ideographs and a few other large groups are named by their code, and Korean
syllables by the letters they consist of. Listed names are found in letters of either case, the
names of unified ideographs and Korean syllables only in capital letters.
-/

namespace Destructure.Text.CharacterName

def runs : List (List NameRun) := [
  europeanRuns, middleEasternRuns, southAsianRuns, southEastAsianRuns, syllabicRuns,
  phoneticRuns, symbolRuns, supplementRuns, eastAsianRuns, regionalRuns, compatibilityRuns,
  ancientRuns, brahmicRuns, cuneiformRuns, hieroglyphRuns, componentRuns, notationRuns,
  signWritingRuns, modernRuns, pictographRuns, tagRuns]

def upperHex? (digits : List Char) : Option Nat :=
  digits.foldlM (fun n c =>
    if c.isDigit then some (16 * n + (c.toNat - 48))
    else if 'A' ≤ c && c ≤ 'F' then some (16 * n + (c.toNat - 55))
    else none) 0

def afterStem? (stem name : List Char) : Option (List Char) :=
  if stem.isPrefixOf name then some (name.drop stem.length) else none

def unifiedIdeographs : List (Nat × Nat) := [
  (0x3400, 0x4DBF), (0x4E00, 0x9FFF), (0x20000, 0x2A6DF), (0x2A700, 0x2B738), (0x2B740, 0x2B81D),
  (0x2B820, 0x2CEA1), (0x2CEB0, 0x2EBE0), (0x30000, 0x3134A)]

def unifiedIdeograph? (name : List Char) : Option Nat := do
  let digits ← afterStem? "CJK UNIFIED IDEOGRAPH-".toList name
  if digits.length = 4 ∨ digits.length = 5 then
    (upperHex? digits).filter (inRanges unifiedIdeographs)
  else none

def codeNamed : List (String × List (Nat × Nat)) := [
  ("CJK COMPATIBILITY IDEOGRAPH-", [(0xF900, 0xFA6D), (0xFA70, 0xFAD9), (0x2F800, 0x2FA1D)]),
  ("KHITAN SMALL SCRIPT CHARACTER-", [(0x18B00, 0x18CD5)]),
  ("NUSHU CHARACTER-", [(0x1B170, 0x1B2FB)])]

def codeNamed? (name : List Char) : Option Nat :=
  codeNamed.findSome? fun (stem, ranges) => do
    let digits ← afterStem? stem.toList name
    let code ← upperHex? digits
    if inRanges ranges code ∧ 4 ≤ digits.length ∧ (digits.length = 4 ∨ digits.head? ≠ some '0') then
      some code
    else none

def initialLetters : List String :=
  ["G", "GG", "N", "D", "DD", "R", "M", "B", "BB", "S", "SS", "", "J", "JJ", "C", "K", "T", "P",
   "H"]

def vowelLetters : List String :=
  ["A", "AE", "YA", "YAE", "EO", "E", "YEO", "YE", "O", "WA", "WAE", "OE", "YO", "U", "WEO", "WE",
   "WI", "YU", "EU", "YI", "I"]

def finalLetters : List String :=
  ["", "G", "GG", "GS", "N", "NJ", "NH", "D", "L", "LG", "LM", "LB", "LS", "LT", "LP", "LH", "M",
   "B", "BS", "S", "SS", "NG", "J", "C", "K", "T", "P", "H"]

def isVowelLetter (c : Char) : Bool :=
  c == 'A' || c == 'E' || c == 'I' || c == 'O' || c == 'U' || c == 'W' || c == 'Y'

def koreanSyllable? (name : List Char) : Option Nat := do
  let letters ← afterStem? "HANGUL SYLLABLE ".toList name
  let beforeVowel := letters.takeWhile fun c => !isVowelLetter c
  let fromVowel := letters.dropWhile fun c => !isVowelLetter c
  let first ← initialLetters.idxOf? (String.ofList beforeVowel)
  let vowel ← vowelLetters.idxOf? (String.ofList (fromVowel.takeWhile isVowelLetter))
  let last ← finalLetters.idxOf? (String.ofList (fromVowel.dropWhile isVowelLetter))
  return 0xAC00 + (first * vowelLetters.length + vowel) * finalLetters.length + last

def find? (name : List Char) : Option Nat :=
  let capitals := name.map Char.toUpper
  (runs.findSome? fun part => part.findSome? (NameRun.find? · capitals)).orElse fun _ =>
    (aliased? capitals).orElse fun _ =>
      (codeNamed? capitals).orElse fun _ =>
        (unifiedIdeograph? name).orElse fun _ => koreanSyllable? name

end Destructure.Text.CharacterName
