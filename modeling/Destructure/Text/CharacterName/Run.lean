namespace Destructure.Text.CharacterName

structure NameRun where
  first : Nat
  stem : String
  endings : List String

def separate : List Char → List (List Char)
  | [] => [[]]
  | c :: rest =>
    match separate rest with
    | [] => [[c]]
    | part :: others => if c = ',' then [] :: part :: others else (c :: part) :: others

def NameRun.allEndings (run : NameRun) : List (List Char) :=
  run.endings.flatMap fun row => separate row.toList

def NameRun.find? (run : NameRun) (name : List Char) : Option Nat :=
  let stem := run.stem.toList
  if stem.isPrefixOf name then
    (run.allEndings.idxOf? (name.drop stem.length)).map (run.first + ·)
  else none

end Destructure.Text.CharacterName
