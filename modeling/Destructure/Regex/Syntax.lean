namespace Destructure.Regex

inductive Flag
  | ignoreCase
  | multiline
  | dotAll
  | verbose
  | ascii
  | unicode
  | locale
  | template
  deriving DecidableEq

inductive Category
  | digit
  | space
  | word
  deriving DecidableEq

inductive SetItem
  | one (code : Nat)
  | range (low high : Nat)
  | category (kind : Category) (negated : Bool)
  deriving DecidableEq

def withoutRepeats (items : List SetItem) : List SetItem :=
  (items.foldl (fun kept item => if kept.contains item then kept else item :: kept) []).reverse

inductive Anchor
  | beginning
  | textStart
  | ending
  | textEnd
  | boundary (negated : Bool)
  deriving DecidableEq

inductive Eagerness
  | greedy
  | lazy
  | possessive
  deriving DecidableEq

inductive Node
  | literal (code : Nat)
  | notLiteral (code : Nat)
  | any
  | set (negated : Bool) (items : List SetItem)
  | anchor (place : Anchor)
  | choice (alternatives : List (List Node))
  | capture (group : Nat) (body : List Node)
  | scoped (on off : List Flag) (body : List Node)
  | loop (eagerness : Eagerness) (least : Nat) (most : Option Nat) (body : List Node)
  | look (behind negated : Bool) (body : List Node)
  | reference (group : Nat)
  | conditional (group : Nat) (yes : List Node) (no : Option (List Node))
  | atomic (body : List Node)

structure Width where
  least : Nat
  greatest : Nat
  deriving DecidableEq

namespace Width

def bound : Nat := 18446744073709551616

def add (a b : Width) : Width :=
  ⟨a.least + b.least, a.greatest + b.greatest⟩

def union (a b : Width) : Width :=
  ⟨min a.least b.least, max a.greatest b.greatest⟩

def cut (a : Width) : Width :=
  ⟨min a.least bound, min a.greatest bound⟩

def times (a : Width) (least : Nat) (most : Option Nat) : Width :=
  ⟨a.least * least,
    match most with
    | some n => a.greatest * n
    | none => if a.greatest = 0 then 0 else bound⟩

end Width

mutual

def Node.width (groups : Nat → Width) : Node → Width
  | .literal _ | .notLiteral _ | .any | .set _ _ => ⟨1, 1⟩
  | .anchor _ | .look _ _ _ => ⟨0, 0⟩
  | .choice alternatives => widthOfChoice groups alternatives
  | .capture _ body | .scoped _ _ body | .atomic body => (widthOfAll groups body).cut
  | .loop _ least most body => (widthOfAll groups body).cut.times least most
  | .reference group => groups group
  | .conditional _ yes none => ⟨0, (widthOfAll groups yes).cut.greatest⟩
  | .conditional _ yes (some no) =>
    (widthOfAll groups yes).cut.union (widthOfAll groups no).cut

def widthOfAll (groups : Nat → Width) : List Node → Width
  | [] => ⟨0, 0⟩
  | node :: rest => (node.width groups).add (widthOfAll groups rest)

def widthOfChoice (groups : Nat → Width) : List (List Node) → Width
  | [] => ⟨Width.bound, 0⟩
  | body :: rest => (widthOfAll groups body).cut.union (widthOfChoice groups rest)

end

inductive Problem
  | malformed (message : String) (position : Option Nat)
  | repetitionTooLarge
  | numeralTooLong (digits : Nat)
  | incompatibleFlags
  | lookbehindTooLong
  deriving DecidableEq

def describeProblem (source : List Char) (message : String) : Option Nat → String
  | none => message
  | some position =>
    let text := message ++ " at position " ++ toString position
    if source.contains '\n' then
      let before := source.take position
      let line := before.count '\n' + 1
      let column := (before.reverse.takeWhile (· != '\n')).length + 1
      text ++ " (line " ++ toString line ++ ", column " ++ toString column ++ ")"
    else text

end Destructure.Regex
