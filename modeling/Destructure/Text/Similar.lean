namespace Destructure.Text

structure Block where
  first : Nat
  second : Nat
  length : Nat

def runLengths (c : Char) (usable : Char → Bool) : List Char → (previous : List Nat) → List Nat
  | [], _ => []
  | d :: rest, previous =>
    (if c = d ∧ usable c then previous.headD 0 + 1 else 0) ::
      runLengths c usable rest (previous.drop 1)

def improve (index : Nat) : (second : Nat) → List Nat → Block → Block
  | _, [], best => best
  | second, length :: rest, best =>
    improve index (second + 1) rest
      (if best.length < length then ⟨index + 1 - length, second + 1 - length, length⟩ else best)

def longestBlock (usable : Char → Bool) (b : List Char) :
    (index : Nat) → List Char → (previous : List Nat) → Block → Block
  | _, [], _, best => best
  | index, c :: rest, previous, best =>
    let lengths := runLengths c usable b previous
    longestBlock usable b (index + 1) rest (0 :: lengths) (improve index 0 lengths best)

def commonLength : List Char → List Char → Nat
  | c :: as, d :: bs => if c = d then commonLength as bs + 1 else 0
  | _, _ => 0

def extend (a b : List Char) (block : Block) : Block :=
  let before := commonLength (a.take block.first).reverse (b.take block.second).reverse
  let after := commonLength (a.drop (block.first + block.length))
    (b.drop (block.second + block.length))
  ⟨block.first - before, block.second - before, before + block.length + after⟩

def matchedLength (usable : Char → Bool) : (bound : Nat) → List Char → List Char → Nat
  | 0, _, _ => 0
  | bound + 1, a, b =>
    let block := extend a b (longestBlock usable b 0 a [] ⟨0, 0, 0⟩)
    if block.length = 0 then 0
    else
      block.length +
        matchedLength usable bound (a.take block.first) (b.take block.second) +
        matchedLength usable bound (a.drop (block.first + block.length))
          (b.drop (block.second + block.length))

def isUsable (b : List Char) (c : Char) : Bool :=
  b.length < 200 || b.count c ≤ b.length / 100 + 1

def similarity (word name : List Char) : Nat × Nat :=
  (2 * matchedLength (isUsable word) (name.length + 1) name word, name.length + word.length)

def ranksBefore (a b : (Nat × Nat) × String) : Bool :=
  let left := a.1.1 * b.1.2
  let right := b.1.1 * a.1.2
  if left = right then decide (b.2 ≤ a.2) else right < left

def similarNames (word : String) (names : List String) : List String :=
  let scored := names.map fun name => (similarity word.toList name.toList, name)
  let close := scored.filter fun (score, _) => 3 * score.2 ≤ 5 * score.1
  ((close.mergeSort ranksBefore).take 3).map (·.2)

end Destructure.Text
