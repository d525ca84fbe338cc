namespace Destructure.Text

def inRanges (ranges : List (Nat × Nat)) (n : Nat) : Bool :=
  ranges.any fun r => r.1 ≤ n && n ≤ r.2

def isAsciiDigit (n : Nat) : Bool :=
  48 ≤ n && n ≤ 57

def isAsciiLetter (n : Nat) : Bool :=
  (97 ≤ n && n ≤ 122) || (65 ≤ n && n ≤ 90)

end Destructure.Text
