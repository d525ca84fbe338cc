/-!
Matching by backtracking.

A plan is an expression whose flags have been worked in: every test of a character and every test of
a place is a function. Running a plan from a cursor means finding the first way through it after
which the rest of the match, given as a continuation, succeeds. What a group has captured is kept in
the cursor, so giving up a way also gives up its captures. The begin and the end of a group are kept
apart, because in a repeated group a new begin may stand beside an old end.
-/

namespace Destructure.Regex

structure Cursor where
  index : Nat
  before : List Char
  after : List Char
  begins : List (Nat × Nat)
  ends : List (Nat × Nat)

namespace Cursor

def start (text : List Char) : Cursor :=
  ⟨0, [], text, [], []⟩

def forward (c : Cursor) : Cursor :=
  match c.after with
  | [] => c
  | x :: rest => { c with index := c.index + 1, before := x :: c.before, after := rest }

def back? : Nat → Cursor → Option Cursor
  | 0, c => some c
  | n + 1, c =>
    match c.before with
    | [] => none
    | x :: rest => back? n { c with index := c.index - 1, before := rest, after := x :: c.after }

def beginGroup (group : Nat) (c : Cursor) : Cursor :=
  { c with begins := (group, c.index) :: c.begins }

def endGroup (group : Nat) (c : Cursor) : Cursor :=
  { c with ends := (group, c.index) :: c.ends }

def withCaptures (c other : Cursor) : Cursor :=
  { c with begins := other.begins, ends := other.ends }

def captured? (c : Cursor) (group : Nat) : Option (List Char) :=
  match c.begins.lookup group, c.ends.lookup group with
  | some first, some last =>
    if first ≤ last then some (((c.before.reverse ++ c.after).take last).drop first) else none
  | _, _ => none

end Cursor

inductive Progression
  | greedy
  | lazy
  | possessive

inductive Plan
  | char (test : Nat → Bool)
  | place (test : Cursor → Bool)
  | choice (alternatives : List (List Plan))
  | capture (group : Nat) (body : List Plan)
  | loop (progression : Progression) (least : Nat) (most : Option Nat) (body : List Plan)
  | look (back : Nat) (negated : Bool) (body : List Plan)
  | reference (group : Nat) (same : Nat → Nat → Bool)
  | conditional (group : Nat) (yes no : List Plan)
  | atomic (body : List Plan)

mutual

def Plan.reach : Plan → Nat
  | .char _ | .place _ | .reference _ _ => 0
  | .choice alternatives => reachOfChoice alternatives
  | .capture _ body | .loop _ _ _ body | .atomic body => reachOfAll body
  | .look back _ body => max back (reachOfAll body)
  | .conditional _ yes no => max (reachOfAll yes) (reachOfAll no)

def reachOfAll : List Plan → Nat
  | [] => 0
  | plan :: rest => max plan.reach (reachOfAll rest)

def reachOfChoice : List (List Plan) → Nat
  | [] => 0
  | body :: rest => max (reachOfAll body) (reachOfChoice rest)

end

abbrev Continuation := Cursor → Option Cursor

def mayRepeat (most : Option Nat) (count : Nat) : Bool :=
  match most with
  | some n => count < n
  | none => true

def repeatGreedy (body : Continuation → Continuation) (least : Nat) (most : Option Nat)
    (next : Continuation) : (bound count : Nat) → (last : Option Nat) → Continuation
  | 0, _, _, _ => none
  | bound + 1, count, last, c =>
    if count < least then body (repeatGreedy body least most next bound (count + 1) last) c
    else if mayRepeat most count && last != some c.index then
      match body (repeatGreedy body least most next bound (count + 1) (some c.index)) c with
      | some found => some found
      | none => next c
    else next c

def repeatLazily (body : Continuation → Continuation) (least : Nat) (most : Option Nat)
    (next : Continuation) : (bound count : Nat) → (last : Option Nat) → Continuation
  | 0, _, _, _ => none
  | bound + 1, count, last, c =>
    if count < least then body (repeatLazily body least most next bound (count + 1) last) c
    else
      match next c with
      | some found => some found
      | none =>
        if mayRepeat most count && last != some c.index then
          body (repeatLazily body least most next bound (count + 1) (some c.index)) c
        else none

def repeatForGood (body : Continuation → Continuation) (least : Nat) (most : Option Nat) :
    (bound count : Nat) → (last : Option Nat) → Continuation
  | 0, _, _, _ => none
  | bound + 1, count, last, c =>
    if count < least then
      match body some c with
      | some found => repeatForGood body least most bound (count + 1) last found
      | none => none
    else if mayRepeat most count && last != some c.index then
      match body some c with
      | some found => repeatForGood body least most bound (count + 1) (some c.index) found
      | none => some c
    else some c

def repetitionLimit (least : Nat) (c : Cursor) : Nat :=
  least + c.after.length + 2

def followCaptured (same : Nat → Nat → Bool) : List Char → Cursor → Option Cursor
  | [], c => some c
  | x :: rest, c =>
    match c.after with
    | y :: _ => if same x.toNat y.toNat then followCaptured same rest c.forward else none
    | [] => none

mutual

def Plan.run : Plan → Continuation → Continuation
  | .char test, next, c =>
    match c.after with
    | x :: _ => if test x.toNat then next c.forward else none
    | [] => none
  | .place test, next, c => if test c then next c else none
  | .choice alternatives, next, c => runAny alternatives next c
  | .capture group body, next, c =>
    runAll body (fun d => next (d.endGroup group)) (c.beginGroup group)
  | .loop .greedy least most body, next, c =>
    repeatGreedy (fun k d => runAll body k d) least most next (repetitionLimit least c) 0 none c
  | .loop .lazy least most body, next, c =>
    repeatLazily (fun k d => runAll body k d) least most next (repetitionLimit least c) 0 none c
  | .loop .possessive least most body, next, c =>
    match
      repeatForGood (fun k d => runAll body k d) least most (repetitionLimit least c) 0 none c with
    | some found => next found
    | none => none
  | .look back negated body, next, c =>
    match (c.back? back).bind fun d => runAll body some d with
    | some found => if negated then none else next (c.withCaptures found)
    | none => if negated then next c else none
  | .reference group same, next, c =>
    match (c.captured? group).bind fun text => followCaptured same text c with
    | some found => next found
    | none => none
  | .conditional group yes no, next, c =>
    if (c.captured? group).isSome then runAll yes next c else runAll no next c
  | .atomic body, next, c =>
    match runAll body some c with
    | some found => next found
    | none => none

def runAll : List Plan → Continuation → Continuation
  | [], next, c => next c
  | plan :: rest, next, c => plan.run (fun d => runAll rest next d) c

def runAny : List (List Plan) → Continuation → Continuation
  | [], _, _ => none
  | body :: rest, next, c =>
    match runAll body next c with
    | some found => some found
    | none => runAny rest next c

end

def runWhole (plan : List Plan) (text : List Char) : Option Cursor :=
  runAll plan (fun c => if c.after = [] then some c else none) (.start text)

end Destructure.Regex
