import Destructure.Regex.CharacterSet
import Destructure.Regex.Choice
import Destructure.Regex.Group
import Destructure.Regex.Repetition

namespace Destructure.Regex

open Reader

def verboseInside (verbose : Bool) (on off : List Flag) : Bool :=
  (verbose || on.contains .verbose) && !off.contains .verbose

mutual

def readAlternatives : Nat → (top verbose : Bool) → List (List Node) → Reader (List (List Node))
  | 0, _, _, done => return done
  | depth + 1, top, verbose, done => do
    let body ← readSequence depth (top && done.isEmpty) verbose []
    if ← accept '|' then
      let flags := (← get).flags
      readAlternatives depth top (if top then flags.contains .verbose else verbose) (body :: done)
    else return body :: done

def readSequence : Nat → (first verbose : Bool) → List Node → Reader (List Node)
  | 0, _, _, done => return unpack done.reverse
  | depth + 1, first, verbose, done => do
    let start ← position
    match ← peek with
    | none => return unpack done.reverse
    | some piece =>
      if piece = .plain '|' ∨ piece = .plain ')' then return unpack done.reverse
      let _ ← take
      match piece with
      | .dangling => readSequence depth first verbose done
      | .escaped c =>
        let node ← readEscape c
        readSequence depth first verbose (node :: done)
      | .plain c =>
        if verbose && (c = ' ' || c = '\t' || c = '\n' || c = '\r' || c = '\x0b' || c = '\x0c') then
          readSequence depth first verbose done
        else if verbose && c = '#' then
          skipLine ((← get).rest.length + 1)
          readSequence depth first verbose done
        else if c = '[' then
          let node ← readSet
          readSequence depth first verbose (node :: done)
        else if c = '*' || c = '+' || c = '?' || c = '\x7b' then
          match ← readRepetition c with
          | none => readSequence depth first verbose (.literal c.toNat :: done)
          | some times =>
            let done ← repeatLast start times done
            readSequence depth first verbose done
        else if c = '.' then readSequence depth first verbose (.any :: done)
        else if c = '^' then readSequence depth first verbose (.anchor .beginning :: done)
        else if c = '$' then readSequence depth first verbose (.anchor .ending :: done)
        else if c = '(' then
          match ← readOpening with
          | .globalFlags =>
            if !first || !done.isEmpty then
              fail "global flags not at the start of the expression".toList
                ((← position) - start)
            readSequence depth first ((← get).flags.contains .verbose) done
          | .comment =>
            skipComment start ((← get).rest.length + 1)
            readSequence depth first verbose done
          | .reference =>
            let node ← readNamedReference
            readSequence depth first verbose (node :: done)
          | opening =>
            let node ← readGroup depth start verbose opening
            readSequence depth first verbose (node :: done)
        else readSequence depth first verbose (.literal c.toNat :: done)

def readGroup : Nat → (start : Nat) → (verbose : Bool) → Opening → Reader Node
  | 0, _, _, _ => return .any
  | depth + 1, start, verbose, opening => do
    match opening with
    | .capture name =>
      let group ← openGroup name
      let body := choiceOf (← readAlternatives depth false verbose []).reverse
      closeParenthesis start
      closeGroup group body
      return .capture group body
    | .plain on off =>
      let body := choiceOf
        (← readAlternatives depth false (verboseInside verbose on off) []).reverse
      closeParenthesis start
      return .scoped on off body
    | .look behind negated =>
      let outer := (← get).lookbehind
      if behind && outer.isNone then
        let count ← groupCount
        modify fun progress => { progress with lookbehind := some count }
      let body := choiceOf (← readAlternatives depth false verbose []).reverse
      if behind && outer.isNone then
        modify fun progress => { progress with lookbehind := none }
      closeParenthesis start
      return .look behind negated body
    | .conditional =>
      let group ← readCondition
      let yes ← readSequence depth false verbose []
      let no ←
        if ← accept '|' then
          let no ← readSequence depth false verbose []
          if (← peek) == some (.plain '|') then
            fail "conditional backref with more than two branches".toList 0
          pure (some no)
        else pure none
      closeParenthesis start
      return .conditional group yes no
    | _ =>
      let body := choiceOf (← readAlternatives depth false verbose []).reverse
      closeParenthesis start
      return .atomic body

end

structure Expression where
  nodes : List Node
  flags : List Flag
  widths : List Width

def readAll : Reader Expression := do
  goTo (← get).rest
  let depth := 4 * (← get).rest.length + 4
  let nodes := choiceOf (← readAlternatives depth true false []).reverse
  let flags := (← get).flags
  if flags.contains .ascii && flags.contains .unicode then throw .incompatibleFlags
  if (← peek).isSome then fail "unbalanced parenthesis".toList 0
  let progress ← get
  match progress.conditions.find? fun entry => progress.widths.length < entry.1 with
  | some (group, at') =>
    throw (.malformed ("invalid group reference " ++ toString group) (some at'))
  | none =>
    return ⟨nodes, if flags.contains .ascii then flags else .unicode :: flags,
      progress.widths.map fun width => width.getD ⟨0, 0⟩⟩

def read (source : List Char) (flags : List Flag) : Except Problem Expression :=
  (readAll.run ⟨Piece.cut 0 source, source.length, flags, [], [], none, []⟩).map (·.1)

end Destructure.Regex
