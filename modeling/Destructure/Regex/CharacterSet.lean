import Destructure.Regex.Escape

namespace Destructure.Regex

open Reader

def readSetMember : Piece → Reader SetItem
  | .escaped c => readSetEscape c
  | .plain c => return .one c.toNat
  | .dangling => return .one 92

def readSetItems (start : Nat) : Nat → List SetItem → Reader (List SetItem)
  | 0, items => return items
  | bound + 1, items => do
    let unterminated : Reader (List SetItem) := do
      fail "unterminated character set".toList ((← position) - start)
    match ← take with
    | none => unterminated
    | some first =>
      if first = .plain ']' ∧ items ≠ [] then return items
      let low ← readSetMember first
      if ← accept '-' then
        match ← take with
        | none => unterminated
        | some second =>
          if second = .plain ']' then return .one 45 :: low :: items
          let high ← readSetMember second
          let bad : Reader (List SetItem) :=
            fail ("bad character range ".toList ++ first.text ++ '-' :: second.text)
              (first.text.length + 1 + second.text.length)
          match low, high with
          | .one a, .one b =>
            if b < a then bad else readSetItems start bound (.range a b :: items)
          | _, _ => bad
      else readSetItems start bound (low :: items)

def readSet : Reader Node := do
  let start := (← position) - 1
  let negated ← accept '^'
  let items := withoutRepeats (← readSetItems start ((← get).rest.length + 1) []).reverse
  match items with
  | [.one code] => return if negated then .notLiteral code else .literal code
  | _ => return .set negated items

end Destructure.Regex
