import Destructure.Entries
import Destructure.Value

/-!
Equality of values. Conditions keep booleans and numbers apart and compare sequences element by
element, lists and tuples alike. What lies inside a mapping or an object is compared by content
instead: there a boolean counts as the number zero or one, and lists differ from tuples.

A comparison that has to read a store fails with the error of the first key that raises one.
-/

namespace Destructure.Value

def asNumber? : Value → Option Number
  | .number n => some n
  | .boolean b => some (.integer (if b then 1 else 0))
  | _ => none

def identical : Value → Value → Bool
  | .number (.float x), .number (.float y) => x.isNaN && x == y
  | .store a _ _ _, .store b _ _ _ => a.identity == b.identity
  | _, _ => false

def readFaults : List (Value × Fault) → Except Fault Unit
  | [] => .ok ()
  | (_, fault) :: _ =>
    if fault.kind = .other "StopIteration" then
      .error ⟨.other "RuntimeError", "generator raised StopIteration"⟩
    else .error fault

def findEntry (test : Value → Except Fault Bool) :
    List (Value × Value) → Except Fault (Option Value)
  | [] => .ok none
  | (key, value) :: rest => do if ← test key then return some value else findEntry test rest

mutual

def contentsEqual : Value → Value → Except Fault Bool
  | .null, .null => .ok true
  | .text a, .text b => .ok (a == b)
  | .list a, .list b => if a.length = b.length then itemsEqual a b else .ok false
  | .tuple a, .tuple b => if a.length = b.length then itemsEqual a b else .ok false
  | .mapping a, .mapping b => if a.length = b.length then entriesEqual a b else .ok false
  | .store _ a faults _, .mapping b => do
    readFaults faults
    if a.length = b.length then entriesEqual a b else .ok false
  | .mapping a, .store _ b faults _ => do
    readFaults faults
    if a.length = b.length then entriesEqual a b else .ok false
  | .store _ a faults _, .store _ b faults' _ => do
    readFaults faults
    readFaults faults'
    if a.length = b.length then entriesEqual a b else .ok false
  | .bytes a _, .bytes b _ => .ok (a == b)
  | .object ⟨name, _, .attributes⟩ a _ _, .object ⟨name', _, .attributes⟩ b _ _ =>
    if name = name' ∧ a.length = b.length then attributesEqual a b else .ok false
  | .object ⟨_, _, .own identity _⟩ _ _ _, .object ⟨_, _, .own identity' _⟩ _ _ _ =>
    .ok (identity == identity')
  | a, b => match asNumber? a, asNumber? b with
    | some m, some n => .ok (m.eq n)
    | _, _ => .ok (b.scalar?.any a.claims || a.scalar?.any b.claims)
termination_by structural a => a

def itemsEqual : List Value → List Value → Except Fault Bool
  | a :: as, b :: bs => do
    if identical a b then itemsEqual as bs
    else if ← contentsEqual a b then itemsEqual as bs
    else return false
  | _, _ => .ok true
termination_by structural a => a

def entriesEqual : List (Value × Value) → List (Value × Value) → Except Fault Bool
  | [], _ => .ok true
  | (key, value) :: rest, entries => do
    let test (other : Value) : Except Fault Bool :=
      if identical key other then .ok true else contentsEqual key other
    match ← findEntry test entries with
    | none => return false
    | some other =>
      if identical value other then entriesEqual rest entries
      else if ← contentsEqual value other then entriesEqual rest entries
      else return false
termination_by structural a => a

def attributesEqual : List (String × Value) → List (String × Value) → Except Fault Bool
  | [], _ => .ok true
  | (name, value) :: rest, attributes => do
    match attributes.lookup name with
    | none => return false
    | some other =>
      if identical value other then attributesEqual rest attributes
      else if ← contentsEqual value other then attributesEqual rest attributes
      else return false
termination_by structural a => a

end

mutual

def equal : Value → Value → Except Fault Bool
  | .list a, .list b | .list a, .tuple b | .tuple a, .list b | .tuple a, .tuple b =>
    if a.length = b.length then allEqual a b else .ok false
  | .list _, _ | .tuple _, _ | _, .list _ | _, .tuple _ => .ok false
  | .null, b => .ok (scalarsEqual .null b)
  | .boolean a, b => .ok (scalarsEqual (.boolean a) b)
  | .number a, b => .ok (scalarsEqual (.number a) b)
  | .text a, b => .ok (scalarsEqual (.text a) b)
  | a, b => contentsEqual a b

def allEqual : List Value → List Value → Except Fault Bool
  | a :: as, b :: bs => do if ← equal a b then allEqual as bs else return false
  | _, _ => .ok true

end

def sameKey (a b : Value) : Bool :=
  identical a b ||
    match contentsEqual a b with
    | .ok equal => equal
    | .error _ => false

def mappingOf (entries : List (Value × Value)) : Value :=
  .mapping (entries.foldl (fun done entry => setEntry entry.1.sameKey entry.1 entry.2 done) [])

end Destructure.Value
