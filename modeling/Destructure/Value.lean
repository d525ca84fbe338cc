import Destructure.Number

namespace Destructure

inductive FaultKind
  | missingKey
  | missingAttribute
  | noMatch
  | invalidPattern
  | pattern
  | other (name : String)
  deriving DecidableEq

def FaultKind.name : FaultKind → String
  | .missingKey => "KeyError"
  | .missingAttribute => "AttributeError"
  | .noMatch => "PatMatchNoMatchError"
  | .invalidPattern => "PatMatchInvalidPatternError"
  | .pattern => "PatMatchError"
  | .other name => name

structure Fault where
  kind : FaultKind
  message : String
  deriving DecidableEq

inductive Scalar
  | null
  | boolean (b : Bool)
  | number (n : Number)
  | text (s : String)

inductive Writing
  | fixed (text : String)
  | around (opening closing : String)

inductive Likeness
  | attributes
  | own (identity : Nat) (equals : Scalar → Bool)

structure ObjectType where
  name : String
  writing : Writing
  likeness : Likeness

structure StoreType where
  name : String
  writing : Writing
  identity : Nat
  absence : Fault

inductive Value
  | null
  | boolean (b : Bool)
  | number (n : Number)
  | text (s : String)
  | list (items : List Value)
  | tuple (items : List Value)
  | mapping (entries : List (Value × Value))
  | store (type : StoreType) (entries : List (Value × Value)) (faults : List (Value × Fault))
      (fallback : Option Value)
  | bytes (content : List UInt8) (inherited : List (String × Value))
  | object (type : ObjectType) (attributes inherited : List (String × Value))
      (faults : List (String × Fault))

namespace Value

def int (n : Int) : Value :=
  .number (.integer n)

def isNumber : Value → Bool
  | .number _ => true
  | _ => false

def scalar? : Value → Option Scalar
  | .null => some .null
  | .boolean b => some (.boolean b)
  | .number n => some (.number n)
  | .text s => some (.text s)
  | _ => none

def isScalar : Value → Bool
  | .null | .boolean _ | .number _ | .text _ => true
  | _ => false

def text? : Value → Option String
  | .text s => some s
  | _ => none

def items? : Value → Option (List Value)
  | .list items | .tuple items => some items
  | _ => none

def isSequence (v : Value) : Bool :=
  v.items?.isSome

def isMapping : Value → Bool
  | .mapping _ | .store _ _ _ _ => true
  | _ => false

def claims : Value → Scalar → Bool
  | .object ⟨_, _, .own _ equals⟩ _ _ _, s => equals s
  | _, _ => false

def kindName : Value → String
  | .null => "null"
  | .boolean _ => "boolean"
  | .number _ => "number"
  | .text _ => "string"
  | .list _ | .tuple _ => "sequence"
  | .mapping _ | .store _ _ _ _ => "mapping"
  | .bytes _ _ => "bytes"
  | .object type _ _ _ => type.name

def typeName : Value → String
  | .null => "NoneType"
  | .boolean _ => "bool"
  | .number (.integer _) => "int"
  | .number (.float _) => "float"
  | .text _ => "str"
  | .list _ => "list"
  | .tuple _ => "tuple"
  | .mapping _ => "dict"
  | .store type _ _ _ => type.name
  | .bytes _ _ => "bytes"
  | .object type _ _ _ => type.name

def scalarsEqual : Value → Value → Bool
  | .null, .null => true
  | .boolean a, .boolean b => a == b
  | .number a, .number b => a.eq b
  | .text a, .text b => a == b
  | _, _ => false

end Value

end Destructure
