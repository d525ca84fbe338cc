import Destructure.Text.Wide
import Destructure.Value

namespace Destructure

inductive Argument
  | text (t : WideText)
  | other (v : Value) (notText : v.text? = none)

def Argument.ofValue (v : Value) : Argument :=
  match h : v.text? with
  | some s => .text s
  | none => .other v h

end Destructure
