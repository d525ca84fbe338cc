import Destructure.Condition
import Destructure.Text.Quoted

namespace Destructure

def Constant.describe : Constant → List Char
  | .number value => value.render
  | .text value => Text.quote value.toList
  | .boolean true => ['t', 'r', 'u', 'e']
  | .boolean false => ['f', 'a', 'l', 's', 'e']

namespace Expression

def describe : Expression → List Char
  | .constant value => value.describe
  | .variable name => name.toList
  | .negation operand => 'n' :: 'o' :: 't' :: ' ' :: operand.describe
  | .minus operand => '-' :: operand.describe
  | .binary operator left right =>
    '(' :: left.describe ++ ' ' :: operator.text.toList ++ ' ' :: right.describe ++ [')']

end Expression

end Destructure
