namespace Destructure

structure Report where
  message : String
  position : Option Int := none
  received : Option String := none
  expected : Option String := none
  context : Option String := none
  suggestion : Option String := none
  sample : Option String := none

namespace Report

def line (label : String) (content : Option String) : List String :=
  match content with
  | none => []
  | some text => if text = "" then [] else [label ++ ": " ++ text]

def text (r : Report) : String :=
  "\n".intercalate (["Error: " ++ r.message] ++
    line "Position" (r.position.map toString) ++
    line "Received" r.received ++
    line "Expected" r.expected ++
    line "Context" r.context ++
    line "Suggestion" r.suggestion ++
    line "Example" r.sample)

end Report

end Destructure
