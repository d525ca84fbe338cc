import Destructure.Condition.Describe
import Destructure.Proofs.Outcome
import Destructure.Proofs.Place
import Destructure.Proofs.Scope
import Destructure.Proofs.Visit
import Destructure.Proofs.Binding
import Destructure.Proofs.Match.Agreement
import Destructure.Proofs.Condition.Names
import Destructure.Proofs.Compile
import Destructure.Proofs.Compile.Refusal
import Destructure.Proofs.Conditional
import Destructure.Proofs.Template.Lift
import Destructure.Proofs.Template.Quotation
import Destructure.Proofs.Finding
import Destructure.Proofs.Pattern.WellFormed
import Destructure.Proofs.Mismatch
import Destructure.Proofs.Number.Binary64
import Destructure.Proofs.Number.Numeral
import Destructure.Proofs.Number.Render
import Destructure.Proofs.Pattern.Subpattern
import Destructure.Proofs.Pattern.Words
import Destructure.Proofs.Template.Words
import Destructure.Proofs.Pattern.Herald
import Destructure.Proofs.Pattern.Grammar
import Destructure.Proofs.Pattern.Language
import Destructure.Proofs.Pattern.Refusal
import Destructure.Proofs.Pattern.Reread
import Destructure.Proofs.Template.Herald
import Destructure.Proofs.Template.Alignment
import Destructure.Proofs.Template.When
import Destructure.Proofs.Condition.Quotes
import Destructure.Proofs.Template.Payload
import Destructure.Proofs.Pattern.Tally
import Destructure.Proofs.Description
import Destructure.Proofs.Condition.Language
import Destructure.Proofs.Template.Segments
import Destructure.Proofs.Template.PatternPart
import Destructure.Proofs.Pattern.Congruence
import Destructure.Proofs.Condition.Place
import Destructure.Proofs.Template.Split
import Destructure.Proofs.Template.Delimiter
import Destructure.Proofs.Template.Occurrence
import Destructure.Proofs.Template.Search
import Destructure.Proofs.Template.Place
import Destructure.Proofs.Separation
import Destructure.Proofs.Value.Equality
import Destructure.Proofs.Number.Exact
import Destructure.Proofs.Value.Rebinding
import Destructure.Proofs.Value.Confusion
import Destructure.Proofs.Condition.Literal
import Destructure.Proofs.Literal
import Destructure.Proofs.Clauses
import Destructure.Proofs.Fleet
import Destructure.Proofs.Session.WriteOnce
import Destructure.Proofs.Match.Bound
import Destructure.Proofs.Match.MisplacedTail
import Destructure.Proofs.Cache.Workers
import Destructure.Proofs.Condition.Description
import Destructure.Proofs.Condition.Slice
import Destructure.Proofs.Condition.Placed
import Destructure.Proofs.Pattern.Position
import Destructure.Proofs.Pattern.Placed
import Destructure.Proofs.Compile.Position
import Destructure.Proofs.Compile.Overrun
import Destructure.Proofs.Pattern.Variables
import Destructure.Proofs.Value.Extension
import Destructure.Proofs.Match.Monotone
import Destructure.Proofs.Match.EntryOrder
import Destructure.Proofs.Template.Repeat
import Destructure.Proofs.Pattern.Neighbour
import Destructure.Proofs.Pattern.Layout
import Destructure.Proofs.Compile.Layout
import Destructure.Proofs.Number.Order
import Destructure.Proofs.Value.Fault
import Destructure.Proofs.Condition.Comparison
import Destructure.Proofs.Condition.Lossless
import Destructure.Proofs.Pattern.Bracket
import Destructure.Proofs.Pattern.Unterminated
