import Descent.Conversion
import Descent.Cursor
import Descent.Decimal
import Descent.Document
import Descent.Enumeration
import Descent.Error.Basic
import Descent.Error.Constructed
import Descent.Error.Expectation
import Descent.Error.Report
import Descent.Grammar.Basic
import Descent.Grammar.Canonical
import Descent.Grammar.Meaning
import Descent.Grammar.Standard
import Descent.Literal
import Descent.Locale
import Descent.Nesting
import Descent.Parser.Basic
import Descent.Parser.Combinators
import Descent.Parser.Repetition
import Descent.Parser.Terminal
import Descent.Proofs.Accounting
import Descent.Proofs.Bracketing
import Descent.Proofs.Choice
import Descent.Proofs.Closure
import Descent.Proofs.Collecting
import Descent.Proofs.Composition
import Descent.Proofs.Demand
import Descent.Proofs.Enumerations
import Descent.Proofs.Excerpts
import Descent.Proofs.Forward
import Descent.Proofs.Integers
import Descent.Proofs.Json.Decoding
import Descent.Proofs.Json.Documents
import Descent.Proofs.Json.Grammar
import Descent.Proofs.Json.Reader
import Descent.Proofs.Json.Scalars
import Descent.Proofs.Limit
import Descent.Proofs.LineBreaks
import Descent.Proofs.LocaleNumerals
import Descent.Proofs.Locality
import Descent.Proofs.Lossless
import Descent.Proofs.NestedLists
import Descent.Proofs.Observation
import Descent.Proofs.Outline
import Descent.Proofs.Parentheses
import Descent.Proofs.Pieces
import Descent.Proofs.Places
import Descent.Proofs.Primitives
import Descent.Proofs.Reading
import Descent.Proofs.Restoration
import Descent.Proofs.Scanning
import Descent.Proofs.Sequencing
import Descent.Proofs.Simulation
import Descent.Proofs.SingleLine
import Descent.Proofs.Stepping
import Descent.Proofs.Termination
import Descent.Proofs.UniqueForms
import Descent.Stop
import Descent.Text.Alphabet
import Descent.Text.Indent
import Descent.Text.Printable
import Descent.Text.Quoted
import Descent.Trace
import Descent.Value.Arithmetic
import Descent.Value.Basic
import Descent.Value.Transform
