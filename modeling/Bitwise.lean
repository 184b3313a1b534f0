import Bitwise.Main
import Bitwise.Proofs.Lexeme
import Bitwise.Session.Completion
import Bitwise.Session.Highlight
import Bitwise.Proofs.Spelling
import Bitwise.Proofs.Grammar
import Bitwise.Proofs.Run
import Bitwise.Proofs.Nesting
import Bitwise.Proofs.Phrase
import Bitwise.Proofs.Acceptance
import Bitwise.Proofs.Prefix
import Bitwise.Proofs.Relocation
import Bitwise.Proofs.Parts
import Bitwise.Proofs.Printing
import Bitwise.Proofs.Evaluation
import Bitwise.Proofs.Events
import Bitwise.Proofs.Spacing
import Bitwise.Proofs.FailedLines
import Bitwise.Proofs.Height
import Bitwise.Proofs.Partition
import Bitwise.Proofs.DigitByDigit
import Bitwise.Proofs.Composition
import Bitwise.Proofs.Groups
import Bitwise.Proofs.Balance
import Bitwise.Proofs.Location
import Bitwise.Proofs.FewestParentheses
import Bitwise.Proofs.InputLines
import Bitwise.Proofs.Reading
import Bitwise.Proofs.Trimming
import Bitwise.Proofs.BrokenLines
import Bitwise.Proofs.Bindings
import Bitwise.Proofs.Independence
import Bitwise.Proofs.SessionNames
import Bitwise.Proofs.Trace
import Bitwise.Proofs.Silence
import Bitwise.Proofs.Transcript
import Bitwise.Proofs.Partners
import Bitwise.Proofs.Highlighting
import Bitwise.Proofs.ShownBalance
import Bitwise.Proofs.Conversion
import Bitwise.Proofs.Descent
import Bitwise.Proofs.Faults
import Bitwise.Proofs.ExpectedTokens
import Bitwise.Proofs.Literals
import Bitwise.Proofs.Visibility
import Bitwise.Proofs.WordArithmetic
import Bitwise.Proofs.ShownValues
import Bitwise.Proofs.SourceOrder
import Bitwise.Proofs.ListedBindings
import Bitwise.Proofs.WordAtCursor
import Bitwise.Proofs.Classification
import Bitwise.Proofs.SingleStatement
import Bitwise.Proofs.BitColumns
import Bitwise.Proofs.JoinedTexts
import Bitwise.Proofs.BufferedRun
