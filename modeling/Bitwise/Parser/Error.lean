import Bitwise.Token

/-!
# Parse errors

The reasons why a text is no statement: it holds a piece that is no token, a token that cannot
stand where it stands, it ends too early, a number is out of range, or groups are nested too
deeply.
-/

namespace Bitwise

/-- The greatest number of groups that may be open at once. -/
def maxNesting : Nat := 256

/-- What can come next at a point of the text. -/
inductive Expected
  | statement
  | operand
  | number
  | operation
  | closeParen
  deriving DecidableEq

/-- The name of what is expected in messages. -/
def Expected.label : Expected → String
  | .statement => "assignment or expression"
  | .operand => "expression, number, identifier or unary"
  | .number => "NUMBER"
  | .operation => "OPERATION"
  | .closeParen => "RPAREN"

/-- Why a text cannot be parsed. -/
inductive ParseError
  /-- A piece of text is no token. -/
  | lexical (diagnostic : String) (span : Span)
  /-- A token cannot stand where it stands. -/
  | unexpectedToken (expected : Expected) (found : Token)
  /-- The text ends where something has to come. -/
  | unexpectedEnd (expected : Expected)
  /-- A literal stands for a number that is out of range. -/
  | numberTooLarge (text : String) (span : Span)
  /-- A parenthesis opens one group too many. -/
  | tooDeep (span : Span)
  deriving DecidableEq

namespace ParseError

/-- What is wrong with a literal that is out of range. -/
def outOfRange : String :=
  "number too large to fit in target type"

/-- The words for an error. -/
def message : ParseError → String
  | .lexical diagnostic span =>
    "lexical error at position " ++ toString span.start ++ ": " ++ diagnostic
  | .unexpectedToken expected found =>
    "expected " ++ expected.label ++ " but got " ++ toString found ++ " at position "
      ++ toString found.span.start
  | .unexpectedEnd expected => "premature end of input, expected " ++ expected.label
  | .numberTooLarge text _ =>
    "invalid number literal " ++ Text.quoted text ++ ": " ++ outOfRange
  | .tooDeep span =>
    "parentheses nested deeper than " ++ toString maxNesting ++ " at position "
      ++ toString span.start

/-- The messages of what an error comes from, the nearest first. -/
def causes : ParseError → List String
  | .lexical diagnostic _ => [diagnostic]
  | .numberTooLarge _ _ => [outOfRange]
  | _ => []

/-- Where an error is, unless it is at the end of the text. -/
def span? : ParseError → Option Span
  | .lexical _ span | .numberTooLarge _ span | .tooDeep span => some span
  | .unexpectedToken _ found => some found.span
  | .unexpectedEnd _ => none

end ParseError

end Bitwise
