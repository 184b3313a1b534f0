import Bitwise.Evaluation
import Bitwise.Parser

/-!
# Statements as texts

What a user types is parsed and then evaluated. Either step can fail; a text that cannot be parsed
assigns nothing.
-/

namespace Bitwise

/-- Why a text has no value. -/
inductive StatementError
  | parse (reason : ParseError)
  | eval (reason : UndefinedVariable)
  deriving DecidableEq

namespace StatementError

/-- The words for an error. -/
def message : StatementError → String
  | .parse reason => "parse error: " ++ reason.message
  | .eval reason => "evaluation error: " ++ reason.message

/-- The messages of what an error comes from, the nearest first. -/
def causes : StatementError → List String
  | .parse reason => reason.message :: reason.causes
  | .eval reason => [reason.message]

end StatementError

/-- The value of a text. The environment is the one that its assignments leave behind. -/
def evalText (source : String) : EStateM StatementError Environment Int64 := fun env =>
  match parse source with
  | .error reason => .error (.parse reason) env
  | .ok tree =>
    match (Node.eval tree).run env with
    | .ok value env => .ok value env
    | .error reason env => .error (.eval reason) env

end Bitwise
