import Bitwise.Output
import Bitwise.Radix
import Bitwise.Report.Diagnostic
import Bitwise.Session.Command
import Bitwise.Session.Listing

/-!
# Executing commands

What a command writes, and the environment that it leaves behind. Only statements change it.
-/

namespace Bitwise.Session

/-- What a user who asks for help is told. -/
def helpText : String :=
  "\n".intercalate [
    "Enter an expression such as `(0xff00 | 0x0f) >> 4` or an assignment `a = 0b101`.",
    "Operators: & | ^ << >> and unary ~ (applied to a number literal).",
    "There is no precedence: operators apply left to right unless parenthesized.",
    "Commands:",
    "  :vars         list variables assigned in this session",
    "  :ast <expr>   show how an expression is grouped",
    "  :help         show this message",
    "  exit, quit    leave (or press Ctrl-D)"]

/-- What is written about a statement: its value, or the report on its error. -/
def answer (source : String) : EStateM.Result StatementError Environment Int64 → Output
  | .ok value _ => .printLine (render value)
  | .error reason _ => .complain ((reason.report source).render source)

/-- The environment after an evaluation. -/
def environmentAfter : EStateM.Result StatementError Environment Int64 → Environment
  | .ok _ env | .error _ env => env

/-- What a command writes, and the environment after it. -/
def execute (command : Command) (env : Environment) : Output × Environment :=
  match command with
  | .empty | .exit => (.nothing, env)
  | .help => (.printLine helpText, env)
  | .variables => (.printLine (listing env), env)
  | .tree source =>
    match parse source with
    | .ok tree => (.printLine (toString tree), env)
    | .error reason => (.complain ((reason.report source).render source), env)
  | .eval source =>
    let result := (evalText source).run env
    (answer source result, environmentAfter result)

end Bitwise.Session
