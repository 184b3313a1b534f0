import Bitwise.CommandLine
import Bitwise.Session.Loop

/-!
# The program

The program evaluates the statement that its options give and exits, or runs a session on standard
input. A blank statement counts as none.
-/

namespace Bitwise.Program

/-- The file of the history if the options do not name one. -/
def defaultHistory : String := ".bitcalc_history"

/-- The answer to a request for the version. -/
def versionText : String := "bitcalc 0.1.0\n"

/-- The answer to a request for help. -/
def helpText : String :=
  String.join [
    "Calculator for bitwise expressions over 64-bit signed integers\n\n",
    "Usage: bitcalc [OPTIONS]\n\n",
    "Options:\n",
    "  -c, --cmd <CMD>          ",
    "Evaluate a single expression and exit instead of starting the REPL\n",
    "      --history <HISTORY>  ",
    "File the REPL loads its history from and saves it to [default: .bitcalc_history]\n",
    "      --no-history         Neither load nor save REPL history\n",
    "  -h, --help               Print help\n",
    "  -V, --version            Print version\n"]

/-- The answer to wrong arguments. -/
def usageText : String :=
  "error: invalid arguments\n\nUsage: bitcalc [OPTIONS]\n\nFor more information, try '--help'.\n"

/-- What the arguments make the program do. -/
inductive Plan
  /-- Write something and exit. -/
  | exit (status : UInt32) (output : Output)
  /-- Run a session, with the history of a file if one is given. -/
  | session (history : Option String)
  deriving DecidableEq

/-- The answer to a single statement: the status tells whether it has a value. -/
def evaluate (source : String) : Plan :=
  let result := (evalText source).run ∅
  .exit (match result with | .ok _ _ => 0 | .error _ _ => 1) (Session.answer source result)

/-- What a request makes the program do. -/
def plan : Request → Plan
  | .help => .exit 0 (.print helpText)
  | .version => .exit 0 (.print versionText)
  | .misuse => .exit 2 (.complain usageText)
  | .run options =>
    let statement := Text.trim (options.statement.getD "").toList
    if statement.isEmpty then
      .session (if options.noHistory then none else some (options.history.getD defaultHistory))
    else evaluate (String.ofList statement)

/-- The status and the output of the program, from its arguments, the files that hold a history, and
    the lines of its input. -/
def run (args : List String) (hasHistory : String → Bool) (input : List (Option String)) :
    UInt32 × Output :=
  match plan (.parse args) with
  | .exit status output => (status, output)
  | .session history =>
    (0, Session.greeting (history.any (!hasHistory ·)) ++ Session.initial.run input)

end Bitwise.Program
