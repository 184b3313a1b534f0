import Bitwise.Session.Execution
import Bitwise.Session.Reader

/-!
# Sessions

A session reads lines and executes their commands, one after the other, until one of them leaves it
or the input ends. The environment lives as long as the session. Before every line, though not
before each of the parts that it is made of, the prompt is written.
-/

namespace Bitwise

/-- A session between two lines of its input. -/
structure Session where
  env : Environment
  /-- What has been read of a line that is not complete. -/
  buffer : List Char
  deriving DecidableEq

namespace Session

/-- The session in which nothing has happened. -/
def initial : Session :=
  ⟨∅, []⟩

/-- The text before every line. -/
def prompt : String := "bitcalc> "

/-- What is written when a session begins, with a note if there is no history to be loaded. -/
def greeting (historyMissing : Bool) : Output :=
  .print ("bitcalc v0.1.0\nType ':help' for help, 'exit' or Ctrl-D to quit.\n"
    ++ (if historyMissing then "No previous history.\n" else "") ++ prompt)

/-- What is written when the input ends. -/
def farewell : Output :=
  .print "\n"

/-- What is written when the input is no text. -/
def undecodable : Output :=
  .complain ("Readline Error: Io(Error \x7b kind: InvalidData, "
    ++ "message: \"stream did not contain valid UTF-8\" \x7d)\n")

/-- Executes a line. The session goes on, after another prompt, unless the line leaves it. -/
def executeLine (env : Environment) (line : List Char) : Output × Option Session :=
  let command := Command.parse (String.ofList line)
  if command = .exit then (.nothing, none)
  else
    match execute command env with
    | (output, env) => (output ++ .print prompt, some ⟨env, []⟩)

/-- Reads one line of the input, if it is a text: what is written, and the session after it. A line
    that is no text ends the session. -/
def feed (s : Session) : Option String → Output × Option Session
  | none => (undecodable, none)
  | some line =>
    match Reading.add s.buffer line.toList with
    | .line text => executeLine s.env text
    | .partway buffer => (.nothing, some { s with buffer })
    | .unmatched offset buffer =>
      (.complain (Balance.unmatchedMessage offset), some { s with buffer })

/-- All that a session writes, from the lines of its input on. -/
def run (s : Session) : List (Option String) → Output
  | [] => farewell
  | line :: lines =>
    match s.feed line with
    | (output, some s) => output ++ s.run lines
    | (output, none) => output

end Session

end Bitwise
