import Bitwise.Program
import Bitwise.Session.Input

/-!
# The entry point

Reads the arguments and standard input, line by line, and writes what the program answers.
-/

namespace Bitwise

/-- Writes an output. -/
def Output.write (output : Output) : IO Unit := do
  (← IO.getStdout).putStr output.stdout
  (← IO.getStdout).flush
  (← IO.getStderr).putStr output.stderr
  (← IO.getStderr).flush

/-- The bytes of the next line of an input, up to a line feed or the end. -/
partial def readLineBytes (input : IO.FS.Stream) (line : ByteArray) : IO ByteArray := do
  let byte ← input.read 1
  if byte.isEmpty then return line
  else if byte[0]? = some 10 then return line ++ byte
  else readLineBytes input (line ++ byte)

/-- Runs a session on an input. -/
partial def Session.interact (s : Session) (input : IO.FS.Stream) : IO Unit := do
  let line ← readLineBytes input .empty
  if line.isEmpty then Session.farewell.write
  else
    match s.feed (Session.decode line.toList) with
    | (output, next) =>
      output.write
      match next with
      | some s => s.interact input
      | none => return

/-- Whether a file can be read. -/
def canRead (name : String) : IO Bool := do
  try
    let _ ← IO.FS.readFile name
    return true
  catch _ => return false

/-- The program. -/
def Program.main (args : List String) : IO UInt32 := do
  match plan (.parse args) with
  | .exit status output =>
    output.write
    return status
  | .session history =>
    let historyMissing ←
      match history with
      | none => pure false
      | some name => pure !(← canRead name)
    (Session.greeting historyMissing).write
    Session.initial.interact (← IO.getStdin)
    return 0

end Bitwise

/-- Runs the program on its arguments. -/
def main (args : List String) : IO UInt32 :=
  Bitwise.Program.main args
