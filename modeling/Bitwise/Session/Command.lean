import Bitwise.Text.Trim

/-!
# Commands

A line of a session leaves it, asks for something about it, or is a statement to be evaluated.
Words after a colon that name no command are part of a statement.
-/

namespace Bitwise.Session

open Text (trim)
open Unicode (isBlank)

/-- What a line asks for. -/
inductive Command
  | empty
  | exit
  | help
  | variables
  /-- Show how a statement is grouped. -/
  | tree (source : String)
  | eval (source : String)
  deriving DecidableEq

namespace Command

/-- Whether a text is a word in some case. -/
def isWord (word : String) (cs : List Char) : Bool :=
  cs.map Char.toLower == word.toList

/-- The command of a line without blanks at its ends. -/
def ofTrimmed (cs : List Char) : Command :=
  if cs.isEmpty then .empty
  else if isWord "exit" cs || isWord "quit" cs then .exit
  else
    match cs with
    | [':', 'h', 'e', 'l', 'p'] => .help
    | [':', 'v', 'a', 'r', 's'] => .variables
    | [':', 'a', 's', 't'] => .tree ""
    | ':' :: 'a' :: 's' :: 't' :: c :: rest =>
      if isBlank c then .tree (String.ofList (trim rest)) else .eval (String.ofList cs)
    | _ => .eval (String.ofList cs)

/-- The command of a line. -/
def parse (line : String) : Command :=
  ofTrimmed (trim line.toList)

end Command

end Bitwise.Session
