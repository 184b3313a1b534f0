import Bitwise.Environment
import Bitwise.Text.Offset
import Bitwise.Unicode.Alphanumeric

/-!
# Completion

The names that can complete the word before the cursor: the bound names that begin with it. The
cursor is given by its byte offset in the line, which has to be a place between two characters.
-/

namespace Bitwise.Session

open Text (byteLength cutAt?)
open Unicode (isAlphanumeric)

/-- Whether a character belongs to a word. -/
def isWordChar (c : Char) : Bool :=
  isAlphanumeric c || c == '_'

/-- The word that a text ends with. -/
def lastWord (cs : List Char) : List Char :=
  (cs.reverse.takeWhile isWordChar).reverse

/-- Where the word before the cursor begins, if the cursor is at a place in the line. -/
def wordStart? (line : String) (cursor : Nat) : Option Nat :=
  (cutAt? line.toList cursor).map fun (before, _) => cursor - byteLength (lastWord before)

/-- Where the word before the cursor begins, and the bound names that begin with it. An empty word
    is not completed. -/
def complete? (env : Environment) (line : String) (cursor : Nat) : Option (Nat × List String) :=
  (cutAt? line.toList cursor).map fun (before, _) =>
    let word := lastWord before
    if word.isEmpty then (cursor, [])
    else (cursor - byteLength word, env.names.filter fun name => word.isPrefixOf name.toList)

end Bitwise.Session
