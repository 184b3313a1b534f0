/-!
# The lines of a text

A line ends with its terminator, which belongs to it: a line feed, a carriage return, the two
together, a vertical tab, a form feed, or one of the separators of Unicode. What follows the last
terminator is a line if it is not empty; an empty text is one empty line.
-/

namespace Bitwise.Text

/-- Whether a character ends a line by itself. -/
def isTerminator (c : Char) : Bool :=
  ['\n', '\r', '\x0b', '\x0c', '\u0085', '\u2028', '\u2029'].contains c

/-- Cuts a text after each terminator. -/
def splitAfterTerminators : List Char → List (List Char)
  | [] => []
  | '\r' :: '\n' :: cs => ['\r', '\n'] :: splitAfterTerminators cs
  | c :: cs =>
    if isTerminator c then [c] :: splitAfterTerminators cs
    else
      match splitAfterTerminators cs with
      | [] => [[c]]
      | line :: lines => (c :: line) :: lines

/-- The lines of a text, at least one. -/
def lines (cs : List Char) : List (List Char) :=
  match splitAfterTerminators cs with
  | [] => [[]]
  | ls => ls

/-- A line in its text. -/
structure Line where
  /-- The number of lines before it. -/
  index : Nat
  /-- The number of characters before it. -/
  start : Nat
  /-- The characters of the line, its terminator included. -/
  chars : List Char

namespace Line

/-- The number of characters up to the end of the line. -/
def stop (line : Line) : Nat :=
  line.start + line.chars.length

end Line

/-- The last of the lines that starts at or before the offset, counted in characters, if the first
    of them has the given index and start. -/
def lineFrom (index start offset : Nat) : List (List Char) → Line
  | [] => ⟨index, start, []⟩
  | [chars] => ⟨index, start, chars⟩
  | chars :: next :: rest =>
    if start + chars.length ≤ offset then
      lineFrom (index + 1) (start + chars.length) offset (next :: rest)
    else ⟨index, start, chars⟩

/-- The line on which a character stands. An offset at or past the end is on the last line. -/
def lineAt (cs : List Char) (offset : Nat) : Line :=
  lineFrom 0 0 offset (lines cs)

end Bitwise.Text
