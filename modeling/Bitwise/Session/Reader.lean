import Bitwise.Session.Balance
import Bitwise.Text.Offset
import Bitwise.Unicode.Grapheme

/-!
# Reading lines

The line that a session works on may span several lines of its input: as long as parentheses are
open, the next line of the input is added. Backspaces take effect, one grapheme each, and the line
end is taken off. Since the size of a grapheme is kept in a byte, a backspace after one of 256 bytes
and more takes away no more than its last characters.

A line with a parenthesis that closes nothing is never given up. It is kept, without its line end,
and the next line of the input is added to it; unless that holds backspaces, the result is as
wrong as before.
-/

namespace Bitwise.Session

open Text (byteLength dropBytes)
open Unicode (graphemes)

/-- What is left of a text, of which some graphemes have been read. -/
structure Remnant where
  /-- Its characters, the last one first. -/
  chars : List Char
  /-- The sizes in bytes of its graphemes, the last one first. A size is kept in a byte: of a
      grapheme of 256 bytes and more, only the remainder is known. -/
  sizes : List UInt8

namespace Remnant

/-- Nothing is left. -/
def empty : Remnant := ⟨[], []⟩

/-- One more grapheme stays. -/
def push (r : Remnant) (grapheme : List Char) : Remnant :=
  { chars := grapheme.reverse ++ r.chars
    sizes := .ofNat (byteLength grapheme) :: r.sizes }

/-- The last grapheme goes, as far as its size is known. -/
def backspace (r : Remnant) : Remnant :=
  match r.sizes with
  | [] => r
  | size :: sizes => { chars := dropBytes size.toNat r.chars, sizes }

/-- What is left after one more grapheme of the text. -/
def read (r : Remnant) (grapheme : List Char) : Remnant :=
  if grapheme = ['\x08'] then r.backspace else r.push grapheme

end Remnant

/-- The text without its graphemes that are followed by a backspace, one for each, and without the
    backspaces. Of a grapheme of 256 bytes and more, the beginning stays. -/
def applyBackspaces (cs : List Char) : List Char :=
  ((graphemes cs).foldl Remnant.read .empty).chars.reverse

/-- A text and the line end that it ends with: a line feed, and a carriage return before it. -/
def splitLineEnd (cs : List Char) : List Char × List Char :=
  match cs.reverse with
  | '\n' :: '\r' :: rest => (rest.reverse, ['\r', '\n'])
  | '\n' :: rest => (rest.reverse, ['\n'])
  | _ => (cs, [])

/-- What has come of the input so far. -/
inductive Reading
  /-- A line is complete. -/
  | line (text : List Char)
  /-- A line is incomplete. -/
  | partway (buffer : List Char)
  /-- A line cannot become complete as it stands. -/
  | unmatched (offset : Nat) (buffer : List Char)
  deriving DecidableEq

/-- Adds a line of the input to what has been kept of the lines before it. -/
def Reading.add (buffer line : List Char) : Reading :=
  match splitLineEnd (buffer ++ line) with
  | (text, lineEnd) =>
    let text := applyBackspaces text
    match Balance.ofLine text with
    | .balanced => .line text
    | .incomplete => .partway (text ++ lineEnd)
    | .unmatched offset => .unmatched offset text

end Bitwise.Session
