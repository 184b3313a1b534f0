import Bitwise.Text.Offset

/-!
# Highlighting

While a line is edited, the two parentheses of the pair before the cursor are shown in blue, and
parentheses without a partner in red.

The text is written from left to right. The colour of an opening parenthesis is not known before
its partner is met, or the end of the line. So it is written plain at first, and kept on a stack
with the places where it stands in the line and in the text. As soon as its colour is known, it is
replaced there, and all that has been written after it moves.
-/

namespace Bitwise.Session

open Text (byteLength replaceByte?)

/-- How a parenthesis is shown. -/
inductive Colour
  | plain
  | blue
  | red
  deriving DecidableEq

/-- A character in a colour, for a terminal. -/
def Colour.paint (c : Char) : Colour → List Char
  | .plain => [c]
  | .blue => "\x1b[1;34m".toList ++ [c] ++ "\x1b[0m".toList
  | .red => "\x1b[31m".toList ++ [c] ++ "\x1b[0m".toList

/-- An opening parenthesis whose partner has not been met. -/
structure OpenParen where
  /-- Where it stands in the line. -/
  place : Nat
  /-- Where it stands in the text that has been written. -/
  written : Nat

/-- What a highlighter has made of the beginning of a line. -/
structure Highlighter where
  /-- The parentheses whose partner has not been met, the last first. -/
  opened : List OpenParen
  /-- The text that has been written. -/
  text : List Char

namespace Highlighter

/-- The highlighter that has written nothing. -/
def initial : Highlighter :=
  ⟨[], []⟩

/-- Writes the closing parenthesis that stands at an offset of the line. If it or its partner is
    the one before the cursor, both are in blue. -/
def close (cursor : Option Nat) (h : Highlighter) (offset : Nat) : Option Highlighter :=
  match h.opened with
  | [] => some ⟨[], h.text ++ Colour.red.paint ')'⟩
  | paren :: opened =>
    if cursor = some offset ∨ cursor = some paren.place then
      (replaceByte? (h.text ++ Colour.blue.paint ')') paren.written (Colour.blue.paint '(')).map
        fun text => ⟨opened, text⟩
    else some ⟨opened, h.text ++ [')']⟩

/-- Writes the character that stands at an offset of the line. -/
def write (cursor : Option Nat) (h : Highlighter) (offset : Nat) (c : Char) : Option Highlighter :=
  if c = '(' then some ⟨⟨offset, byteLength h.text⟩ :: h.opened, h.text ++ [c]⟩
  else if c = ')' then h.close cursor offset
  else some ⟨h.opened, h.text ++ [c]⟩

/-- Writes the characters that stand at an offset of the line. -/
def writeAll (cursor : Option Nat) (h : Highlighter) (offset : Nat) :
    List Char → Option Highlighter
  | [] => some h
  | c :: cs => (h.write cursor offset c).bind fun h' => h'.writeAll cursor (offset + c.utf8Size) cs

/-- Replaces the parentheses that have no partner. The last comes first, so that the places of the
    others stay what they are. -/
def redden : List OpenParen → List Char → Option (List Char)
  | [], text => some text
  | paren :: opened, text =>
    (replaceByte? text paren.written (Colour.red.paint '(')).bind (redden opened)

end Highlighter

/-- Where the character before the cursor stands, if it takes one byte as parentheses do. There is
    none at the start of the line. -/
def beforeCursor (cursor : Nat) : Option Nat :=
  if cursor = 0 then none else some (cursor - 1)

/-- A line with its parentheses in colour, if no parenthesis is replaced where none stands. -/
def highlight? (line : String) (cursor : Nat) : Option String :=
  (Highlighter.initial.writeAll (beforeCursor cursor) 0 line.toList).bind fun h =>
    (Highlighter.redden h.opened h.text).map String.ofList

/-- A line with its parentheses in colour. -/
def highlight (line : String) (cursor : Nat) : String :=
  (highlight? line cursor).getD line

end Bitwise.Session
