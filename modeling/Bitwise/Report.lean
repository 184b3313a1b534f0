import Bitwise.Span
import Bitwise.Text.Line
import Bitwise.Text.Trim
import Bitwise.Unicode.ColumnWidth

/-!
# Reports

A report shows the part of a text that an error is about: a headline, the line and column, the
lines of the text where the part begins and ends, and a note that arrows or lines lead to.

The span of a report is read as a range of characters, not of bytes. A part that does not lie in
the text has no picture, and of one that runs over the end of its last line the picture has no
arrow and no note.
-/

namespace Bitwise

open Text (Line)
open Unicode (columnWidth? isBlank)

/-- What there is to say about a part of a text. -/
structure Report where
  title : String
  note : String
  span : Span
  deriving DecidableEq

namespace Report

/-! ## Text in columns -/

/-- The number of columns of the character at an index of its line. A tab reaches to the next
    multiple of four characters. -/
def charWidth (index : Nat) (c : Char) : Nat :=
  if c = '\t' then 4 - index % 4
  else if isBlank c then 1
  else (columnWidth? c).getD 1

/-- The character at an index of its line, as it is shown: blanks become spaces. -/
def shownChar (index : Nat) (c : Char) : List Char :=
  if isBlank c then .replicate (charWidth index c) ' ' else [c]

/-- A line as it is shown, without the blanks at its end. -/
def shownLine (line : List Char) : String :=
  String.ofList ((Text.trimEnd line).mapIdx shownChar).flatten

/-- The numbers of columns of the first characters of a line. What is not shown counts one each, and
    so does what would stand past the end. -/
def columnWidths (line : List Char) (count : Nat) : List Nat :=
  ((Text.trimEnd line).mapIdx charWidth ++ .replicate count 1).take count

/-- What is drawn below a character: a mark in its first column, and a filler in the others. -/
structure Cell where
  mark : Char
  filler : Char

namespace Cell

/-- Nothing is drawn. -/
def blank : Cell := ⟨' ', ' '⟩

/-- A horizontal line is drawn. -/
def bar : Cell := ⟨'─', '─'⟩

/-- A cell of some columns; without a column nothing is drawn. -/
def draw (cell : Cell) : Nat → List Char
  | 0 => []
  | width + 1 => cell.mark :: .replicate width cell.filler

end Cell

/-- A row of cells below a line, one for each of the first characters. -/
def row (line : List Char) (count : Nat) (cell : Nat → Cell) : String :=
  String.ofList ((columnWidths line count).mapIdx fun i width => (cell i).draw width).flatten

/-! ## The place of a part -/

/-- The last character of the part, or its place if it is empty. -/
def last (r : Report) : Nat :=
  if r.span.start < r.span.stop then r.span.stop - 1 else r.span.start

/-- Whether the part lies in the text. -/
def inText (r : Report) (text : List Char) : Bool :=
  r.span.start ≤ text.length && r.last ≤ text.length

/-- The line on which the part begins, and its column there, both counted from zero. -/
def place (r : Report) (text : List Char) : Nat × Nat :=
  let line := Text.lineAt text r.span.start
  (line.index, r.span.start - line.start)

/-- The line and column that the report names, counted from one, if the part lies in the text. -/
def location? (r : Report) (source : String) : Option (Nat × Nat) :=
  if r.inText source.toList then
    match r.place source.toList with
    | (line, column) => some (line + 1, column + 1)
  else none

/-! ## The picture -/

/-- Digits, with spaces before them to fill a width. -/
def alignRight (width number : Nat) : String :=
  let digits := toString number
  String.ofList (.replicate (width - digits.length) ' ') ++ digits

/-- The margin of a line that shows text. -/
def numberMargin (width : Nat) (line : Line) : String :=
  " " ++ alignRight width (line.index + 1) ++ " │ "

/-- The margin of a line that shows no text. -/
def margin (width : Nat) : String :=
  String.ofList (.replicate (width + 2) ' ')

/-- The picture of a part on one line: below the text a row underlines the part, and the next row
    leads from the middle of the part to the note. -/
def pictureOnLine (r : Report) (width : Nat) (line : Line) : List String :=
  if r.span.stop ≤ line.stop then
    let first := r.span.start - line.start
    let stop := r.span.stop - line.start
    let middle := (r.span.start + r.span.stop) / 2 - line.start
    let inPart (i : Nat) : Bool := first ≤ i && i < stop
    let underline (i : Nat) : Cell :=
      if i = middle then if inPart i then ⟨'┬', '─'⟩ else ⟨'│', ' '⟩
      else if inPart i then .bar
      else .blank
    let arrow (i : Nat) : Cell :=
      if i = middle then ⟨'╰', '─'⟩
      else if middle < i then .bar
      else .blank
    [ numberMargin width line ++ shownLine line.chars,
      margin width ++ "│ " ++ row line.chars (stop + 2) underline,
      margin width ++ "│ " ++ row line.chars (stop + 2) arrow ++ " " ++ r.note ]
  else [margin width ++ "│ "]

/-- The picture of a part on several lines: its first and its last line, and a line at the left that
    leads from the one past the other to the note. Lines between them are left out, and so are the
    last line and the note of a part that runs over the end of the last line. -/
def pictureOnLines (r : Report) (width : Nat) (first last : Line) : List String :=
  let start := numberMargin width first ++ "╭─▶ " ++ shownLine first.chars
  let gap := margin width ++ "┆ ┆   "
  if r.span.stop ≤ last.stop then
    let columns := (columnWidths last.chars (last.chars.length + 2)).foldl (· + ·) 0
    start :: (if first.index + 1 < last.index then [gap] else [])
      ++ [ numberMargin width last ++ "├─▶ " ++ shownLine last.chars,
        margin width ++ "│ │   " ++ String.ofList (.replicate columns ' '),
        margin width ++ "│ ╰───" ++ String.ofList (.replicate columns '─') ++ " " ++ r.note ]
  else [start, gap]

/-- The lines below the headline. -/
def picture (r : Report) (text : List Char) : List String :=
  let first := Text.lineAt text r.span.start
  let last := Text.lineAt text r.last
  let width := (toString (last.index + 1)).length
  let (line, column) := r.place text
  [ margin width ++ "╭─[ input:" ++ toString (line + 1) ++ ":" ++ toString (column + 1) ++ " ]",
    margin width ++ "│" ]
    ++ (if first.index = last.index then r.pictureOnLine width first
      else r.pictureOnLines width first last)
    ++ [String.ofList (.replicate (width + 2) '─') ++ "╯"]

/-- The report on a text, one line after the other, each with a line feed at its end. -/
def render (r : Report) (source : String) : String :=
  let text := source.toList
  let lines := ("Error: " ++ r.title) :: if r.inText text then r.picture text else []
  String.join (lines.map (· ++ "\n"))

end Report

end Bitwise
