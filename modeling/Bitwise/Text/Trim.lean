import Bitwise.Unicode.Blank

/-!
# Trimming

Blanks at the ends of a line mean nothing, so they are taken off before the line is looked at.
-/

namespace Bitwise.Text

open Unicode (isBlank)

/-- The text without the blanks it ends with. -/
def trimEnd (cs : List Char) : List Char :=
  (cs.reverse.dropWhile isBlank).reverse

/-- The text without the blanks at either end. -/
def trim (cs : List Char) : List Char :=
  trimEnd (cs.dropWhile isBlank)

end Bitwise.Text
