import Bitwise.Unicode.Ranges

/-!
# Blanks

The property White_Space: tabs, line ends, the space and the spaces of various widths. Blanks
separate tokens and are trimmed from lines. The zero-width space and the separators U+001C to
U+001F are not blanks.
-/

namespace Bitwise.Unicode

/-- The property White_Space. -/
def blanks : Ranges :=
  [(0x0009, 0x000D), (0x0020, 0x0020), (0x0085, 0x0085), (0x00A0, 0x00A0), (0x1680, 0x1680),
    (0x2000, 0x200A), (0x2028, 0x2029), (0x202F, 0x202F), (0x205F, 0x205F), (0x3000, 0x3000)]

/-- Whether a character is a blank. -/
def isBlank (c : Char) : Bool :=
  blanks.contains c.toNat

end Bitwise.Unicode
