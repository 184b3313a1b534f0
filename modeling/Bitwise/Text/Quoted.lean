import Bitwise.Unicode.GraphemeExtend
import Bitwise.Unicode.Graphic
import Bitwise.Unicode.Letter

/-!
# Quoted texts

A message that cites a character or a text puts it between quotes, and spells out what would not
be seen there: the quote itself, the backslash, line ends and tabs by a letter or sign, and every
other character that has no shape of its own by its code point in braces.
-/

namespace Bitwise.Text

open Unicode (isGraphemeExtend isGraphic isLetter)

/-- A code point in hexadecimal between braces, after `\u`. -/
def codeEscape (c : Char) : List Char :=
  ['\\', 'u', '\x7b'] ++ Nat.toDigits 16 c.toNat ++ ['\x7d']

/-- Whether a character can be shown only on the character before it. The halfwidth voicing marks
    extend graphemes too, but are letters with a shape of their own. -/
def isMark (c : Char) : Bool :=
  isGraphemeExtend c && !isLetter c

/-- A character as it stands between two quotes. -/
def escape (quote c : Char) : List Char :=
  if c = '\x00' then ['\\', '0']
  else if c = '\t' then ['\\', 't']
  else if c = '\r' then ['\\', 'r']
  else if c = '\n' then ['\\', 'n']
  else if c = '\\' ∨ c = quote then ['\\', c]
  else if isMark c || !isGraphic c then codeEscape c
  else [c]

/-- A character between single quotes. -/
def quotedChar (c : Char) : String :=
  String.ofList ('\'' :: escape '\'' c ++ ['\''])

/-- A text between double quotes. -/
def quoted (text : String) : String :=
  String.ofList ('"' :: text.toList.flatMap (escape '"') ++ ['"'])

end Bitwise.Text
