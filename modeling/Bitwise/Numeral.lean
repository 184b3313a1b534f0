import Bitwise.Radix

/-!
# Number literals

A number literal is written in base ten, or in base two after `0b`, or in base sixteen after `0x`.
Its lexeme is all the letters and digits that stand together, so it has to be checked: a lexeme
with anything but digits of its radix is malformed.
-/

namespace Bitwise.Numeral

/-- What is wrong with a lexeme that begins like a number. -/
inductive Malformation
  /-- No digit of the radix that is announced follows. -/
  | noDigit (radix : Radix)
  /-- Something other than a digit stands after the digits. -/
  | tail
  deriving DecidableEq

/-- The words for a malformation. -/
def Malformation.message : Malformation → String
  | .noDigit .binary => "malformed binary number"
  | .noDigit .hexadecimal => "malformed hex number"
  | .noDigit .decimal => "malformed number"
  | .tail => "malformed number"

/-- The radix of a literal, and what should be its digits. -/
def split : List Char → Radix × List Char
  | '0' :: 'b' :: digits => (.binary, digits)
  | '0' :: 'x' :: digits => (.hexadecimal, digits)
  | digits => (.decimal, digits)

/-- What is wrong with a lexeme, if anything: the first digit is looked at before the others. -/
def malformation? (lexeme : List Char) : Option Malformation :=
  match split lexeme with
  | (radix, digits) =>
    if !digits.head?.any radix.isDigit then some (.noDigit radix)
    else if digits.all radix.isDigit then none
    else some .tail

/-- The number that a digit stands for. -/
def digitValue (c : Char) : Nat :=
  if c.isDigit then c.toNat - '0'.toNat else c.toNat - 'a'.toNat + 10

/-- The positional value of digits, the most significant first. -/
def ofDigits (base : Nat) (digits : List Char) : Nat :=
  digits.foldl (fun value c => value * base + digitValue c) 0

/-- The number that a literal stands for. -/
def value (lexeme : List Char) : Nat :=
  match split lexeme with
  | (radix, digits) => ofDigits radix.base digits

/-- The number that a literal stands for, if a signed 64-bit integer can hold it. -/
def toInt64? (lexeme : List Char) : Option Int64 :=
  if value lexeme < Nat.pow 2 63 then some (Int64.ofNat (value lexeme)) else none

end Bitwise.Numeral
