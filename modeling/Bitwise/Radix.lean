/-!
# Radices

Numbers are read and shown in three bases. A value is shown signed in base ten, and as the bit
pattern of its two's complement form in bases two and sixteen.
-/

namespace Bitwise

/-- A base in which numbers are written. -/
inductive Radix
  | decimal
  | binary
  | hexadecimal
  deriving DecidableEq

namespace Radix

/-- All radices, in the order in which a value is shown. -/
def all : List Radix :=
  [.decimal, .binary, .hexadecimal]

/-- The number of digits of a radix. -/
def base : Radix → Nat
  | .decimal => 10
  | .binary => 2
  | .hexadecimal => 16

/-- Whether a character is a digit of a radix. Only small letters stand for digits above nine. -/
def isDigit : Radix → Char → Bool
  | .decimal, c => c.isDigit
  | .binary, c => c == '0' || c == '1'
  | .hexadecimal, c => c.isDigit || ('a' ≤ c && c ≤ 'f')

/-- The name of a radix in a listing. -/
def label : Radix → String
  | .decimal => "dec"
  | .binary => "bin"
  | .hexadecimal => "hex"

instance : ToString Radix :=
  ⟨label⟩

/-- The bit pattern of a value, as an unsigned number. -/
def pattern (value : Int64) : Nat :=
  value.toBitVec.toNat

/-- The digits of a value, without leading zeros. Only base ten has a sign. -/
def format : Radix → Int64 → String
  | .decimal, value => toString value.toInt
  | .binary, value => String.ofList (Nat.toDigits 2 (pattern value))
  | .hexadecimal, value => String.ofList (Nat.toDigits 16 (pattern value))

end Radix

/-- A value in every radix, one to a line. -/
def render (value : Int64) : String :=
  "\n".intercalate (Radix.all.map fun radix => radix.label ++ ": " ++ radix.format value)

end Bitwise
