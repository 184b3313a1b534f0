/-!
# Binary operators

The five binary operators on 64-bit signed integers. None of them can fail or overflow: the
bitwise ones act on each bit of the two's complement form, and the shifts take their count modulo
64, so that every count is in range.
-/

namespace Bitwise

/-- An operator with two operands. -/
inductive BinaryOperator
  | and
  | or
  | xor
  | shl
  | shr
  deriving DecidableEq

namespace BinaryOperator

/-- The value of an operation. A shift to the left drops the high bits, a shift to the right
    repeats the sign. -/
def apply : BinaryOperator → Int64 → Int64 → Int64
  | .and, l, r => l &&& r
  | .or, l, r => l ||| r
  | .xor, l, r => l ^^^ r
  | .shl, l, r => l <<< r
  | .shr, l, r => l >>> r

/-- How an operator is written. -/
def symbol : BinaryOperator → String
  | .and => "&"
  | .or => "|"
  | .xor => "^"
  | .shl => "<<"
  | .shr => ">>"

instance : ToString BinaryOperator :=
  ⟨symbol⟩

end BinaryOperator

end Bitwise
