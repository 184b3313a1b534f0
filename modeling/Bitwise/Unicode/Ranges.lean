/-!
# Sets of code points

A property of characters is given as the increasing list of the closed ranges of code points that
have it.
-/

namespace Bitwise.Unicode

/-- A set of code points: closed ranges, each before the next. -/
abbrev Ranges := List (Nat × Nat)

/-- Whether a code point lies in one of the ranges. The first range that does not end before the
    code point decides, since all later ones begin after it. -/
def Ranges.contains : Ranges → Nat → Bool
  | [], _ => false
  | (lo, hi) :: rest, n => if n ≤ hi then decide (lo ≤ n) else contains rest n

end Bitwise.Unicode
