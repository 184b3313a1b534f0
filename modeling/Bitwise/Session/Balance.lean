/-!
# Balanced lines

A line is handed over only when its parentheses are balanced. Open ones wait for more input; one
that closes nothing makes the line invalid, whatever comes after it.
-/

namespace Bitwise.Session

/-- The state of the parentheses of a line. -/
inductive Balance
  | balanced
  /-- Some parenthesis is still open. -/
  | incomplete
  /-- The parenthesis at the offset closes nothing. -/
  | unmatched (offset : Nat)
  deriving DecidableEq

namespace Balance

/-- The balance of a text that stands at an offset, after some parentheses that are still open. -/
def ofChars (opened offset : Nat) : List Char → Balance
  | [] => if opened = 0 then .balanced else .incomplete
  | c :: cs =>
    if c = '(' then ofChars (opened + 1) (offset + c.utf8Size) cs
    else if c = ')' then
      match opened with
      | 0 => .unmatched offset
      | opened + 1 => ofChars opened (offset + c.utf8Size) cs
    else ofChars opened (offset + c.utf8Size) cs

/-- The balance of a line. -/
def ofLine (line : List Char) : Balance :=
  ofChars 0 0 line

/-- What is said about a line that cannot become balanced. -/
def unmatchedMessage (offset : Nat) : String :=
  "  - Unmatched ')' at position " ++ toString offset

end Balance

end Bitwise.Session
