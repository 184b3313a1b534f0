/-!
# Spans

A span is a stretch of a text, given by the byte offsets where it starts and where it stops.
Tokens, trees and errors carry spans to say where they stand.
-/

namespace Bitwise

/-- The bytes from `start` up to, but not including, `stop`. -/
structure Span where
  start : Nat
  stop : Nat
  deriving DecidableEq

namespace Span

/-- The empty span at an offset: where the end of the input stands. -/
def point (offset : Nat) : Span :=
  ⟨offset, offset⟩

/-- The least span that covers both `a` and `b`. -/
def cover (a b : Span) : Span :=
  ⟨min a.start b.start, max a.stop b.stop⟩

/-- A span is written as its two offsets with two dots between them. -/
protected def toString (a : Span) : String :=
  toString a.start ++ ".." ++ toString a.stop

instance : ToString Span :=
  ⟨Span.toString⟩

end Span

end Bitwise
