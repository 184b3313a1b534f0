/-!
# The lines of an input

An input is a sequence of bytes. It is cut after every line feed, and each of its lines is a text if
its bytes are UTF-8.
-/

namespace Bitwise.Session

/-- Cuts bytes after every line feed. -/
def splitAfterLineFeeds : List UInt8 → List (List UInt8)
  | [] => []
  | b :: bs =>
    if b = 10 then [b] :: splitAfterLineFeeds bs
    else
      match splitAfterLineFeeds bs with
      | [] => [[b]]
      | line :: lines => (b :: line) :: lines

/-- The text that bytes encode. -/
def decode (bytes : List UInt8) : Option String :=
  String.fromUTF8? ⟨bytes.toArray⟩

/-- The lines of an input, each with its line end. -/
def inputLines (bytes : List UInt8) : List (Option String) :=
  (splitAfterLineFeeds bytes).map decode

end Bitwise.Session
