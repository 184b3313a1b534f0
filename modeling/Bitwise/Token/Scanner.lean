import Bitwise.Numeral
import Bitwise.Text.Offset
import Bitwise.Token
import Bitwise.Unicode.Blank
import Bitwise.Unicode.DecimalDigit
import Bitwise.Unicode.Letter

/-!
# Scanning

A scanner reads a text token by token. Blanks before a token are skipped; then the longest lexeme
that begins there is the token: an identifier, a number, or one of the signs. A number takes in all
letters and digits after its first digit and is checked afterwards, so that `1st` is one malformed
number and not a number and a name.

The scanner stops after the token for the end of the text, or after the first illegal token.
-/

namespace Bitwise

open Text (byteLength)
open Unicode (isBlank isDecimalDigit isLetter)

/-- Whether a character can begin an identifier. -/
def isIdentifierStart (c : Char) : Bool :=
  isLetter c || c == '_'

/-- Whether a character can go on an identifier. -/
def isIdentifierPart (c : Char) : Bool :=
  isLetter c || isDecimalDigit c || c == '_'

/-- Whether a character goes on the lexeme of a number. -/
def isNumberPart (c : Char) : Bool :=
  isLetter c || isDecimalDigit c

/-- The kind of a token that is one sign and begins no longer one. -/
def signKind? : Char → Option TokenKind
  | '(' => some .openParen
  | ')' => some .closeParen
  | '=' => some .equal
  | '~' => some .tilde
  | '|' => some (.binary .or)
  | '&' => some (.binary .and)
  | '^' => some (.binary .xor)
  | _ => none

/-- The operator that a sign stands for when it is written twice. -/
def shift? : Char → Option BinaryOperator
  | '<' => some .shl
  | '>' => some .shr
  | _ => none

/-- Why a piece of text is no token. -/
inductive LexicalFault
  /-- A lexeme begins like a number and is none. -/
  | malformed (reason : Numeral.Malformation)
  /-- The sign of a shift is followed by another character than itself. -/
  | unpaired (next : Char)
  /-- The text ends after the sign of a shift. -/
  | unexpectedEnd
  /-- No token begins with the character, which stands at the offset. -/
  | unexpected (c : Char) (offset : Nat)

/-- The diagnostic of a fault. -/
def LexicalFault.message : LexicalFault → String
  | .malformed reason => reason.message
  | .unpaired next => "unexpected " ++ Text.quotedChar next
  | .unexpectedEnd => "unexpected end of input"
  | .unexpected c offset => "unexpected " ++ Text.quotedChar c ++ " at " ++ toString offset

namespace Token

/-- The token of a kind for a lexeme that stands at an offset. -/
def ofLexeme (kind : TokenKind) (offset : Nat) (lexeme : List Char) : Token :=
  ⟨kind, String.ofList lexeme, ⟨offset, offset + byteLength lexeme⟩⟩

/-- The illegal token for a piece of text that stands at an offset. -/
def illegal (fault : LexicalFault) (offset : Nat) (piece : List Char) : Token :=
  ⟨.illegal, fault.message, ⟨offset, offset + byteLength piece⟩⟩

/-- The token for a lexeme that begins like a number. -/
def number (offset : Nat) (lexeme : List Char) : Token :=
  match Numeral.malformation? lexeme with
  | none => ofLexeme .number offset lexeme
  | some reason => illegal (.malformed reason) offset lexeme

/-- The token that begins with the sign of a shift, and what follows it. -/
def shift (op : BinaryOperator) (offset : Nat) (c : Char) : List Char → Token × List Char
  | [] => (illegal .unexpectedEnd offset [c], [])
  | d :: cs =>
    if d = c then (ofLexeme (.binary op) offset [c, d], cs)
    else (illegal (.unpaired d) offset [c, d], cs)

/-- The token at the start of a text that does not begin with a blank and stands at an offset, and
    what follows it. -/
def scan (offset : Nat) : List Char → Token × List Char
  | [] => (⟨.endOfInput, "", .point offset⟩, [])
  | c :: cs =>
    match signKind? c with
    | some kind => (ofLexeme kind offset [c], cs)
    | none =>
      match shift? c with
      | some op => shift op offset c cs
      | none =>
        if isIdentifierStart c then
          (ofLexeme .identifier offset (c :: cs.takeWhile isIdentifierPart),
            cs.dropWhile isIdentifierPart)
        else if c.isDigit then
          (number offset (c :: cs.takeWhile isNumberPart), cs.dropWhile isNumberPart)
        else (illegal (.unexpected c offset) offset [c], cs)

end Token

/-- What remains of a text to be read. -/
structure Scanner where
  /-- The characters that no token has been made of. -/
  rest : List Char
  /-- Where they begin. -/
  offset : Nat
  /-- Whether the last token has been read. -/
  finished : Bool

namespace Scanner

/-- The scanner at the start of a text. -/
def ofString (source : String) : Scanner :=
  ⟨source.toList, 0, false⟩

/-- The lexeme after the blanks, and what follows it. -/
def lexeme (s : Scanner) : Token × List Char :=
  Token.scan (s.offset + byteLength (s.rest.takeWhile isBlank)) (s.rest.dropWhile isBlank)

/-- The next token, and what remains after it. -/
def next? (s : Scanner) : Option (Token × Scanner) :=
  if s.finished then none
  else some (s.lexeme.1, ⟨s.lexeme.2, s.lexeme.1.span.stop, s.lexeme.1.kind.isLast⟩)

/-- How much a scanner can still read. Every token takes something off it. -/
def remaining (s : Scanner) : Nat :=
  if s.finished then 0 else s.rest.length + 1

end Scanner

theorem Token.length_shift_le (op : BinaryOperator) (offset : Nat) (c : Char) (cs : List Char) :
    (Token.shift op offset c cs).2.length ≤ cs.length := by
  cases cs with
  | nil => simp [Token.shift]
  | cons d cs => by_cases h : d = c <;> simp [Token.shift, h]

/-- What follows a token is shorter than the text, unless the token is the last. -/
theorem Token.length_scan_lt (offset : Nat) (cs : List Char)
    (h : (Token.scan offset cs).1.kind.isLast = false) :
    (Token.scan offset cs).2.length < cs.length := by
  cases cs with
  | nil => simp [Token.scan, TokenKind.isLast] at h
  | cons c cs =>
    have drop (p : Char → Bool) : (cs.dropWhile p).length < cs.length + 1 :=
      Nat.lt_succ_of_le (List.dropWhile_sublist p).length_le
    rw [List.length_cons, Token.scan]
    cases signKind? c with
    | some kind => exact Nat.lt_succ_self _
    | none =>
      cases shift? c with
      | some op => exact Nat.lt_succ_of_le (Token.length_shift_le op offset c cs)
      | none =>
        by_cases hi : isIdentifierStart c
        · simpa [hi] using drop isIdentifierPart
        · by_cases hd : c.isDigit
          · simpa [hi, hd] using drop isNumberPart
          · simp [hi, hd]

theorem Scanner.remaining_lt_of_next? {s s' : Scanner} {t : Token} (h : s.next? = some (t, s')) :
    s'.remaining < s.remaining := by
  by_cases hs : s.finished
  · simp [Scanner.next?, hs] at h
  · simp only [Scanner.next?, hs, Bool.false_eq_true, if_false, Option.some.injEq,
      Prod.mk.injEq] at h
    obtain ⟨-, rfl⟩ := h
    by_cases hk : s.lexeme.1.kind.isLast
    · simp [Scanner.remaining, hs, hk]
    · have scanned := Token.length_scan_lt _ _ (eq_false_of_ne_true hk)
      have skipped : (s.rest.dropWhile isBlank).length ≤ s.rest.length :=
        (List.dropWhile_sublist isBlank).length_le
      simp only [Scanner.remaining, hs, hk, Bool.false_eq_true, if_false]
      simp only [Scanner.lexeme]
      omega

/-- The tokens that a scanner has yet to read, up to the last. -/
def Scanner.tokens (s : Scanner) : List Token :=
  match _next : s.next? with
  | none => []
  | some (token, s') => token :: s'.tokens
termination_by s.remaining
decreasing_by exact Scanner.remaining_lt_of_next? _next

/-- All tokens of a text. -/
def tokenize (source : String) : List Token :=
  (Scanner.ofString source).tokens

end Bitwise
