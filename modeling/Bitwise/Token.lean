import Bitwise.Operator
import Bitwise.Span
import Bitwise.Text.Quoted

/-!
# Tokens

A token is a piece of the text with the kind of thing it is. The last token of a text stands for
its end, or is illegal, and then its text is the diagnostic instead of what stands in the text.
-/

namespace Bitwise

/-- The kinds of tokens. -/
inductive TokenKind
  | identifier
  | number
  | openParen
  | closeParen
  | equal
  | tilde
  | binary (op : BinaryOperator)
  | illegal
  | endOfInput
  deriving DecidableEq

namespace TokenKind

/-- The name of a kind in messages. -/
def label : TokenKind → String
  | .identifier => "IDENT"
  | .number => "NUMBER"
  | .openParen => "LPAREN"
  | .closeParen => "RPAREN"
  | .equal => "EQUAL"
  | .tilde => "NOT"
  | .binary .or => "OR"
  | .binary .and => "AND"
  | .binary .xor => "XOR"
  | .binary .shl => "SHL"
  | .binary .shr => "SHR"
  | .illegal => "ILLEGAL"
  | .endOfInput => "EOF"

/-- Whether no token comes after one of this kind. -/
def isLast : TokenKind → Bool
  | .illegal | .endOfInput => true
  | _ => false

end TokenKind

/-- A lexeme with its kind and its place. -/
structure Token where
  kind : TokenKind
  text : String
  span : Span
  deriving DecidableEq

namespace Token

/-- A token is named by its kind, and its text is quoted unless it stands for the end. -/
protected def toString (t : Token) : String :=
  if t.kind = .endOfInput then "EOF"
  else t.kind.label ++ "(" ++ Text.quoted t.text ++ ")"

instance : ToString Token :=
  ⟨Token.toString⟩

end Token

end Bitwise
