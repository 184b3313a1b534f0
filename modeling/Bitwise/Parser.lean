import Bitwise.Parser.Error
import Bitwise.Token.Scanner
import Bitwise.Tree

/-!
# Parsing

A text is one statement: an assignment `name = chain` or a chain alone. A chain is a sequence of
operands with binary operators between them; there is no precedence, so it folds strictly to the
left. An operand is a name, a number, the complement `~` of a number, or a group: a statement in
parentheses.

The parser reads one token after the other and never goes back. What it knows between two tokens is
a `Parser`: the groups that are open, and how far it has come in the statement that the innermost
of them encloses. A name at the start of a statement is held until the next token tells whether it
is assigned to or read.
-/

namespace Bitwise

/-- The name that a statement assigns to, and where it stands. -/
structure Target where
  name : String
  span : Span
  deriving DecidableEq

/-- A statement that waits for an operand: what it assigns to, if anything, and the chain before the
    operand with the operator in between, if there is one. -/
structure Pending where
  target : Option Target
  chain : Option (Node × BinaryOperator)
  deriving DecidableEq

/-- How far a statement has been read. -/
inductive Progress
  /-- Nothing has been read. -/
  | start
  /-- A name has been read that is assigned to or begins a chain. -/
  | name (held : Token)
  /-- An operand has to come. -/
  | operand (pending : Pending)
  /-- The number that the sign `~` complements has to come. -/
  | number (pending : Pending) (tilde : Span)
  /-- A chain has been read; it may go on. -/
  | chain (target : Option Target) (tree : Node)
  deriving DecidableEq

/-- A group that is open: its parenthesis, and the statement that it is an operand of. -/
structure Group where
  paren : Span
  outer : Pending
  deriving DecidableEq

/-- What a parser knows of the tokens that it has read. -/
structure Parser where
  /-- The open groups, the innermost first. -/
  groups : List Group
  /-- How far the innermost statement has been read. -/
  progress : Progress
  deriving DecidableEq

namespace Pending

/-- The statement of which nothing has been read. -/
def fresh : Pending :=
  ⟨none, none⟩

/-- The progress that an operand makes: it goes on the chain. -/
def fill (pending : Pending) (operand : Node) : Progress :=
  match pending.chain with
  | none => .chain pending.target operand
  | some (left, op) => .chain pending.target (.combine op left operand)

end Pending

/-- The tree of a statement that is complete. An assignment spans the name and the chain. -/
def statementTree (target : Option Target) (tree : Node) : Node :=
  match target with
  | none => tree
  | some t => .assign t.name tree (t.span.cover tree.mark)

/-- The error at a token where something else is expected. -/
def ParseError.unexpected (expected : Expected) (found : Token) : ParseError :=
  if found.kind = .illegal then .lexical found.text found.span
  else .unexpectedToken expected found

/-- The literal that a token for a number stands for. -/
def Token.literal (t : Token) : Except ParseError Node :=
  match Numeral.toInt64? t.text.toList with
  | some value => .ok (.literal value t.span)
  | none => .error (.numberTooLarge t.text t.span)

namespace Parser

/-- The parser that has read nothing. -/
def initial : Parser :=
  ⟨[], .start⟩

/-- Opens a group as the operand of a statement, unless too many are open. -/
def openGroup (groups : List Group) (pending : Pending) (paren : Span) :
    Except ParseError Parser :=
  if groups.length = maxNesting then .error (.tooDeep paren)
  else .ok ⟨⟨paren, pending⟩ :: groups, .start⟩

/-- Reads a token where an operand has to come. -/
def feedOperand (groups : List Group) (pending : Pending) (t : Token) : Except ParseError Parser :=
  match t.kind with
  | .openParen => openGroup groups pending t.span
  | .tilde => .ok ⟨groups, .number pending t.span⟩
  | .identifier => .ok ⟨groups, pending.fill (.var t.text t.span)⟩
  | .number => t.literal.map fun operand => ⟨groups, pending.fill operand⟩
  | _ => .error (.unexpected .number t)

/-- Reads a token after the sign `~`. -/
def feedNumber (groups : List Group) (pending : Pending) (tilde : Span) (t : Token) :
    Except ParseError Parser :=
  match t.kind with
  | .number => t.literal.map fun operand =>
      ⟨groups, pending.fill (.complement operand (tilde.cover operand.mark))⟩
  | _ => .error (.unexpected .number t)

/-- Reads a token after a chain: an operator, or the parenthesis that closes the innermost group.
    The group is an operand that spans both of its parentheses. -/
def feedChain (groups : List Group) (target : Option Target) (tree : Node) (t : Token) :
    Except ParseError Parser :=
  match t.kind, groups with
  | .binary op, _ => .ok ⟨groups, .operand ⟨target, some (tree, op)⟩⟩
  | .closeParen, group :: groups =>
    .ok ⟨groups, group.outer.fill
      ((statementTree target tree).withMark (group.paren.cover t.span))⟩
  | _, _ => .error (.unexpected .operation t)

/-- Reads a token that is not the end of the text. -/
def feed (p : Parser) (t : Token) : Except ParseError Parser :=
  match p.progress with
  | .start =>
    if t.kind = .identifier then .ok ⟨p.groups, .name t⟩
    else feedOperand p.groups .fresh t
  | .name held =>
    -- the name is a target before an equals sign, and an operand before anything else
    if t.kind = .equal then .ok ⟨p.groups, .operand ⟨some ⟨held.text, held.span⟩, none⟩⟩
    else feedChain p.groups none (.var held.text held.span) t
  | .operand pending => feedOperand p.groups pending t
  | .number pending tilde => feedNumber p.groups pending tilde t
  | .chain target tree => feedChain p.groups target tree t

/-- The tree of the tokens read, if the text may end after them. -/
def finish (p : Parser) : Except ParseError Node :=
  match p.progress, p.groups with
  -- nothing at all has been read, or a group has just been opened
  | .start, [] => .error (.unexpectedEnd .statement)
  | .start, _ :: _ => .error (.unexpectedEnd .operand)
  | .operand _, _ => .error (.unexpectedEnd .operand)
  | .number _ _, _ => .error (.unexpectedEnd .number)
  -- a chain may end here, but a group may not
  | .name _, _ :: _ => .error (.unexpectedEnd .closeParen)
  | .chain _ _, _ :: _ => .error (.unexpectedEnd .closeParen)
  | .name held, [] => .ok (.var held.text held.span)
  | .chain target tree, [] => .ok (statementTree target tree)

/-- Reads tokens from a scanner up to the first error or the end of the text. No token is asked for
    before the one that precedes it has been accepted. -/
def run (p : Parser) (s : Scanner) : Except ParseError Node :=
  match _next : s.next? with
  | none => p.finish
  | some (t, s') =>
    if t.kind = .endOfInput then p.finish
    else
      match p.feed t with
      | .error e => .error e
      | .ok p' => p'.run s'
termination_by s.remaining
decreasing_by exact Scanner.remaining_lt_of_next? _next

end Parser

/-- The tree of a text that is one statement. -/
def parse (source : String) : Except ParseError Node :=
  Parser.initial.run (.ofString source)

end Bitwise
