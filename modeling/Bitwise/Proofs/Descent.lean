import Bitwise.Proofs.Conversion
import Bitwise.Proofs.Spelling

/-!
# Recursive descent

The grammar can also be read by functions that call each other, one for each kind of phrase. They
look at most two tokens ahead, keep the depth of the groups that are open, and take every token by
a check of its kind. A check that fails tells what it expects, so there are more ways to fail than
a parser has: a descent could miss a name, an equals sign, a tilde or an opening parenthesis, and a
conversion could find an empty text, a character that is no digit or a number that is too small.

Each call gives up if no more calls may be nested, and then nothing is known of the text. Whether a
descent comes to an end is thus part of what it comes to, which is told by `Descent.Yields` and put
together along the text of the functions.
-/

namespace Bitwise

/-- Why a descent fails. What is expected is told by its label. -/
inductive Failure
  | lexical (diagnostic : String) (span : Span)
  | unexpectedToken (expected : String) (found : Token)
  | unexpectedEnd (expected : String)
  | invalidNumber (text : String) (span : Span) (reason : Conversion.Fault)
  | tooDeep (span : Span)
  deriving DecidableEq

/-- What a descent fails with where a parser has an error. -/
def ParseError.failure : ParseError → Failure
  | .lexical diagnostic span => .lexical diagnostic span
  | .unexpectedToken expected found => .unexpectedToken expected.label found
  | .unexpectedEnd expected => .unexpectedEnd expected.label
  | .numberTooLarge text span => .invalidNumber text span .positiveOverflow
  | .tooDeep span => .tooDeep span

/-- The next token of a scanner. After the last one it is the end again and again. -/
def Scanner.pull (s : Scanner) : Except ParseError (Token × Scanner) :=
  match s.next? with
  | none => .ok (.atEnd s.offset, s)
  | some (t, s') => if t.kind = .illegal then .error (.lexical t.text t.span) else .ok (t, s')

/-! ## The functions of the descent -/

/-- What reads tokens from a scanner and may fail, if it comes to an end. -/
abbrev Descent := StateT Scanner (ExceptT Failure Option)

namespace Descent

/-- Takes the next token. -/
def next : Descent Token := do
  match (← get).pull with
  | .error e => throw e.failure
  | .ok (t, s) =>
    set s
    pure t

/-- The kind of a token that is some tokens ahead. Nothing is taken. -/
def peek : Nat → Descent TokenKind
  | 0 => do
    let s ← get
    let t ← next
    set s
    pure t.kind
  | n + 1 => do
    let s ← get
    let _ ← next
    let kind ← peek n
    set s
    pure kind

/-- Takes the next token, which has to be of a kind. -/
def expect (kind : TokenKind) (label : String) : Descent Token := do
  let t ← next
  if t.kind = kind then pure t
  else if t.kind = .endOfInput then throw (.unexpectedEnd label)
  else throw (.unexpectedToken label t)

/-- A literal, whose digits are converted. -/
def number : Descent Node := do
  let t ← expect .number "NUMBER"
  match Conversion.ofText (Numeral.split t.text.toList).1.base (Numeral.split t.text.toList).2 with
  | .ok value => pure (.literal value t.span)
  | .error reason => throw (.invalidNumber t.text t.span reason)

/-- The sign `~` and a literal. -/
def complement : Descent Node := do
  let tilde ← expect .tilde "NOT"
  let operand ← number
  pure (.complement operand (tilde.span.cover operand.mark))

/-- A binary operator. -/
def binaryOperator : Descent BinaryOperator := do
  let t ← next
  match t.kind with
  | .binary op => pure op
  | _ => throw (.unexpectedToken "OPERATION" t)

/-- What has not come to an end. -/
def unfinished {α : Type} : Descent α :=
  fun _ => .mk none

mutual

/-- An assignment, if an equals sign follows a name, and a chain if not. -/
def statement : Nat → Nat → Descent Node
  | 0, _ => unfinished
  | calls + 1, depth => do
    if (← peek 0) = .identifier then
      if (← peek 1) = .equal then assignment calls depth
      else chain calls depth
    else chain calls depth

/-- A name, an equals sign and a chain. -/
def assignment : Nat → Nat → Descent Node
  | 0, _ => unfinished
  | calls + 1, depth => do
    let name ← expect .identifier "IDENT"
    let _ ← expect .equal "EQUAL"
    let value ← chain calls depth
    pure (.assign name.text value (name.span.cover value.mark))

/-- An operand, and operators with their operands. -/
def chain : Nat → Nat → Descent Node
  | 0, _ => unfinished
  | calls + 1, depth => do
    let first ← operand calls depth
    links calls depth first

/-- The operators and operands that go on a chain. -/
def links : Nat → Nat → Node → Descent Node
  | 0, _, _ => unfinished
  | calls + 1, depth, left => do
    match ← peek 0 with
    | .endOfInput | .closeParen => pure left
    | _ =>
      let op ← binaryOperator
      let right ← operand calls depth
      links calls depth (.combine op left right)

/-- A group, a complement, a name or a number. -/
def operand : Nat → Nat → Descent Node
  | 0, _ => unfinished
  | calls + 1, depth => do
    match ← peek 0 with
    | .openParen => group calls depth
    | .tilde => complement
    | .identifier =>
      let t ← next
      pure (.var t.text t.span)
    | .endOfInput => throw (.unexpectedEnd Expected.operand.label)
    | _ => number

/-- A statement in parentheses. -/
def group : Nat → Nat → Descent Node
  | 0, _ => unfinished
  | calls + 1, depth => do
    let paren ← expect .openParen "LPAREN"
    if depth = maxNesting then throw (.tooDeep paren.span)
    else
      let inner ← statement calls (depth + 1)
      let close ← expect .closeParen "RPAREN"
      pure (inner.withMark (paren.span.cover close.span))

end

/-- A statement that nothing follows. -/
def alone (calls : Nat) : Descent Node := do
  let node ← statement calls 0
  let trailing ← next
  if trailing.kind = .endOfInput then pure node
  else throw (.unexpectedToken "OPERATION" trailing)

/-- A statement that is all of the text. -/
def whole (calls : Nat) : Descent Node := do
  if (← peek 0) = .endOfInput then throw (.unexpectedEnd Expected.statement.label)
  else alone calls

/-- How many calls are nested at most. Between two tokens there are no more than four. -/
def callsFor (s : Scanner) : Nat :=
  4 * s.remaining + 4

/-- What a descent makes of a text, if it comes to an end. -/
def parse (source : String) : Option (Except Failure Node) :=
  ((whole (callsFor (.ofString source))).run' (.ofString source)).run

/-! ## What the functions come to -/

variable {α β : Type} {x : Descent α} {f : α → Descent β} {s s' s'' : Scanner} {t u : Token}
  {p q : Parser} {e : ParseError}

/-- A function of the descent comes to an end with a result. -/
def Yields (x : Descent α) (s : Scanner) (r : Except Failure (α × Scanner)) : Prop :=
  (x.run s).run = some r

theorem Yields.bind {a : α} {r : Except Failure (β × Scanner)} (hx : Yields x s (.ok (a, s')))
    (hf : Yields (f a) s' r) : Yields (x >>= f) s r := by
  rw [Yields, StateT.run_bind, ExceptT.run_bind, hx]
  exact hf

theorem Yields.bind_error {e : Failure} (hx : Yields x s (.error e)) :
    Yields (x >>= f) s (.error e) := by
  rw [Yields, StateT.run_bind, ExceptT.run_bind, hx]
  rfl

theorem run'_of_yields {r : Except Failure (α × Scanner)} (hx : Yields x s r) :
    (x.run' s).run = some (r.map Prod.fst) := by
  rw [StateT.run'_eq, ExceptT.run_map, hx]
  rfl

theorem yields_pure (a : α) (s : Scanner) : Yields (pure a) s (.ok (a, s)) := rfl

theorem yields_throw (e : Failure) (s : Scanner) :
    Yields (throw e : Descent α) s (.error e) := rfl

theorem yields_get (s : Scanner) : Yields get s (.ok (s, s)) := rfl

theorem yields_set (s s' : Scanner) : Yields (set s' : Descent PUnit) s (.ok (⟨⟩, s')) := rfl

theorem yields_next (h : s.pull = .ok (t, s')) : Yields next s (.ok (t, s')) := by
  refine (yields_get s).bind ?_
  rw [h]
  exact (yields_set s s').bind (yields_pure t s')

theorem yields_next_error (h : s.pull = .error e) : Yields next s (.error e.failure) := by
  refine (yields_get s).bind ?_
  rw [h]
  exact yields_throw _ s

theorem yields_peek_zero (h : s.pull = .ok (t, s')) : Yields (peek 0) s (.ok (t.kind, s)) :=
  (yields_get s).bind ((yields_next h).bind ((yields_set s' s).bind (yields_pure t.kind s)))

theorem yields_peek_zero_error (h : s.pull = .error e) : Yields (peek 0) s (.error e.failure) :=
  (yields_get s).bind (yields_next_error h).bind_error

theorem yields_peek_one (h : s.pull = .ok (t, s')) (h' : s'.pull = .ok (u, s'')) :
    Yields (peek 1) s (.ok (u.kind, s)) :=
  (yields_get s).bind ((yields_next h).bind
    ((yields_peek_zero h').bind ((yields_set s' s).bind (yields_pure u.kind s))))

theorem yields_peek_one_error (h : s.pull = .ok (t, s')) (h' : s'.pull = .error e) :
    Yields (peek 1) s (.error e.failure) :=
  (yields_get s).bind ((yields_next h).bind (yields_peek_zero_error h').bind_error)

section Expect

variable {kind : TokenKind} {label : String}

theorem yields_expect (h : s.pull = .ok (t, s')) (ht : t.kind = kind) :
    Yields (expect kind label) s (.ok (t, s')) := by
  refine (yields_next h).bind ?_
  rw [if_pos ht]
  exact yields_pure t s'

theorem yields_expect_end (h : s.pull = .ok (t, s')) (ht : t.kind = .endOfInput)
    (hkind : kind ≠ .endOfInput) :
    Yields (expect kind label) s (.error (.unexpectedEnd label)) := by
  refine (yields_next h).bind ?_
  rw [if_neg (ht ▸ hkind.symm), if_pos ht]
  exact yields_throw _ s'

theorem yields_expect_other (h : s.pull = .ok (t, s')) (ht : t.kind ≠ kind)
    (hend : t.kind ≠ .endOfInput) :
    Yields (expect kind label) s (.error (.unexpectedToken label t)) := by
  refine (yields_next h).bind ?_
  rw [if_neg ht, if_neg hend]
  exact yields_throw _ s'

theorem yields_expect_error (h : s.pull = .error e) :
    Yields (expect kind label) s (.error e.failure) :=
  (yields_next_error h).bind_error

end Expect

end Descent

end Bitwise
