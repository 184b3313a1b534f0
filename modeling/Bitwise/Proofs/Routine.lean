import Bitwise.Proofs.Descent

/-!
# Routines

A routine is a descent before it is settled how tokens come to it: a tree of what it asks for, with
a branch for each answer (`Routine`). It looks at the kind of a token that is some tokens ahead, or
takes the next one, and goes on as that token is. The functions of the descent are written down as
routines here, word for word.

If a token that has been looked at is read once more when it is taken, then a routine is a descent
(`Routine.descend`), and each of the functions becomes the one of the descent that has its name
(`Routine.descends`).
-/

namespace Bitwise

/-- What asks for tokens, and goes on as they are. -/
inductive Routine (α : Type) where
  | done (a : α)
  | fail (failure : Failure)
  /-- Looks at the kind of a token that is some tokens ahead. Nothing is taken. -/
  | look (offset : Nat) (next : TokenKind → Routine α)
  /-- Takes the next token. -/
  | take (next : Token → Routine α)
  /-- A check of the buffer has failed. -/
  | crash
  /-- No more calls may be nested. -/
  | unfinished

namespace Routine

variable {α β : Type}

/-- One routine after another. -/
protected def bind : Routine α → (α → Routine β) → Routine β
  | done a, f => f a
  | fail failure, _ => .fail failure
  | look offset next, f => .look offset fun kind => (next kind).bind f
  | take next, f => .take fun t => (next t).bind f
  | crash, _ => .crash
  | unfinished, _ => .unfinished

instance : Monad Routine where
  pure := .done
  bind := Routine.bind

/-- The kind of a token that is some tokens ahead. -/
def peek (offset : Nat) : Routine TokenKind :=
  .look offset .done

/-- The next token. -/
def next : Routine Token :=
  .take .done

/-- Takes the next token, which has to be of a kind. -/
def expect (kind : TokenKind) (label : String) : Routine Token := do
  let t ← next
  if t.kind = kind then pure t
  else if t.kind = .endOfInput then fail (.unexpectedEnd label)
  else fail (.unexpectedToken label t)

/-- A literal, whose digits are converted. -/
def number : Routine Node := do
  let t ← expect .number "NUMBER"
  match Conversion.ofText (Numeral.split t.text.toList).1.base (Numeral.split t.text.toList).2 with
  | .ok value => pure (.literal value t.span)
  | .error reason => fail (.invalidNumber t.text t.span reason)

/-- The sign `~` and a literal. -/
def complement : Routine Node := do
  let tilde ← expect .tilde "NOT"
  let operand ← number
  pure (.complement operand (tilde.span.cover operand.mark))

/-- A binary operator. -/
def binaryOperator : Routine BinaryOperator := do
  let t ← next
  match t.kind with
  | .binary op => pure op
  | _ => fail (.unexpectedToken "OPERATION" t)

mutual

/-- An assignment, if an equals sign follows a name, and a chain if not. -/
def statement : Nat → Nat → Routine Node
  | 0, _ => unfinished
  | calls + 1, depth => do
    if (← peek 0) = .identifier then
      if (← peek 1) = .equal then assignment calls depth
      else chain calls depth
    else chain calls depth

/-- A name, an equals sign and a chain. -/
def assignment : Nat → Nat → Routine Node
  | 0, _ => unfinished
  | calls + 1, depth => do
    let name ← expect .identifier "IDENT"
    let _ ← expect .equal "EQUAL"
    let value ← chain calls depth
    pure (.assign name.text value (name.span.cover value.mark))

/-- An operand, and operators with their operands. -/
def chain : Nat → Nat → Routine Node
  | 0, _ => unfinished
  | calls + 1, depth => do
    let first ← operand calls depth
    links calls depth first

/-- The operators and operands that go on a chain. -/
def links : Nat → Nat → Node → Routine Node
  | 0, _, _ => unfinished
  | calls + 1, depth, left => do
    match ← peek 0 with
    | .endOfInput | .closeParen => pure left
    | _ =>
      let op ← binaryOperator
      let right ← operand calls depth
      links calls depth (.combine op left right)

/-- A group, a complement, a name or a number. -/
def operand : Nat → Nat → Routine Node
  | 0, _ => unfinished
  | calls + 1, depth => do
    match ← peek 0 with
    | .openParen => group calls depth
    | .tilde => complement
    | .identifier =>
      let t ← next
      pure (.var t.text t.span)
    | .endOfInput => fail (.unexpectedEnd Expected.operand.label)
    | _ => number

/-- A statement in parentheses. -/
def group : Nat → Nat → Routine Node
  | 0, _ => unfinished
  | calls + 1, depth => do
    let paren ← expect .openParen "LPAREN"
    if depth = maxNesting then fail (.tooDeep paren.span)
    else
      let inner ← statement calls (depth + 1)
      let close ← expect .closeParen "RPAREN"
      pure (inner.withMark (paren.span.cover close.span))

end

/-- A statement that nothing follows. -/
def alone (calls : Nat) : Routine Node := do
  let node ← statement calls 0
  let trailing ← next
  if trailing.kind = .endOfInput then pure node
  else fail (.unexpectedToken "OPERATION" trailing)

/-- A statement that is all of the text. -/
def whole (calls : Nat) : Routine Node := do
  if (← peek 0) = .endOfInput then fail (.unexpectedEnd Expected.statement.label)
  else alone calls

/-! ### Routines and descents -/

/-- The descent that a routine is if a token that has been looked at is read once more. -/
def descend : Routine α → Descent α
  | done a => pure a
  | fail failure => throw failure
  | look offset next => Descent.peek offset >>= fun kind => (next kind).descend
  | take next => Descent.next >>= fun t => (next t).descend
  | crash | unfinished => Descent.unfinished

theorem descend_bind {x : Routine α} {y : Descent α} {f : α → Routine β} {g : α → Descent β}
    (hx : x.descend = y) (hf : ∀ a, (f a).descend = g a) : (x >>= f).descend = y >>= g := by
  obtain rfl : (fun a => (f a).descend) = g := funext hf
  subst hx
  change (x.bind f).descend = _
  induction x with
  | done a => simp only [Routine.bind, descend, pure_bind]
  | fail failure => rfl
  | look offset next ih => simp only [Routine.bind, descend, ih, bind_assoc]
  | take next ih => simp only [Routine.bind, descend, ih, bind_assoc]
  | crash => rfl
  | unfinished => rfl

theorem descend_peek (offset : Nat) : (peek offset).descend = Descent.peek offset :=
  bind_pure _

theorem descend_next : next.descend = Descent.next :=
  bind_pure _

theorem descend_ite {c : Prop} [Decidable c] {x y : Routine α} {x' y' : Descent α}
    (hx : x.descend = x') (hy : y.descend = y') :
    (if c then x else y).descend = if c then x' else y' := by
  rw [apply_ite descend, hx, hy]

theorem descend_expect (kind : TokenKind) (label : String) :
    (expect kind label).descend = Descent.expect kind label :=
  descend_bind descend_next fun _ => descend_ite rfl (descend_ite rfl rfl)

theorem descend_number : number.descend = Descent.number := by
  refine descend_bind (descend_expect _ _) fun t => ?_
  cases Conversion.ofText (Numeral.split t.text.toList).1.base (Numeral.split t.text.toList).2 <;>
    rfl

theorem descend_complement : complement.descend = Descent.complement :=
  descend_bind (descend_expect _ _) fun _ => descend_bind descend_number fun _ => rfl

theorem descend_binaryOperator : binaryOperator.descend = Descent.binaryOperator := by
  refine descend_bind descend_next fun t => ?_
  cases t.kind <;> rfl

/-- The functions of the descent are those of the routine. -/
structure Descends (calls : Nat) : Prop where
  statement : ∀ depth, (statement calls depth).descend = Descent.statement calls depth
  assignment : ∀ depth, (assignment calls depth).descend = Descent.assignment calls depth
  chain : ∀ depth, (chain calls depth).descend = Descent.chain calls depth
  links : ∀ depth left, (links calls depth left).descend = Descent.links calls depth left
  operand : ∀ depth, (operand calls depth).descend = Descent.operand calls depth
  group : ∀ depth, (group calls depth).descend = Descent.group calls depth

theorem Descends.zero : Descends 0 where
  statement _ := by rw [Routine.statement, Descent.statement, descend]
  assignment _ := by rw [Routine.assignment, Descent.assignment, descend]
  chain _ := by rw [Routine.chain, Descent.chain, descend]
  links _ _ := by rw [Routine.links, Descent.links, descend]
  operand _ := by rw [Routine.operand, Descent.operand, descend]
  group _ := by rw [Routine.group, Descent.group, descend]

theorem Descends.succ {calls : Nat} (ih : Descends calls) : Descends (calls + 1) where
  statement depth := by
    rw [Routine.statement, Descent.statement]
    refine descend_bind (descend_peek 0) fun _ => descend_ite ?_ (ih.chain depth)
    exact descend_bind (descend_peek 1) fun _ => descend_ite (ih.assignment depth) (ih.chain depth)
  assignment depth := by
    rw [Routine.assignment, Descent.assignment]
    refine descend_bind (descend_expect _ _) fun _ => descend_bind (descend_expect _ _) fun _ => ?_
    exact descend_bind (ih.chain depth) fun _ => rfl
  chain depth := by
    rw [Routine.chain, Descent.chain]
    exact descend_bind (ih.operand depth) fun first => ih.links depth first
  links depth left := by
    rw [Routine.links, Descent.links]
    refine descend_bind (descend_peek 0) fun kind => ?_
    have goesOn : (do
        let op ← Routine.binaryOperator
        let right ← Routine.operand calls depth
        Routine.links calls depth (.combine op left right)).descend = (do
        let op ← Descent.binaryOperator
        let right ← Descent.operand calls depth
        Descent.links calls depth (.combine op left right)) :=
      descend_bind descend_binaryOperator fun _ => descend_bind (ih.operand depth) fun _ =>
        ih.links depth _
    cases kind with
    | endOfInput | closeParen => rfl
    | _ => exact goesOn
  operand depth := by
    rw [Routine.operand, Descent.operand]
    refine descend_bind (descend_peek 0) fun kind => ?_
    cases kind with
    | openParen => exact ih.group depth
    | tilde => exact descend_complement
    | identifier => exact descend_bind descend_next fun _ => rfl
    | endOfInput => rfl
    | _ => exact descend_number
  group depth := by
    rw [Routine.group, Descent.group]
    refine descend_bind (descend_expect _ _) fun _ => descend_ite rfl ?_
    refine descend_bind (ih.statement (depth + 1)) fun _ => ?_
    exact descend_bind (descend_expect _ _) fun _ => rfl

theorem descends (calls : Nat) : Descends calls := by
  induction calls with
  | zero => exact .zero
  | succ calls ih => exact ih.succ

/-- A routine reads a text as the descent does. -/
theorem descend_whole (calls : Nat) : (whole calls).descend = Descent.whole calls := by
  refine descend_bind (descend_peek 0) fun _ => descend_ite rfl ?_
  refine descend_bind ((descends calls).statement 0) fun _ => ?_
  exact descend_bind descend_next fun _ => descend_ite rfl rfl

end Routine

end Bitwise
