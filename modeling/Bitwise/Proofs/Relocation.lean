import Bitwise.Proofs.Run

/-!
# Spans are carried along

A parser never looks at a span. It stores spans, covers them, and returns them, so that a change of
the spans of all tokens changes the spans in the result and nothing else
(`Parser.runTokens_mapSpan`). The change may be any function that takes a cover to the cover: moving
all spans by the same distance is one, and forgetting them all is another.
-/

namespace Bitwise

variable {f : Span → Span}

/-! ## Trees -/

namespace Tree

variable {α β : Type}

theorem mark_map (g : α → β) (t : Tree α) : (t.map g).mark = g t.mark := by
  cases t <;> rfl

theorem map_withMark (g : α → β) (t : Tree α) (m : α) :
    (t.withMark m).map g = (t.map g).withMark (g m) := by
  cases t <;> rfl

end Tree

/-- A change of spans that is the same before and after covering. -/
def Span.Covering (f : Span → Span) : Prop :=
  ∀ a b, f (a.cover b) = (f a).cover (f b)

theorem Span.covering_raise (distance : Nat) : Span.Covering (Span.raise distance) := by
  intro a b
  simp only [raise, cover, Span.mk.injEq]
  omega

/-- All spans are replaced by the same. -/
theorem Span.covering_const (span : Span) : Span.Covering fun _ => span := by
  intro _ _
  simp only [cover, Nat.min_self, Nat.max_self]

theorem Node.map_combine (hf : Span.Covering f) (op : BinaryOperator) (left right : Node) :
    (combine op left right).map f = combine op (left.map f) (right.map f) := by
  rw [combine, combine, Tree.map, hf, Tree.mark_map, Tree.mark_map]

/-! ## Parsers -/

/-- The target with another span. -/
def Target.mapSpan (f : Span → Span) (t : Target) : Target :=
  ⟨t.name, f t.span⟩

/-- The statement that waits for an operand, with other spans. -/
def Pending.mapSpan (f : Span → Span) (p : Pending) : Pending :=
  ⟨p.target.map (.mapSpan f), p.chain.map fun (left, op) => (left.map f, op)⟩

/-- The progress with other spans. -/
def Progress.mapSpan (f : Span → Span) : Progress → Progress
  | .start => .start
  | .name held => .name (held.mapSpan f)
  | .operand pending => .operand (pending.mapSpan f)
  | .number pending tilde => .number (pending.mapSpan f) (f tilde)
  | .chain target tree => .chain (target.map (.mapSpan f)) (tree.map f)

/-- The open group with other spans. -/
def Group.mapSpan (f : Span → Span) (g : Group) : Group :=
  ⟨f g.paren, g.outer.mapSpan f⟩

/-- The parser with other spans. -/
def Parser.mapSpan (f : Span → Span) (p : Parser) : Parser :=
  ⟨p.groups.map (.mapSpan f), p.progress.mapSpan f⟩

/-- The error with another span. -/
def ParseError.mapSpan (f : Span → Span) : ParseError → ParseError
  | .lexical diagnostic span => .lexical diagnostic (f span)
  | .unexpectedToken expected found => .unexpectedToken expected (found.mapSpan f)
  | .unexpectedEnd expected => .unexpectedEnd expected
  | .numberTooLarge text span => .numberTooLarge text (f span)
  | .tooDeep span => .tooDeep (f span)

/-- What has been made of some tokens, with other spans. -/
def ParseError.mapResult {α β : Type} (f : Span → Span) (g : α → β) :
    Except ParseError α → Except ParseError β
  | .ok a => .ok (g a)
  | .error e => .error (e.mapSpan f)

open ParseError (mapResult)

theorem statementTree_mapSpan (hf : Span.Covering f) (target : Option Target) (tree : Node) :
    (statementTree target tree).map f = statementTree (target.map (.mapSpan f)) (tree.map f) := by
  cases target with
  | none => rfl
  | some t =>
    simp only [statementTree, Option.map_some, Target.mapSpan, Tree.map, Tree.mark_map]
    rw [hf]

theorem Pending.fill_mapSpan (hf : Span.Covering f) (pending : Pending) (operand : Node) :
    (pending.fill operand).mapSpan f = (pending.mapSpan f).fill (operand.map f) := by
  obtain ⟨target, _ | ⟨left, op⟩⟩ := pending
  · rfl
  · simp only [fill, mapSpan, Progress.mapSpan, Option.map_some, Node.map_combine hf]

theorem ParseError.unexpected_mapSpan (expected : Expected) (t : Token) :
    (unexpected expected t).mapSpan f = unexpected expected (t.mapSpan f) := by
  rw [unexpected, unexpected, Token.mapSpan_kind]
  split <;> rfl

theorem Token.literal_mapSpan (t : Token) :
    (t.mapSpan f).literal = mapResult f (Tree.map f) t.literal := by
  rw [literal, literal, Token.mapSpan_text]
  cases Numeral.toInt64? t.text.toList <;> rfl

namespace Parser

theorem openGroup_mapSpan (groups : List Group) (pending : Pending) (paren : Span) :
    openGroup (groups.map (.mapSpan f)) (pending.mapSpan f) (f paren) =
      mapResult f (mapSpan f) (openGroup groups pending paren) := by
  rw [openGroup, openGroup, List.length_map]
  split <;> rfl

/-- A literal is used in the same way. -/
theorem map_literal_mapSpan {g g' : Node → Parser} (t : Token)
    (h : ∀ operand, g' (operand.map f) = (g operand).mapSpan f) :
    (t.mapSpan f).literal.map g' = mapResult f (mapSpan f) (t.literal.map g) := by
  rw [Token.literal_mapSpan]
  cases t.literal with
  | ok operand => exact congrArg Except.ok (h operand)
  | error e => rfl

theorem feedOperand_mapSpan (hf : Span.Covering f) (groups : List Group) (pending : Pending)
    (t : Token) : feedOperand (groups.map (.mapSpan f)) (pending.mapSpan f) (t.mapSpan f) =
      mapResult f (mapSpan f) (feedOperand groups pending t) := by
  have fill : ∀ operand : Node, (⟨groups.map (.mapSpan f),
      (pending.mapSpan f).fill (operand.map f)⟩ : Parser) =
        mapSpan f ⟨groups, pending.fill operand⟩ := by
    intro operand
    rw [mapSpan, Pending.fill_mapSpan hf]
  rw [feedOperand.eq_def, feedOperand.eq_def, Token.mapSpan_kind]
  split
  · exact openGroup_mapSpan groups pending t.span
  · rfl
  · exact congrArg Except.ok (fill (.var t.text t.span))
  · exact map_literal_mapSpan t fill
  · exact congrArg Except.error (ParseError.unexpected_mapSpan _ t).symm

theorem feedNumber_mapSpan (hf : Span.Covering f) (groups : List Group) (pending : Pending)
    (tilde : Span) (t : Token) :
    feedNumber (groups.map (.mapSpan f)) (pending.mapSpan f) (f tilde) (t.mapSpan f) =
      mapResult f (mapSpan f) (feedNumber groups pending tilde t) := by
  rw [feedNumber.eq_def, feedNumber.eq_def, Token.mapSpan_kind]
  split
  · refine map_literal_mapSpan t fun operand => ?_
    rw [mapSpan, Pending.fill_mapSpan hf, Tree.map, hf, Tree.mark_map]
  · exact congrArg Except.error (ParseError.unexpected_mapSpan _ t).symm

theorem feedChain_mapSpan (hf : Span.Covering f) (groups : List Group) (target : Option Target)
    (tree : Node) (t : Token) :
    feedChain (groups.map (.mapSpan f)) (target.map (.mapSpan f)) (tree.map f) (t.mapSpan f) =
      mapResult f (mapSpan f) (feedChain groups target tree t) := by
  rw [feedChain.eq_def, feedChain.eq_def, Token.mapSpan_kind]
  cases t.kind with
  | binary op => rfl
  | closeParen =>
    cases groups with
    | nil => exact congrArg Except.error (ParseError.unexpected_mapSpan _ t).symm
    | cons group groups =>
      -- the only place where a span is made of two others and put on a tree that has one
      have fill := Pending.fill_mapSpan hf group.outer
        ((statementTree target tree).withMark (group.paren.cover t.span))
      rw [Tree.map_withMark, statementTree_mapSpan hf, hf] at fill
      exact congrArg (fun p => Except.ok (Parser.mk (groups.map (.mapSpan f)) p)) fill.symm
  | _ => exact congrArg Except.error (ParseError.unexpected_mapSpan _ t).symm

/-- A token is read in the same way. -/
theorem feed_mapSpan (hf : Span.Covering f) (p : Parser) (t : Token) :
    (p.mapSpan f).feed (t.mapSpan f) = mapResult f (mapSpan f) (p.feed t) := by
  obtain ⟨groups, progress⟩ := p
  cases progress with
  | start =>
    show (if t.kind = .identifier then _ else _) =
      mapResult f _ (if t.kind = .identifier then _ else _)
    split
    · rfl
    · exact feedOperand_mapSpan hf groups .fresh t
  | name held =>
    show (if t.kind = .equal then _ else _) = mapResult f _ (if t.kind = .equal then _ else _)
    split
    · rfl
    · exact feedChain_mapSpan hf groups none (.var held.text held.span) t
  | operand pending => exact feedOperand_mapSpan hf groups pending t
  | number pending tilde => exact feedNumber_mapSpan hf groups pending tilde t
  | chain target tree => exact feedChain_mapSpan hf groups target tree t

theorem finish_mapSpan (hf : Span.Covering f) (p : Parser) :
    (p.mapSpan f).finish = mapResult f (Tree.map f) p.finish := by
  obtain ⟨groups, progress⟩ := p
  cases progress with
  | chain target tree =>
    cases groups with
    | nil => exact congrArg Except.ok (statementTree_mapSpan hf target tree).symm
    | cons _ _ => rfl
  | _ => cases groups <;> rfl

/-- All tokens are read in the same way. -/
theorem runTokens_mapSpan (hf : Span.Covering f) (p : Parser) (ts : List Token) :
    (p.mapSpan f).runTokens (ts.map (.mapSpan f)) = mapResult f (Tree.map f) (p.runTokens ts) := by
  induction ts generalizing p with
  | nil => exact finish_mapSpan hf p
  | cons t ts ih =>
    rw [List.map_cons, runTokens, runTokens, Token.mapSpan_kind, feed_mapSpan hf]
    split
    · exact finish_mapSpan hf p
    · cases p.feed t with
      | error e => rfl
      | ok q => exact ih q

end Parser

end Bitwise
