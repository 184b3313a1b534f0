import Bitwise.Proofs.Parts

/-!
# Trees mirror their texts

A tree is walked in the order of the text: the left operand, the operator, the right operand; the
sign `~` and then its operand; the name, the equals sign and then the value. What is met on the walk
is exactly what the tokens of the text say, one after the other, when parentheses and the end are
left out (`Grammar.Statement.kept_tokens`).

The spans agree with this. A tree spans its text from the first token to the last, each node lies
within the one above it, and between the spans of two operands stands the token of their operator
and no other (`mirrors_tokens_of_parse`).
-/

namespace Bitwise

open Grammar (Statement Chain Operand literalValue)
open Text (byteLength)

/-! ## Walks -/

/-- What a token says, apart from how it is written. -/
inductive Word
  | name (text : String)
  | number (value : Int)
  | tilde
  | equal
  | operator (op : BinaryOperator)
  deriving DecidableEq

/-- What is met in a tree when it is walked in the order of the text. -/
def Tree.words {α : Type} : Tree α → List Word
  | .literal value _ => [.number value.toInt]
  | .var name _ => [.name name]
  | .complement operand _ => .tilde :: operand.words
  | .binary op left right _ => left.words ++ .operator op :: right.words
  | .assign name value _ => .name name :: .equal :: value.words

theorem Tree.words_withMark {α : Type} (t : Tree α) (m : α) : (t.withMark m).words = t.words := by
  cases t <;> rfl

namespace Token

/-- Whether a token is neither a parenthesis nor the end. -/
def isKept (t : Token) : Bool :=
  match t.kind with
  | .openParen | .closeParen | .endOfInput => false
  | _ => true

/-- What a token says. Parentheses, the end and what is illegal say nothing. -/
def word? (t : Token) : Option Word :=
  match t.kind with
  | .identifier => some (.name t.text)
  | .number => some (.number (Numeral.value t.text.toList))
  | .tilde => some .tilde
  | .equal => some .equal
  | .binary op => some (.operator op)
  | .openParen | .closeParen | .illegal | .endOfInput => none

end Token

/-- What some tokens say, without the parentheses and the end. -/
def keptWords (ts : List Token) : List (Option Word) :=
  (ts.filter Token.isKept).map Token.word?

section

variable {t : Token}

theorem keptWords_append (ts us : List Token) :
    keptWords (ts ++ us) = keptWords ts ++ keptWords us := by
  rw [keptWords, List.filter_append, List.map_append]
  rfl

theorem keptWords_cons_of_isKept (h : t.isKept = true) (ts : List Token) :
    keptWords (t :: ts) = t.word? :: keptWords ts := by
  rw [keptWords, List.filter_cons_of_pos h]
  rfl

theorem keptWords_cons_of_not (h : t.isKept = false) (ts : List Token) :
    keptWords (t :: ts) = keptWords ts := by
  rw [keptWords, List.filter_cons_of_neg (by simp [h])]
  rfl

/-- A number in range says what its literal does. -/
theorem number_literalValue {digits : String} (h : Numeral.value digits.toList < Nat.pow 2 63) :
    Word.number (Numeral.value digits.toList) = .number (literalValue digits).toInt := by
  rw [literalValue, Int64.toInt_ofNat_of_lt h]

end

namespace Grammar

mutual

/-- The walk through the tree of a statement meets what its tokens say. -/
theorem Statement.kept_tokens : (s : Statement) → InRange s.tokens →
    keptWords s.tokens = s.tree.words.map some
  | .assign name place equal value, h => by
    rw [Statement.tokens, keptWords_cons_of_isKept rfl, keptWords_cons_of_isKept rfl,
      value.kept_tokens h.of_cons.of_cons]
    rfl
  | .chain value, h => value.kept_tokens h

theorem Chain.kept_tokens : (c : Chain) → InRange c.tokens →
    keptWords c.tokens = c.tree.words.map some
  | .single operand, h => operand.kept_tokens h
  | .link left op place right, h => by
    rw [Chain.tokens, keptWords_append, keptWords_cons_of_isKept rfl,
      left.kept_tokens h.of_append_left, right.kept_tokens h.of_append_right.of_cons]
    show _ = (left.tree.words ++ Word.operator op :: right.tree.words).map some
    rw [List.map_append]
    rfl

theorem Operand.kept_tokens : (o : Operand) → InRange o.tokens →
    keptWords o.tokens = o.tree.words.map some
  | .group paren body close, h => by
    rw [Operand.tree, Tree.words_withMark, Operand.tokens, keptWords_cons_of_not rfl,
      keptWords_append, keptWords_cons_of_not rfl, body.kept_tokens h.of_cons.of_append_left]
    exact List.append_nil _
  | .complement tilde digits place, h => by
    have number := number_literalValue (h.of_cons _ List.mem_cons_self rfl)
    show [_, some (Word.number _)] = _
    rw [number]
    rfl
  | .name _ _, _ => rfl
  | .number digits place, h => by
    show [some (Word.number _)] = _
    rw [number_literalValue (h _ List.mem_cons_self rfl)]
    rfl

end

end Grammar

/-! ## Spans of spelled tokens -/

section Spans

variable {span a b : Span} {offset : Nat} {text text' rest : List Char} {t : Token}
  {ts : List Token}

theorem Spans.bounds (h : Spans span offset text) :
    offset ≤ span.start ∧ span.start < span.stop ∧ span.stop = offset + byteLength text := by
  obtain ⟨gap, c, cs, rfl, -, -, rfl⟩ := h
  have positive : 0 < byteLength (c :: cs) := Text.byteLength_pos cs
  refine ⟨Nat.le_add_right _ _, ?_, rfl⟩
  show offset + byteLength gap < offset + byteLength (gap ++ c :: cs)
  rw [Text.byteLength_append]
  omega

/-- The head of a text starts where the text does. -/
theorem Spans.start_eq (ha : Spans a offset (text ++ text')) (hb : Spans b offset text) :
    a.start = b.start := by
  obtain ⟨gap, c, cs, htext, hgap, hc, rfl⟩ := ha
  obtain ⟨gap', c', cs', rfl, hgap', hc', rfl⟩ := hb
  rw [List.append_assoc, List.cons_append] at htext
  rw [(append_cons_inj_of_run hgap' hgap hc' hc htext).1]

/-- Tokens stand within what spells them. -/
theorem Spelling.bounds (h : Spelling rest offset text ts) :
    ∀ t ∈ ts, offset ≤ t.span.start ∧ t.span.stop ≤ offset + byteLength text := by
  induction ts generalizing offset text with
  | nil => exact List.forall_mem_nil _
  | cons t ts ih =>
    obtain ⟨text₁, text₂, rfl, hspan, h⟩ := h.exists_cons
    obtain ⟨hstart, -, hstop⟩ := hspan.bounds
    rw [Text.byteLength_append]
    refine List.forall_mem_cons.2 ⟨⟨hstart, by omega⟩, fun u hu => ?_⟩
    have := ih h u hu
    omega

theorem Spelling.start_eq (h : Spelling rest offset text (t :: ts))
    (hspan : Spans span offset text) : span.start = t.span.start := by
  obtain ⟨text₁, text₂, rfl, ht, -⟩ := h.exists_cons
  exact hspan.start_eq ht

/-- No token starts before what spells the tokens. -/
theorem Spelling.start_le (h : Spelling rest offset text ts) (hspan : Spans span offset text) :
    ∀ u ∈ ts, span.start ≤ u.span.start := by
  cases ts with
  | nil => exact List.forall_mem_nil _
  | cons t ts =>
    rw [h.start_eq hspan]
    obtain ⟨text₁, text₂, rfl, ht, h⟩ := h.exists_cons
    obtain ⟨-, hlt, hstop⟩ := ht.bounds
    refine List.forall_mem_cons.2 ⟨Nat.le_refl _, fun u hu => ?_⟩
    have := (h.bounds u hu).1
    omega

theorem Spelling.stop_eq (h : Spelling rest offset text (ts ++ [t]))
    (hspan : Spans span offset text) : span.stop = t.span.stop := by
  obtain ⟨text₁, text₂, rfl, -, ht⟩ := h.exists_append
  rw [hspan.bounds.2.2, ht.spans_singleton.bounds.2.2, Text.add_byteLength_append]

/-- What spells tokens is spanned from the first of them to the last. -/
theorem Spelling.exists_ends (h : Spelling rest offset text ts) (hspan : Spans span offset text) :
    ∃ first ∈ ts.head?, ∃ last ∈ ts.getLast?, span = ⟨first.span.start, last.span.stop⟩ := by
  have hne : ts ≠ [] := by
    rintro rfl
    cases h
    obtain ⟨gap, c, cs, htext, -⟩ := hspan
    exact absurd htext.symm (List.append_ne_nil_of_right_ne_nil gap (List.cons_ne_nil c cs))
  obtain ⟨first, behind, hfirst⟩ := List.exists_cons_of_ne_nil hne
  obtain ⟨before, last, hlast⟩ := (List.eq_nil_or_concat' ts).resolve_left hne
  refine ⟨first, by rw [hfirst]; rfl, last, by rw [hlast]; exact List.getLast?_concat, ?_⟩
  have start : span.start = first.span.start := Spelling.start_eq (hfirst ▸ h) hspan
  have stop : span.stop = last.span.stop := Spelling.stop_eq (hlast ▸ h) hspan
  rw [← start, ← stop]

end Spans

/-! ## Nodes within nodes -/

/-- A span lies within another. -/
def Span.Within (a b : Span) : Prop :=
  b.start ≤ a.start ∧ a.stop ≤ b.stop

namespace Span

variable {a b c : Span}

theorem Within.trans (h : a.Within b) (h' : b.Within c) : a.Within c :=
  ⟨Nat.le_trans h'.1 h.1, Nat.le_trans h.2 h'.2⟩

theorem within_cover_left (a b : Span) : a.Within (a.cover b) :=
  ⟨Nat.min_le_left _ _, Nat.le_max_left _ _⟩

theorem within_cover_right (a b : Span) : b.Within (a.cover b) :=
  ⟨Nat.min_le_right _ _, Nat.le_max_right _ _⟩

end Span

namespace Tree

variable {α : Type}

/-- The nodes just below the root. -/
def children : Tree α → List (Tree α)
  | literal _ _ => []
  | var _ _ => []
  | complement operand _ => [operand]
  | binary _ left right _ => [left, right]
  | assign _ value _ => [value]

theorem children_withMark (t : Tree α) (m : α) : (t.withMark m).children = t.children := by
  cases t <;> rfl

theorem exists_eq_of_withMark_eq {t l r : Tree α} {op : BinaryOperator} {m m' : α}
    (h : t.withMark m' = .binary op l r m) : ∃ m₀, t = .binary op l r m₀ := by
  cases t <;> cases h
  exact ⟨_, rfl⟩

end Tree

/-- All nodes lie within the nodes above them. -/
def Node.Nested (t : Node) : Prop :=
  ∀ n ∈ t.nodes, ∀ c ∈ n.children, c.mark.Within n.mark

/-- Tokens that stand together in a spelling are spelled. -/
theorem Spelling.exists_part {rest text : List Char} {offset : Nat} {ts us : List Token}
    (h : Spelling rest offset text ts) (hpart : us <:+: ts) :
    ∃ rest' offset' text', Spelling rest' offset' text' us := by
  obtain ⟨before, after, rfl⟩ := hpart
  rw [List.append_assoc] at h
  obtain ⟨text₁, _, rfl, -, h⟩ := h.exists_append
  obtain ⟨text₂, text₃, rfl, h, -⟩ := h.exists_append
  exact ⟨_, _, _, h⟩

namespace Grammar

mutual

/-- The nodes just below a root lie within it. -/
theorem Statement.within_tree {rest text : List Char} {offset : Nat} :
    (s : Statement) → Spelling rest offset text s.tokens →
      ∀ c ∈ s.tree.children, c.mark.Within s.tree.mark
  | .assign _ _ _ _, _ => List.forall_mem_singleton.2 (Span.within_cover_right _ _)
  | .chain value, h => value.within_tree h

theorem Chain.within_tree {rest text : List Char} {offset : Nat} :
    (c : Chain) → Spelling rest offset text c.tokens →
      ∀ n ∈ c.tree.children, n.mark.Within c.tree.mark
  | .single operand, h => operand.within_tree h
  | .link _ _ _ _, _ => List.forall_mem_cons.2 ⟨Span.within_cover_left _ _,
      List.forall_mem_singleton.2 (Span.within_cover_right _ _)⟩

theorem Operand.within_tree {rest text : List Char} {offset : Nat} :
    (o : Operand) → Spelling rest offset text o.tokens →
      ∀ c ∈ o.tree.children, c.mark.Within o.tree.mark
  | .group paren body close, h => by
    obtain ⟨text₁, _, rfl, hparen, h⟩ := h.exists_cons
    obtain ⟨text₂, text₃, rfl, hbody, h⟩ := h.exists_append
    have opens : Spans paren offset text₁ := hparen
    have closes : Spans close _ text₃ := h.spans_singleton
    -- what is enclosed begins after one parenthesis and stops before the other
    have inside : body.tree.mark.Within (paren.cover close) := by
      have opens := opens.bounds
      have enclosed := (body.spans hbody).bounds
      have closes := closes.bounds
      refine ⟨Nat.le_trans (Nat.min_le_left _ _) ?_, Nat.le_trans ?_ (Nat.le_max_right _ _)⟩ <;>
        omega
    rw [Operand.tree, Tree.children_withMark, Tree.mark_withMark]
    exact fun c hc => (body.within_tree hbody c hc).trans inside
  | .complement _ _ _, _ => List.forall_mem_singleton.2 (Span.within_cover_right _ _)
  | .name _ _, _ => List.forall_mem_nil _
  | .number _ _, _ => List.forall_mem_nil _

end

theorem Statement.nested_tree {s : Statement} {rest text : List Char} {offset : Nat}
    (h : Spelling rest offset text s.tokens) : Node.Nested s.tree := by
  intro n hn
  obtain ⟨s', hpart, rfl⟩ := s.exists_part n hn
  obtain ⟨_, _, _, hspell⟩ := h.exists_part hpart
  exact s'.within_tree hspell

/-! ## Operators between operands -/

mutual

/-- An operation that a statement is has been read from a chain, perhaps inside parentheses. -/
theorem Statement.exists_link {op : BinaryOperator} {l r : Node} {m : Span} :
    (s : Statement) → s.tree = .binary op l r m → ∃ (left : Chain) (place : Span)
      (right : Operand), (Chain.link left op place right).tokens <:+: s.tokens ∧
        left.tree = l ∧ right.tree = r
  | .assign _ _ _ _, h => by cases h
  | .chain value, h => value.exists_link h

theorem Chain.exists_link {op : BinaryOperator} {l r : Node} {m : Span} :
    (c : Chain) → c.tree = .binary op l r m → ∃ (left : Chain) (place : Span)
      (right : Operand), (Chain.link left op place right).tokens <:+: c.tokens ∧
        left.tree = l ∧ right.tree = r
  | .single operand, h => operand.exists_link h
  | .link left op place right, h => by
    cases h
    exact ⟨left, place, right, List.infix_rfl, rfl, rfl⟩

theorem Operand.exists_link {op : BinaryOperator} {l r : Node} {m : Span} :
    (o : Operand) → o.tree = .binary op l r m → ∃ (left : Chain) (place : Span)
      (right : Operand), (Chain.link left op place right).tokens <:+: o.tokens ∧
        left.tree = l ∧ right.tree = r
  | .group paren body close, h => by
    -- the body is the same operation with another span
    obtain ⟨m', hbody⟩ := Tree.exists_eq_of_withMark_eq h
    obtain ⟨left, place, right, hinfix, hnodes⟩ := body.exists_link hbody
    have inside : body.tokens <:+: (Operand.group paren body close).tokens :=
      ⟨[.sign .openParen paren], [.sign .closeParen close], rfl⟩
    exact ⟨left, place, right, hinfix.trans inside, hnodes⟩
  | .complement _ _ _, h => by cases h
  | .name _ _, h => by cases h
  | .number _ _, h => by cases h

end

end Grammar

/-- A token is that of an operator between two operands, with the tokens before it and after it. -/
structure Separates (before : List Token) (t : Token) (after : List Token) (op : BinaryOperator)
    (l r : Node) : Prop where
  kind : t.kind = .binary op
  /-- The left operand stops before the token starts. -/
  left : l.mark.stop ≤ t.span.start
  /-- The right operand starts after the token stops. -/
  right : t.span.stop ≤ r.mark.start
  /-- No other token stands between the operands. -/
  noneBefore : ∀ u ∈ before, u.span.stop ≤ l.mark.stop
  noneAfter : ∀ u ∈ after, r.mark.start ≤ u.span.start
  /-- The walks through the operands meet what is said just before the token and just after it. -/
  leftWords : l.words.map some <:+ keptWords before
  rightWords : r.words.map some <+: keptWords after

/-- The token of a link stands between the operands that it links. -/
theorem Spelling.exists_separates {rest text : List Char} {offset : Nat} {ts : List Token}
    {left : Chain} {op : BinaryOperator} {place : Span} {right : Operand} {last : Token}
    (h : Spelling rest offset text ts) (hrange : InRange ts)
    (hlink : (Chain.link left op place right).tokens <:+: ts)
    (hlast : offset + byteLength text ≤ last.span.start) :
    ∃ before t after, ts ++ [last] = before ++ t :: after ∧
      Separates before t after op left.tree right.tree := by
  obtain ⟨before, after, rfl⟩ := hlink
  have parts : before ++ (Chain.link left op place right).tokens ++ after =
      (before ++ left.tokens) ++ (.sign (.binary op) place :: (right.tokens ++ after)) := by
    simp [Chain.tokens]
  rw [parts] at h hrange ⊢
  obtain ⟨text₁, _, rfl, hbefore, h⟩ := h.exists_append
  obtain ⟨text₂, _, rfl, hsign, h⟩ := h.exists_cons
  obtain ⟨text₃, text₄, rfl, hright, hafter⟩ := h.exists_append
  have above := hbefore.bounds
  have below := hafter.bounds
  obtain ⟨text₀, text₁, rfl, -, hleft⟩ := hbefore.exists_append
  have leftSpan := (left.spans hleft).bounds
  have sign : Spans place _ text₂ := hsign
  have signSpan := sign.bounds
  have rightSpan := (right.spans hright).bounds
  simp only [Text.byteLength_append] at above below leftSpan signSpan rightSpan hlast
  refine ⟨before ++ left.tokens, .sign (.binary op) place, right.tokens ++ after ++ [last],
    by simp, ?_⟩
  constructor
  case kind => rfl
  case left =>
    show left.tree.mark.stop ≤ place.start
    omega
  case right =>
    show place.stop ≤ right.tree.mark.start
    omega
  case noneBefore =>
    intro u hu
    have := above u hu
    omega
  case noneAfter =>
    refine List.forall_mem_append.2 ⟨List.forall_mem_append.2 ⟨?_, fun u hu => ?_⟩, ?_⟩
    · exact hright.start_le (right.spans hright)
    · have := below u hu
      omega
    · refine List.forall_mem_singleton.2 ?_
      omega
  case leftWords =>
    rw [keptWords_append, left.kept_tokens hrange.of_append_left.of_append_right]
    exact List.suffix_append _ _
  case rightWords =>
    rw [keptWords_append, keptWords_append,
      right.kept_tokens hrange.of_append_right.of_cons.of_append_left, List.append_assoc]
    exact List.prefix_append _ _

/-- How a tree mirrors the tokens of its text. -/
structure MirrorsTokens (source : String) (root : Node) : Prop where
  /-- The walk through the tree meets what the tokens say, all of them and in their order. -/
  words : keptWords (tokenize source) = root.words.map some
  /-- The root spans from the first token to the last before the end. -/
  span : ∃ first ∈ (tokenize source).head?,
    ∃ last ∈ ((tokenize source).filter fun t => t.kind ≠ .endOfInput).getLast?,
      root.mark = ⟨first.span.start, last.span.stop⟩
  /-- Nodes lie within the nodes above them. -/
  nested : root.Nested
  /-- The token of each operator stands between its operands. -/
  operator : ∀ op l r m, .binary op l r m ∈ root.nodes → ∃ before t after,
    tokenize source = before ++ t :: after ∧ Separates before t after op l r

/-- A parsed tree mirrors the tokens of its text. -/
theorem mirrors_tokens_of_parse {source : String} {root : Node} (h : parse source = .ok root) :
    MirrorsTokens source root := by
  obtain ⟨s, text, gap, hsource, hgap, spelled, admissible, rfl⟩ := parse_eq_ok_iff_spelling.1 h
  have tokens := tokenize_of_spelling hsource hgap spelled
  have legal : ∀ t ∈ s.tokens, decide (t.kind ≠ .endOfInput) = true := fun t ht =>
    decide_eq_true (Parser.kind_ne_endOfInput_of_isLast (spelled.isLast_eq_false t ht))
  constructor
  · rw [tokens, keptWords_append, s.kept_tokens admissible.inRange]
    exact List.append_nil _
  · obtain ⟨first, hfirst, last, hlast, hspan⟩ := spelled.exists_ends (s.spans spelled)
    refine ⟨first, ?_, last, ?_, hspan⟩
    · rw [tokens, List.head?_append, hfirst]
      rfl
    · rw [tokens, List.filter_append, List.filter_eq_self.2 legal]
      exact (congrArg List.getLast? (List.append_nil _)).trans hlast
  · exact Statement.nested_tree spelled
  · intro op l r m hmem
    obtain ⟨s', hpart, htree⟩ := s.exists_part _ hmem
    obtain ⟨left, place, right, hlink, rfl, rfl⟩ := s'.exists_link htree
    rw [tokens]
    refine spelled.exists_separates admissible.inRange (hlink.trans hpart) ?_
    show 0 + byteLength text ≤ 0 + byteLength (text ++ gap)
    rw [Text.byteLength_append]
    omega

/-- An assignment in parentheses, and a complement behind an operator. -/
theorem mirrors_tokens_of_group : parse "~5&(y=2)" = .ok (.binary .and
      (.complement (.literal 5 ⟨1, 2⟩) ⟨0, 2⟩) (.assign "y" (.literal 2 ⟨6, 7⟩) ⟨3, 8⟩) ⟨0, 8⟩) ∧
    keptWords (tokenize "~5&(y=2)") = [some .tilde, some (.number 5), some (.operator .and),
      some (.name "y"), some .equal, some (.number 2)] := by
  have parsed : parse "~5&(y=2)" = .ok (.binary .and (.complement (.literal 5 ⟨1, 2⟩) ⟨0, 2⟩)
      (.assign "y" (.literal 2 ⟨6, 7⟩) ⟨3, 8⟩) ⟨0, 8⟩) := by
    decide +kernel
  exact ⟨parsed, (mirrors_tokens_of_parse parsed).words⟩

end Bitwise
