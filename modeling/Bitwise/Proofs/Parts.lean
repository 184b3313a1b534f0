import Bitwise.Proofs.Acceptance
import Bitwise.Proofs.Relocation

/-!
# Nodes are texts

Every node of a parsed tree is itself what the part of the text at its span is parsed as
(`subtext_of_parse`). There are two reasons. A node is the tree of a statement whose tokens stand
together among those of the text (`Grammar.Statement.exists_part`), although it may be the left part
of a chain or the inside of a group whose span has been widened. And the span of the tree of a
statement is the text that spells it, but for blanks before (`Grammar.Statement.spans`), so that the
tokens of the part are the same when it stands alone.
-/

namespace Bitwise

open Grammar (Statement)
open Text (byteLength)
open Unicode (isBlank)

/-! ## Nodes -/

/-- The nodes of a tree, each as the tree below it. The root comes first. -/
def Tree.nodes {α : Type} : Tree α → List (Tree α)
  | .literal v m => [.literal v m]
  | .var x m => [.var x m]
  | .complement t m => .complement t m :: t.nodes
  | .binary op l r m => .binary op l r m :: (l.nodes ++ r.nodes)
  | .assign x t m => .assign x t m :: t.nodes

theorem Tree.mark_withMark {α : Type} (t : Tree α) (m : α) : (t.withMark m).mark = m := by
  cases t <;> rfl

/-- Another mark on the root changes the root only. -/
theorem Tree.mem_nodes_withMark {α : Type} {t n : Tree α} {m : α} (h : n ∈ (t.withMark m).nodes) :
    n = t.withMark m ∨ n ∈ t.nodes := by
  cases t with
  | literal v _ => exact .inl (List.mem_singleton.1 h)
  | var x _ => exact .inl (List.mem_singleton.1 h)
  | complement t _ => exact (List.mem_cons.1 h).imp id (List.mem_cons_of_mem _)
  | binary op l r _ => exact (List.mem_cons.1 h).imp id (List.mem_cons_of_mem _)
  | assign x t _ => exact (List.mem_cons.1 h).imp id (List.mem_cons_of_mem _)

namespace Grammar

/-- The statement that is one operand. -/
def Operand.statement (o : Operand) : Statement :=
  .chain (.single o)

mutual

/-- A node of the tree of a statement is the tree of a statement inside. -/
theorem Statement.exists_part :
    (s : Statement) → ∀ n ∈ s.tree.nodes, ∃ s' : Statement, s'.tokens <:+: s.tokens ∧ s'.tree = n
  | .chain value, n, h => value.exists_part n h
  | .assign name place equal value, n, h => by
    rcases List.mem_cons.1 h with rfl | h
    · exact ⟨.assign name place equal value, List.infix_rfl, rfl⟩
    · obtain ⟨s', hinfix, hn⟩ := value.exists_part n h
      exact ⟨s', hinfix.trans (List.suffix_append [_, _] value.tokens).isInfix, hn⟩

theorem Chain.exists_part :
    (c : Chain) → ∀ n ∈ c.tree.nodes, ∃ s' : Statement, s'.tokens <:+: c.tokens ∧ s'.tree = n
  | .single operand, n, h => operand.exists_part n h
  | .link left op place right, n, h => by
    rcases List.mem_cons.1 h with rfl | h
    · exact ⟨.chain (.link left op place right), List.infix_rfl, rfl⟩
    rcases List.mem_append.1 h with h | h
    · obtain ⟨s', hinfix, hn⟩ := left.exists_part n h
      exact ⟨s', hinfix.trans (List.prefix_append _ _).isInfix, hn⟩
    · obtain ⟨s', hinfix, hn⟩ := right.exists_part n h
      have behind : right.tokens <:+ (Chain.link left op place right).tokens :=
        (List.suffix_cons _ _).trans (List.suffix_append _ _)
      exact ⟨s', hinfix.trans behind.isInfix, hn⟩

theorem Operand.exists_part :
    (o : Operand) → ∀ n ∈ o.tree.nodes, ∃ s' : Statement, s'.tokens <:+: o.tokens ∧ s'.tree = n
  | .group paren body close, n, h => by
    -- the root spans the parentheses, and the nodes below it are those of the body
    rcases Tree.mem_nodes_withMark h with rfl | h
    · exact ⟨(Operand.group paren body close).statement, List.infix_rfl, rfl⟩
    · obtain ⟨s', hinfix, hn⟩ := body.exists_part n h
      have inside : body.tokens <:+: (Operand.group paren body close).tokens :=
        ⟨[.sign .openParen paren], [.sign .closeParen close], rfl⟩
      exact ⟨s', hinfix.trans inside, hn⟩
  | .complement tilde digits place, n, h => by
    rcases List.mem_cons.1 h with rfl | h
    · exact ⟨(Operand.complement tilde digits place).statement, List.infix_rfl, rfl⟩
    · have number : n = (Operand.number digits place).tree := List.mem_singleton.1 h
      exact ⟨(Operand.number digits place).statement, (List.suffix_cons _ _).isInfix, number.symm⟩
  | .name text place, n, h =>
    ⟨(Operand.name text place).statement, List.infix_rfl, (List.mem_singleton.1 h).symm⟩
  | .number digits place, n, h =>
    ⟨(Operand.number digits place).statement, List.infix_rfl, (List.mem_singleton.1 h).symm⟩

end

end Grammar

/-! ## Spans of statements -/

/-- A span is that of a text at an offset, without the blanks before it. -/
def Spans (span : Span) (offset : Nat) (text : List Char) : Prop :=
  ∃ gap c cs, text = gap ++ c :: cs ∧ (∀ d ∈ gap, isBlank d = true) ∧ isBlank c = false ∧
    span = ⟨offset + byteLength gap, offset + byteLength text⟩

section Spans

variable {span a b : Span} {offset : Nat} {text text' mid rest : List Char} {t : Token}
  {ts : List Token}

/-- A text without blanks before it is spanned as a whole. -/
theorem Spans.eq_of_head (h : Spans span offset text)
    (hhead : ∀ c ∈ text.head?, isBlank c = false) : span = ⟨offset, offset + byteLength text⟩ := by
  obtain ⟨gap, c, cs, rfl, hgap, -, rfl⟩ := h
  cases gap with
  | nil => rfl
  | cons d gap =>
    have blank := hgap d List.mem_cons_self
    rw [hhead d rfl] at blank
    simp at blank

/-- The spans of two pieces of a text cover all that is between them. -/
theorem Spans.cover (ha : Spans a offset text)
    (hb : Spans b (offset + byteLength text + byteLength mid) text') :
    Spans (a.cover b) offset (text ++ (mid ++ text')) := by
  obtain ⟨gap, c, cs, rfl, hgap, hc, rfl⟩ := ha
  obtain ⟨gap', c', cs', rfl, -, -, rfl⟩ := hb
  refine ⟨gap, c, cs ++ (mid ++ (gap' ++ c' :: cs')), ?_, hgap, hc, ?_⟩
  · rw [List.append_assoc, List.cons_append]
  · simp only [Span.cover, Text.byteLength_append, Span.mk.injEq]
    omega

/-- The spelling of the first token can be told from what spells the others. -/
theorem Spelling.exists_cons (h : Spelling rest offset text (t :: ts)) :
    ∃ text₁ text₂, text = text₁ ++ text₂ ∧ Spans t.span offset text₁ ∧
      Spelling rest (offset + byteLength text₁) text₂ ts := by
  cases h with
  | @cons _ gap lexeme text kind _ hgap hl he h =>
    obtain ⟨c, cs, rfl⟩ := List.exists_cons_of_ne_nil hl.ne_nil
    have span : Spans ⟨offset + byteLength gap, offset + byteLength gap + byteLength (c :: cs)⟩
        offset (gap ++ c :: cs) := by
      refine ⟨gap, c, cs, rfl, hgap, hl.isBlank_head c rfl, ?_⟩
      rw [Text.add_byteLength_append]
    refine ⟨gap ++ c :: cs, text, (List.append_assoc ..).symm, span, ?_⟩
    rwa [Text.add_byteLength_append]

/-- One token spans all that spells it. -/
theorem Spelling.spans_singleton (h : Spelling rest offset text [t]) :
    Spans t.span offset text := by
  obtain ⟨text₁, text₂, rfl, hspan, h⟩ := h.exists_cons
  cases h
  rwa [List.append_nil]

end Spans

namespace Grammar

mutual

/-- The tree of a statement spans what spells the statement. -/
theorem Statement.spans {rest text : List Char} {offset : Nat} :
    (s : Statement) → Spelling rest offset text s.tokens → Spans s.tree.mark offset text
  | .chain value, h => value.spans h
  | .assign name place equal value, h => by
    obtain ⟨text₁, _, rfl, hname, h⟩ := h.exists_cons
    obtain ⟨text₂, text₃, rfl, -, h⟩ := h.exists_cons
    exact hname.cover (value.spans h)

theorem Chain.spans {rest text : List Char} {offset : Nat} :
    (c : Chain) → Spelling rest offset text c.tokens → Spans c.tree.mark offset text
  | .single operand, h => operand.spans h
  | .link left op place right, h => by
    obtain ⟨text₁, _, rfl, hleft, h⟩ := h.exists_append
    obtain ⟨text₂, text₃, rfl, -, h⟩ := h.exists_cons
    exact (left.spans hleft).cover (right.spans h)

theorem Operand.spans {rest text : List Char} {offset : Nat} :
    (o : Operand) → Spelling rest offset text o.tokens → Spans o.tree.mark offset text
  | .group paren body close, h => by
    obtain ⟨text₁, _, rfl, hparen, h⟩ := h.exists_cons
    obtain ⟨text₂, text₃, rfl, -, h⟩ := h.exists_append
    rw [Operand.tree, Tree.mark_withMark]
    exact hparen.cover h.spans_singleton
  | .complement tilde digits place, h => by
    obtain ⟨text₁, text₂, rfl, htilde, h⟩ := h.exists_cons
    show Spans _ offset (text₁ ++ ([] ++ text₂))
    exact htilde.cover h.spans_singleton
  | .name _ _, h => h.spans_singleton
  | .number _ _, h => h.spans_singleton

end

/-- The span of the tree of a statement is that of the text that spells the statement, when the
    blanks before it are left out. -/
theorem Statement.exists_piece {s : Statement} {rest text : List Char} {offset : Nat}
    (h : Spelling rest offset text s.tokens) :
    ∃ gap c cs, text = gap ++ c :: cs ∧ Spelling rest (offset + byteLength gap) (c :: cs) s.tokens ∧
      s.tree.mark =
        ⟨offset + byteLength gap, offset + byteLength gap + byteLength (c :: cs)⟩ := by
  obtain ⟨_, c, cs, htext, -⟩ := s.spans h
  cases hts : s.tokens with
  | nil =>
    rw [hts] at h
    cases h
    exact absurd htext.symm (List.append_ne_nil_of_right_ne_nil _ (List.cons_ne_nil c cs))
  | cons t ts =>
    rw [hts] at h
    obtain ⟨gap, piece, rfl, -, hhead, tight⟩ := h.exists_gap
    obtain ⟨d, ds, rfl⟩ := List.exists_cons_of_ne_nil tight.ne_nil_of_cons
    have span : s.tree.mark = _ := (s.spans (hts.symm ▸ tight)).eq_of_head hhead
    exact ⟨gap, d, ds, rfl, tight, span⟩

/-! ## Parts of admissible statements -/

theorem Statement.Admissible.of_infix {s s' : Statement} (hs : s.Admissible)
    (h : s'.tokens <:+: s.tokens) : s'.Admissible := by
  obtain ⟨before, after, parts⟩ := h
  constructor
  · obtain ⟨q, hq, -⟩ := hs.exists_feedAll
    rw [← parts, List.append_assoc] at hq
    obtain ⟨r, hr, -⟩ := Parser.exists_feedAll_of_append hq
    -- what stands before the part closes no more than it opens
    obtain ⟨-, hopen, -⟩ := Parser.nested_of_feedAll hr
    intro read hread
    have whole := hs.nested (before ++ read)
    rw [← parts, List.append_assoc, List.prefix_append_right_inj, opened_append,
      closed_append] at whole
    have := whole (hread.trans (List.prefix_append _ _))
    omega
  · have inRange := hs.inRange
    rw [← parts] at inRange
    exact inRange.of_append_left.of_append_right

end Grammar

/-! ## Parts of texts -/

/-- What spells an admissible statement somewhere in a text can be parsed alone, and makes the same
    tree at the start of a text. -/
theorem exists_parse_of_spelling {s : Statement} {rest text : List Char} {distance : Nat}
    (hs : s.Admissible) (h : Spelling rest distance text s.tokens) :
    ∃ node, parse (String.ofList text) = .ok node ∧ s.tree = node.map (Span.raise distance) := by
  rw [← Nat.zero_add distance] at h
  obtain ⟨ts, hts, hspell⟩ := h.exists_map_raise
  have alone : Spelling [] 0 text ts :=
    hspell.congr_rest fun _ h => absurd h (Option.not_mem_none _)
  have scanned := alone.tokensAt_append
  rw [List.append_nil, tokensAt_nil] at scanned
  -- the tokens of the part alone are run to a result that is the known one when it is moved
  have moved := Parser.runTokens_mapSpan (Span.covering_raise distance) .initial
    (ts ++ [.atEnd (0 + byteLength text)])
  rw [List.map_append, ← hts] at moved
  have read : ParseError.mapResult _ _ _ = _ := moved.symm.trans (hs.runTokens _)
  rw [parse_eq_runTokens, String.toList_ofList, scanned]
  cases hrun : Parser.initial.runTokens (ts ++ [.atEnd (0 + byteLength text)]) with
  | error e =>
    rw [hrun] at read
    cases read
  | ok node =>
    rw [hrun] at read
    exact ⟨node, rfl, (Except.ok.inj read).symm⟩

/-- A node of a parsed tree has the span of a part of the text, and is what the part is parsed as,
    moved to where the part stands. -/
theorem subtext_of_parse {source : String} {root : Node} (h : parse source = .ok root) :
    ∀ n ∈ root.nodes, n.mark.start < n.mark.stop ∧ ∃ before piece after,
      Text.Cut source.toList n.mark before piece after ∧ ∃ node,
      parse (String.ofList piece) = .ok node ∧ n = node.map (Span.raise n.mark.start) := by
  intro n hn
  obtain ⟨s, text, gap, hsource, hgap, hspell, hs, rfl⟩ := parse_eq_ok_iff_spelling.1 h
  obtain ⟨s', hinfix, rfl⟩ := s.exists_part n hn
  have hs' := hs.of_infix hinfix
  obtain ⟨before, after, parts⟩ := hinfix
  rw [← parts, List.append_assoc] at hspell
  -- the text is cut before and after the tokens of the part, and then before its first lexeme
  obtain ⟨text₁, _, rfl, -, hspell⟩ := hspell.exists_append
  obtain ⟨text₂, text₃, rfl, hspell, -⟩ := hspell.exists_append
  obtain ⟨blanks, c, cs, rfl, tight, hmark⟩ := Statement.exists_piece hspell
  obtain ⟨node, hnode, hmoved⟩ := exists_parse_of_spelling hs' tight
  rw [hmark]
  refine ⟨Nat.lt_add_of_pos_right (Text.byteLength_pos cs), text₁ ++ blanks, c :: cs, text₃ ++ gap,
    ⟨?_, ?_, ?_⟩, node, hnode, hmoved⟩
  · rw [hsource]
    simp
  · rw [Text.byteLength_append, Nat.zero_add]
  · rw [Text.byteLength_append, Nat.zero_add]

/-- The left part of a chain stands alone. -/
theorem subtext_of_parse_left_part :
    ∃ before piece after, Text.Cut " 1&~2|x".toList ⟨1, 5⟩ before piece after ∧ ∃ node,
      parse (String.ofList piece) = .ok node ∧
      .binary .and (.literal 1 ⟨1, 2⟩) (.complement (.literal 2 ⟨4, 5⟩) ⟨3, 5⟩) ⟨1, 5⟩ =
        node.map (Span.raise 1) := by
  have parsed : parse " 1&~2|x" = .ok (.binary .or (.binary .and (.literal 1 ⟨1, 2⟩)
      (.complement (.literal 2 ⟨4, 5⟩) ⟨3, 5⟩) ⟨1, 5⟩) (.var "x" ⟨6, 7⟩) ⟨1, 7⟩) := by
    decide +kernel
  exact (subtext_of_parse parsed _ (List.mem_cons_of_mem _ List.mem_cons_self)).2

end Bitwise
