import Bitwise.Proofs.Printing

/-!
# The height of parsed trees

Whatever walks a tree, to evaluate it or to write it out, calls itself once for every level of the
tree. What the parentheses contribute to the height of a parsed tree is bounded by the limit on
nesting. But a chain is folded from the left: every operator of a chain adds a level as well, and
there is no limit on the length of a chain.

The height is bounded in terms of both, the nesting and the length of the longest chain
(`height_of_parse`), and not in terms of the nesting alone (`no_height_from_nesting`).
-/

namespace Bitwise

open Unicode (isBlank)

/-! ## Heights -/

namespace Tree

variable {α β : Type}

/-- The number of levels of a tree: how many calls are nested when it is walked. -/
def height : Tree α → Nat
  | literal _ _ | var _ _ => 1
  | complement t _ => t.height + 1
  | binary _ l r _ => max l.height r.height + 1
  | assign _ t _ => t.height + 1

@[simp] theorem height_withMark (t : Tree α) (m : α) : (t.withMark m).height = t.height := by
  cases t <;> rfl

theorem height_map (f : α → β) : (t : Tree α) → (t.map f).height = t.height
  | literal _ _ | var _ _ => rfl
  | complement t _ | assign _ t _ => congrArg Nat.succ (height_map f t)
  | binary _ l r _ => by rw [map, height, height, height_map f l, height_map f r]

theorem height_erase (t : Tree α) : t.erase.height = t.height :=
  height_map _ t

end Tree

namespace Grammar

/-! ## Chains and nesting -/

/-- The number of operators of a chain, apart from those in its operands. -/
def Chain.operators : Chain → Nat
  | .single _ => 0
  | .link left _ _ _ => left.operators + 1

mutual

/-- The number of operators of the longest chain in a statement. -/
def Statement.longestChain : Statement → Nat
  | .assign _ _ _ value => value.longestChain
  | .chain value => value.longestChain

/-- The number of operators of the longest chain in a chain, which may be the chain itself. -/
def Chain.longestChain : Chain → Nat
  | .single operand => operand.longestChain
  | .link left _ _ right => max (left.operators + 1) (max left.longestChain right.longestChain)

/-- The number of operators of the longest chain in an operand. -/
def Operand.longestChain : Operand → Nat
  | .group _ body _ => body.longestChain
  | .complement _ _ _ | .name _ _ | .number _ _ => 0

end

theorem Chain.operators_le_longestChain (c : Chain) : c.operators ≤ c.longestChain := by
  cases c with
  | single operand => exact Nat.zero_le _
  | link left op place right => exact Nat.le_max_left ..

mutual

/-- The most groups of a statement that stand inside each other. -/
def Statement.depth : Statement → Nat
  | .assign _ _ _ value => value.depth
  | .chain value => value.depth

/-- The most groups of a chain that stand inside each other. -/
def Chain.depth : Chain → Nat
  | .single operand => operand.depth
  | .link left _ _ right => max left.depth right.depth

/-- The most groups of an operand that stand inside each other, with the operand itself. -/
def Operand.depth : Operand → Nat
  | .group _ body _ => body.depth + 1
  | .complement _ _ _ | .name _ _ | .number _ _ => 0

end

mutual

/-- No parenthesis is too deep if there is room for all groups inside each other. -/
theorem Statement.tooDeep?_eq_none {room : Nat} :
    (s : Statement) → (tooDeep? room s.tokens = none ↔ s.depth ≤ room)
  | .assign name place equal value => by
    rw [Statement.tokens, tooDeep?_other TokenKind.noConfusion TokenKind.noConfusion,
      tooDeep?_other TokenKind.noConfusion TokenKind.noConfusion]
    exact value.tooDeep?_eq_none
  | .chain value => value.tooDeep?_eq_none

theorem Chain.tooDeep?_eq_none {room : Nat} :
    (c : Chain) → (tooDeep? room c.tokens = none ↔ c.depth ≤ room)
  | .single operand => operand.tooDeep?_eq_none
  | .link left op place right => by
    have balanced : room + opened left.tokens = room + closed left.tokens :=
      congrArg _ left.opened_eq_closed
    rw [Chain.tokens, tooDeep?_append balanced, Option.or_eq_none_iff,
      tooDeep?_other TokenKind.noConfusion TokenKind.noConfusion, left.tooDeep?_eq_none,
      right.tooDeep?_eq_none, Chain.depth, Nat.max_le]

theorem Operand.tooDeep?_eq_none {room : Nat} :
    (o : Operand) → (tooDeep? room o.tokens = none ↔ o.depth ≤ room)
  | .group paren body close => by
    rw [Operand.tokens, Operand.depth]
    cases room with
    | zero =>
      rw [tooDeep?_zero rfl]
      exact iff_of_false (Option.some_ne_none _) (Nat.not_succ_le_zero _)
    | succ room =>
      have balanced : room + opened body.tokens = room + closed body.tokens :=
        congrArg _ body.opened_eq_closed
      have last : tooDeep? room [.sign .closeParen close] = none := rfl
      rw [tooDeep?_succ rfl, tooDeep?_append balanced, last, Option.or_none,
        body.tooDeep?_eq_none, Nat.succ_le_succ_iff]
  | .complement _ _ _ | .name _ _ | .number _ _ => iff_of_true rfl (Nat.zero_le _)

end

/-- The tokens of a statement are nested within a limit exactly if its groups are. -/
theorem Statement.nestedWithin_iff {limit : Nat} (s : Statement) :
    NestedWithin limit s.tokens ↔ s.depth ≤ limit :=
  tooDeep?_eq_none_iff.symm.trans s.tooDeep?_eq_none

/-! ## Bounds -/

mutual

/-- A group adds as many levels as its chain has operators, and one more if it assigns. -/
theorem Statement.height_le {k : Nat} : (s : Statement) → s.longestChain ≤ k →
    s.tree.height ≤ (k + 1) * (s.depth + 1) + 2
  | .assign name place equal value, h => by
    have chain := value.height_le h
    have operators := Nat.le_trans value.operators_le_longestChain h
    rw [Statement.tree, Tree.height, Statement.depth, Nat.mul_succ]
    omega
  | .chain value, h => by
    have chain := value.height_le h
    have operators := Nat.le_trans value.operators_le_longestChain h
    rw [Statement.tree, Statement.depth, Nat.mul_succ]
    omega

/-- The operators of a chain stand above each other, and all of them above its operands. -/
theorem Chain.height_le {k : Nat} : (c : Chain) → c.longestChain ≤ k →
    c.tree.height ≤ c.operators + ((k + 1) * c.depth + 2)
  | .single operand, h => by
    rw [Chain.operators, Nat.zero_add]
    exact operand.height_le h
  | .link left op place right, h => by
    rw [Chain.longestChain, Nat.max_le, Nat.max_le] at h
    have hleft := left.height_le h.2.1
    have hright := right.height_le h.2.2
    have below : (k + 1) * left.depth ≤ (k + 1) * max left.depth right.depth :=
      Nat.mul_le_mul_left _ (Nat.le_max_left ..)
    have beside : (k + 1) * right.depth ≤ (k + 1) * max left.depth right.depth :=
      Nat.mul_le_mul_left _ (Nat.le_max_right ..)
    rw [Chain.tree, Node.combine, Tree.height, Chain.operators, Chain.depth]
    omega

theorem Operand.height_le {k : Nat} : (o : Operand) → o.longestChain ≤ k →
    o.tree.height ≤ (k + 1) * o.depth + 2
  | .group paren body close, h => by
    rw [Operand.tree, Tree.height_withMark]
    exact body.height_le h
  | .complement _ _ _, _ => Nat.le_add_left 2 _
  | .name _ _, _ | .number _ _, _ => Nat.le_add_left_of_le (Nat.le_succ 1)

end

/-- Every operator of a chain has a level of its own. -/
theorem Chain.operators_lt_height : (c : Chain) → c.operators < c.tree.height
  | .single operand => by
    rw [Chain.operators, Chain.tree]
    cases operand.tree <;> exact Nat.succ_pos _
  | .link left op place right =>
    Nat.succ_lt_succ (Nat.lt_of_lt_of_le left.operators_lt_height (Nat.le_max_left ..))

mutual

/-- A tree is higher than any chain is long. -/
theorem Statement.longestChain_lt_height : (s : Statement) → s.longestChain < s.tree.height
  | .assign _ _ _ value => Nat.lt_succ_of_lt value.longestChain_lt_height
  | .chain value => value.longestChain_lt_height

theorem Chain.longestChain_lt_height : (c : Chain) → c.longestChain < c.tree.height
  | .single operand => operand.longestChain_lt_height
  | .link left op place right => by
    have operators := left.operators_lt_height
    have hleft := left.longestChain_lt_height
    have hright := right.longestChain_lt_height
    rw [Chain.longestChain, Chain.tree, Node.combine, Tree.height]
    omega

theorem Operand.longestChain_lt_height : (o : Operand) → o.longestChain < o.tree.height
  | .group paren body close => by
    rw [Operand.tree, Tree.height_withMark]
    exact body.longestChain_lt_height
  | .complement _ _ _ | .name _ _ | .number _ _ => Nat.succ_pos _

end

end Grammar

open Grammar (Statement Chain Operand)

/-- The nesting of a text is that of the statement that it spells. -/
theorem depth_le_of_nestedWithin {source : String} {text gap : List Char} {s : Statement}
    {limit : Nat} (hsource : source.toList = text ++ gap) (hgap : ∀ c ∈ gap, isBlank c = true)
    (hspell : Spelling gap 0 text s.tokens) (h : Text.NestedWithin limit source.toList) :
    s.depth ≤ limit := by
  have parens : source.toList.filter isParen = s.tokens.filterMap Token.paren? :=
    hsource ▸ hspell.filter_isParen_append hgap
  exact s.nestedWithin_iff.1 ((nestedWithin_iff_of_filter parens).1 h)

/-- The height of a parsed tree in terms of the longest chain in the text and of the parentheses
    that are open at once. -/
theorem height_of_parse {source : String} {node : Node} (h : parse source = .ok node) :
    ∃ s : Statement, s.Derives source ∧ s.longestChain < node.height ∧
      ∀ d, Text.NestedWithin d source.toList →
        node.height ≤ (s.longestChain + 1) * (d + 1) + 2 := by
  obtain ⟨s, text, gap, hsource, hgap, hspell, admissible, rfl⟩ := parse_eq_ok_iff_spelling.1 h
  refine ⟨s, derives_of_spelling admissible hsource hgap hspell, s.longestChain_lt_height,
    fun d hd => ?_⟩
  have depth := depth_le_of_nestedWithin hsource hgap hspell hd
  calc s.tree.height ≤ (s.longestChain + 1) * (s.depth + 1) + 2 := s.height_le (Nat.le_refl _)
    _ ≤ (s.longestChain + 1) * (d + 1) + 2 :=
      Nat.add_le_add_right (Nat.mul_le_mul_left _ (Nat.succ_le_succ depth)) 2

/-- Six levels: two assignments, two operators, a complement and its literal. -/
theorem height_of_parse_groups : ∃ s : Statement, s.Derives "x=(y=~1|2)|3" ∧ s.longestChain < 6 ∧
    6 ≤ (s.longestChain + 1) * (1 + 1) + 2 := by
  have parsed : parse "x=(y=~1|2)|3" = .ok (.assign "x" (.binary .or (.assign "y" (.binary .or
      (.complement (.literal 1 ⟨6, 7⟩) ⟨5, 7⟩) (.literal 2 ⟨8, 9⟩) ⟨5, 9⟩) ⟨2, 10⟩)
      (.literal 3 ⟨11, 12⟩) ⟨2, 12⟩) ⟨0, 12⟩) := by
    decide +kernel
  have parens : "x=(y=~1|2)|3".toList.filter isParen =
      (tokenize "x=(y=~1|2)|3").filterMap Token.paren? := by
    decide +kernel
  have nested : NestedWithin 1 (tokenize "x=(y=~1|2)|3") :=
    tooDeep?_eq_none_iff.1 (by decide +kernel)
  obtain ⟨s, derives, longest, bound⟩ := height_of_parse parsed
  exact ⟨s, derives, longest, bound 1 ((nestedWithin_iff_of_filter parens).2 nested)⟩

/-! ## Chains without parentheses -/

/-- The text of a chain of zeros with a number of operators. -/
def flatText : Nat → List Char
  | 0 => "0".toList
  | k + 1 => flatText k ++ ([' '] ++ (BinaryOperator.or.symbol.toList ++ ([' '] ++ "0".toList)))

/-- The expression of such a chain. -/
def flatExpr : Nat → Expr
  | 0 => .literal (Grammar.literalValue "0") ()
  | k + 1 => .binary .or (flatExpr k) (.literal (Grammar.literalValue "0") ()) ()

theorem written_flatText (k : Nat) :
    Written Chain.tokens Chain.expr (flatText k) (flatExpr k) := by
  have zero : Written Operand.tokens Operand.expr "0".toList _ :=
    Grammar.written_number (lexeme_toDigits 0) (by decide)
  induction k with
  | zero => exact Grammar.written_single zero
  | succ k ih => exact Grammar.written_link .or blank_singleton blank_singleton ih zero

theorem height_flatExpr (k : Nat) : (flatExpr k).height = k + 1 := by
  induction k with
  | zero => rfl
  | succ k ih =>
    rw [flatExpr, Tree.height, ih]
    exact congrArg Nat.succ (Nat.max_eq_left (Nat.le_add_left 1 k))

theorem filter_isParen_flatText (k : Nat) : (flatText k).filter isParen = [] := by
  induction k with
  | zero => decide
  | succ k ih =>
    rw [flatText, List.filter_append, ih]
    decide

theorem nestedWithin_flatText (k limit : Nat) : Text.NestedWithin limit (flatText k) :=
  Text.nestedWithin_of_filter_eq_nil (filter_isParen_flatText k)

/-- Chains of any length are parsed, and each operator is a level of the tree. -/
theorem exists_parse_flatText (k : Nat) :
    ∃ node, parse (String.ofList (flatText k)) = .ok node ∧ node.height = k + 1 := by
  have written : Written Statement.tokens Statement.expr (String.ofList (flatText k)).toList
      (flatExpr k) := by
    rw [String.toList_ofList]
    exact Grammar.written_chain (written_flatText k)
  have nested : Text.NestedWithin maxNesting (String.ofList (flatText k)).toList := by
    rw [String.toList_ofList]
    exact nestedWithin_flatText k _
  obtain ⟨node, hnode, hexpr⟩ := exists_parse_of_written written nested
  exact ⟨node, hnode, by rw [← Tree.height_erase, hexpr, height_flatExpr]⟩

/-- The parentheses that are open at once put no bound on the height. -/
theorem no_height_from_nesting : ¬∃ C, ∀ (source : String) (node : Node) (d : Nat),
    parse source = .ok node → d ≤ maxNesting → Text.NestedWithin d source.toList →
      node.height ≤ C * (d + 1) := by
  rintro ⟨C, h⟩
  obtain ⟨node, hnode, hheight⟩ := exists_parse_flatText C
  have nested : Text.NestedWithin 0 (String.ofList (flatText C)).toList := by
    rw [String.toList_ofList]
    exact nestedWithin_flatText C 0
  have bound := h _ node 0 hnode (Nat.zero_le _) nested
  rw [hheight] at bound
  omega

end Bitwise
