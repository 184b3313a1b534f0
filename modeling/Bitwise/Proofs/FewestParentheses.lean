import Bitwise.Proofs.Height

/-!
# Trees with the fewest parentheses

Which trees come from texts, and how many parentheses have to be open at once in such a text. An
operation is written without parentheses as a left operand or as the value of an assignment, but not
as a right operand; an assignment stands in parentheses wherever it is not the whole text or the
whole inside of a group. All other parentheses can be left out (`Tree.terse`).

No text of a tree gets by with fewer, whatever other parentheses it has
(`Grammar.Statement.need_le_depth`). So the trees of texts are, up to their spans, the writable ones
that need no more parentheses at once than may be open (`exists_parse_iff_writable`).
-/

namespace Bitwise

open Grammar (Statement Chain Operand)

/-! ## Roles -/

/-- What a tree is written as: a text of its own, the left of an operator or a value, or the right
    of an operator. -/
inductive Role
  | statement
  | chain
  | operand

/-- A text is written for an expression in a role. -/
def Role.Written (text : List Char) (e : Expr) : Role → Prop
  | .statement => Bitwise.Written Statement.tokens Statement.expr text e
  | .chain => Bitwise.Written Chain.tokens Chain.expr text e
  | .operand => Bitwise.Written Operand.tokens Operand.expr text e

namespace Tree

variable {α β : Type}

/-- Whether a tree stands in parentheses in a role. -/
def wrapped : Role → Tree α → Bool
  | .chain, assign _ _ _ => true
  | .operand, assign _ _ _ => true
  | .operand, binary _ _ _ _ => true
  | _, _ => false

/-- The least number of parentheses that are open at once in a text of the tree. -/
def need : Tree α → Nat
  | literal _ _ | var _ _ | complement _ _ => 0
  | binary _ l r _ =>
    max (l.need + (l.wrapped .chain).toNat) (r.need + (r.wrapped .operand).toNat)
  | assign _ t _ => t.need + (t.wrapped .chain).toNat

/-- The same for the text of the tree in a role. -/
def needAs (role : Role) (t : Tree α) : Nat :=
  t.need + (t.wrapped role).toNat

/-- The text of a tree with no parentheses but those that it needs. -/
def terse : Tree α → String
  | literal v _ => toString v.toInt
  | var x _ => x
  | complement t _ => "~" ++ t.terse
  | binary op l r _ => parenthesizeIf (l.wrapped .chain) l.terse ++ (" " ++ (op.symbol ++ (" " ++
      parenthesizeIf (r.wrapped .operand) r.terse)))
  | assign x t _ => x ++ (" " ++ ("=" ++ (" " ++ parenthesizeIf (t.wrapped .chain) t.terse)))

/-- The text of a tree in a role. -/
def terseAs (role : Role) (t : Tree α) : String :=
  parenthesizeIf (t.wrapped role) t.terse

example : (binary .or (binary .and (assign "x" (literal 1 ()) ()) (literal 2 ()) ())
    (binary .xor (var "y" ()) (complement (literal 3 ()) ()) ()) ()).terse =
    "(x = 1) & 2 | (y ^ ~3)" := by
  rfl

/-! ## Marks are not looked at -/

theorem wrapped_map (role : Role) (f : α → β) (t : Tree α) :
    (t.map f).wrapped role = t.wrapped role := by
  cases role <;> cases t <;> rfl

theorem need_map (f : α → β) : (t : Tree α) → (t.map f).need = t.need
  | literal _ _ | var _ _ | complement _ _ => rfl
  | binary _ l r _ => by
    simp only [map, need, need_map f l, need_map f r, wrapped_map]
  | assign _ t _ => by
    simp only [map, need, need_map f t, wrapped_map]

theorem need_erase (t : Tree α) : t.erase.need = t.need :=
  need_map _ t

theorem writable_map (f : α → β) : (t : Tree α) → ((t.map f).Writable ↔ t.Writable)
  | literal _ _ | var _ _ => Iff.rfl
  | complement t _ => by cases t <;> rfl
  | binary _ l r _ => and_congr (writable_map f l) (writable_map f r)
  | assign _ t _ => and_congr_right fun _ => writable_map f t

theorem writable_erase (t : Tree α) : t.erase.Writable ↔ t.Writable :=
  writable_map _ t

/-- What stands in parentheses in a chain does so as an operand, too. -/
theorem needAs_chain_le_operand (t : Tree α) : t.needAs .chain ≤ t.needAs .operand := by
  refine Nat.add_le_add_left ?_ _
  cases t <;> exact Nat.le_of_ble_eq_true rfl

end Tree

/-! ## Texts need no less -/

namespace Grammar

mutual

/-- The groups of a statement are those that its expression needs, or more. -/
theorem Statement.need_le_depth : (s : Statement) → s.expr.need ≤ s.depth
  | .assign _ _ _ value => value.needAs_le_depth
  | .chain value => Nat.le_trans (Nat.le_add_right _ _) value.needAs_le_depth

theorem Chain.needAs_le_depth : (c : Chain) → c.expr.needAs .chain ≤ c.depth
  | .single operand => Nat.le_trans operand.expr.needAs_chain_le_operand operand.needAs_le_depth
  | .link left _ _ right => by
    have hleft := left.needAs_le_depth
    have hright := right.needAs_le_depth
    exact Nat.max_le.2 ⟨Nat.le_trans hleft (Nat.le_max_left ..),
      Nat.le_trans hright (Nat.le_max_right ..)⟩

theorem Operand.needAs_le_depth : (o : Operand) → o.expr.needAs .operand ≤ o.depth
  | .group _ body _ => Nat.add_le_add body.need_le_depth (Bool.toNat_le _)
  | .complement _ _ _ | .name _ _ | .number _ _ => Nat.zero_le _

end

end Grammar

/-! ## Terse texts -/

/-- A text is balanced if it is written for an expression. -/
theorem balanced_of_written {text : List Char} {e : Expr}
    (h : Written Chain.tokens Chain.expr text e) : Text.Balanced text := by
  obtain ⟨c, spelled, -, -⟩ := h [] apart_nil 0
  exact balanced_of_filter spelled.filter_isParen c.opened_eq_closed

namespace Tree

variable {α : Type}

theorem toList_terse_binary (op : BinaryOperator) (l r : Tree α) (m : α) :
    (binary op l r m).terse.toList = (l.terseAs .chain).toList ++
      ([' '] ++ (op.symbol.toList ++ ([' '] ++ (r.terseAs .operand).toList))) := by
  simp [terse, terseAs]

theorem toList_terse_assign (x : String) (t : Tree α) (m : α) :
    (assign x t m).terse.toList =
      x.toList ++ ([' '] ++ (['='] ++ ([' '] ++ (t.terseAs .chain).toList))) := by
  simp [terse, terseAs]

theorem toList_parenthesizeIf_true (text : String) :
    (parenthesizeIf true text).toList = '(' :: (text.toList ++ [')']) := by
  simp [parenthesizeIf]

/-! ### What they mean -/

/-- What is written for an expression as an operand is so in every role. -/
theorem written_of_operand {text : List Char} {e : Expr}
    (h : Written Operand.tokens Operand.expr text e) : ∀ role : Role, role.Written text e
  | .statement => Grammar.written_chain (Grammar.written_single h)
  | .chain => Grammar.written_single h
  | .operand => h

/-- What is written for an expression as a statement is written as an operand in parentheses. -/
theorem written_parenthesizeIf_true {text : String} {e : Expr}
    (h : Written Statement.tokens Statement.expr text.toList e) :
    Written Operand.tokens Operand.expr (parenthesizeIf true text).toList e := by
  rw [toList_parenthesizeIf_true]
  exact Grammar.written_group (List.forall_mem_nil _) h

/-- A tree that needs no parentheses as an operand needs none in any role. -/
theorem terseAs_eq_terse {t : Tree α} (h : t.wrapped .operand = false) (role : Role) :
    t.terseAs role = t.terse := by
  have unwrapped : t.wrapped role = false := by
    cases t with
    | binary | assign => cases h
    | _ => cases role <;> rfl
  rw [terseAs, unwrapped, parenthesizeIf]

/-- The text of a tree in a role is written for the tree. -/
theorem Writable.written_terseAs : (t : Tree α) → t.Writable →
    ∀ role : Role, role.Written (t.terseAs role).toList t.erase
  | .literal v _, h, role => by
    obtain ⟨digits, htext, hl, hrange, rfl⟩ := exists_digits_of_nonneg h
    rw [terseAs_eq_terse rfl, terse, htext]
    exact written_of_operand (Grammar.written_number hl hrange) role
  | .var _ _, h, role => by
    rw [terseAs_eq_terse rfl]
    exact written_of_operand (Grammar.written_name h) role
  | .complement (.literal v _) _, h, role => by
    obtain ⟨digits, htext, hl, hrange, rfl⟩ := exists_digits_of_nonneg h
    rw [terseAs_eq_terse rfl, terse, terse, htext, String.toList_append]
    exact written_of_operand (Grammar.written_complement hl hrange) role
  | .binary op l r m, h, role => by
    have chain := Grammar.written_link op blank_singleton blank_singleton
      (written_terseAs l h.1 .chain) (written_terseAs r h.2 .operand)
    rw [← toList_terse_binary op l r m] at chain
    cases role with
    | statement => exact Grammar.written_chain chain
    | chain => exact chain
    | operand => exact written_parenthesizeIf_true (Grammar.written_chain chain)
  | .assign x t m, h, role => by
    have statement := Grammar.written_assign h.1 (written_terseAs t h.2 .chain)
    rw [← toList_terse_assign x t m] at statement
    cases role with
    | statement => exact statement
    | chain => exact Grammar.written_single (written_parenthesizeIf_true statement)
    | operand => exact written_parenthesizeIf_true statement

/-! ### How they are nested -/

theorem nestedWithin_parenthesizeIf {text : String} {level limit : Nat} {b : Bool}
    (h : ∀ limit, level ≤ limit → Text.NestedWithin limit text.toList)
    (hlimit : level + b.toNat ≤ limit) :
    Text.NestedWithin limit (parenthesizeIf b text).toList := by
  cases b with
  | false => exact h limit hlimit
  | true =>
    obtain ⟨inside, rfl⟩ := Nat.exists_eq_add_of_lt hlimit
    rw [toList_parenthesizeIf_true, Text.nestedWithin_group]
    exact h _ (Nat.le_add_right _ _)

/-- A text has no more parentheses open at once than its tree needs. -/
theorem Writable.nestedWithin_terse : (t : Tree α) → t.Writable →
    ∀ limit, t.need ≤ limit → Text.NestedWithin limit t.terse.toList
  | .literal v _, h, limit, _ => by
    obtain ⟨digits, htext, hl, -, -⟩ := exists_digits_of_nonneg h
    rw [terse, htext]
    exact Text.nestedWithin_of_filter_eq_nil (hl.filter_isParen 0)
  | .var x _, h, limit, _ => Text.nestedWithin_of_filter_eq_nil (Lexeme.filter_isParen h 0)
  | .complement (.literal v _) _, h, limit, _ => by
    obtain ⟨digits, htext, hl, -, -⟩ := exists_digits_of_nonneg h
    rw [terse, terse, htext, String.toList_append]
    exact Text.nestedWithin_of_filter_eq_nil (hl.filter_isParen 0)
  | .binary op l r m, h, limit, hneed => by
    obtain ⟨hl, hr⟩ := Nat.max_le.1 hneed
    have balanced := balanced_of_written (h.1.written_terseAs l .chain)
    rw [toList_terse_binary,
      Text.nestedWithin_link op balanced blank_singleton blank_singleton]
    exact ⟨nestedWithin_parenthesizeIf (nestedWithin_terse l h.1) hl,
      nestedWithin_parenthesizeIf (nestedWithin_terse r h.2) hr⟩
  | .assign x t m, h, limit, hneed => by
    have parens : (assign x t m).terse.toList.filter isParen =
        (t.terseAs .chain).toList.filter isParen := by
      rw [toList_terse_assign, List.filter_append, h.1.filter_isParen 0]
      rfl
    rw [Text.nestedWithin_congr parens]
    exact nestedWithin_parenthesizeIf (nestedWithin_terse t h.2) hneed

end Tree

/-! ## The trees of texts -/

/-- The tree of a text is writable and needs no more parentheses at once than are open there. -/
theorem need_le_of_parse {source : String} {node : Node} (h : parse source = .ok node) :
    node.Writable ∧ node.need ≤ maxNesting ∧
      ∀ d, Text.NestedWithin d source.toList → node.need ≤ d := by
  obtain ⟨s, text, gap, hsource, hgap, hspell, hs, rfl⟩ := parse_eq_ok_iff_spelling.1 h
  have need : s.tree.need ≤ s.depth := by
    rw [← Tree.need_erase, s.erase_tree]
    exact s.need_le_depth
  exact ⟨writable_of_parse h, Nat.le_trans need (s.nestedWithin_iff.1 hs.nested), fun d hd =>
    Nat.le_trans need (depth_le_of_nestedWithin hsource hgap hspell hd)⟩

/-- A tree is up to its spans what some text is parsed as exactly if it is writable and needs no
    more parentheses at once than may be open. What it needs is indeed the least number that are
    open at once in any such text. -/
theorem exists_parse_iff_writable {α : Type} (t : Tree α) :
    ((∃ source node, parse source = .ok node ∧ node.erase = t.erase) ↔
      t.Writable ∧ t.need ≤ maxNesting) ∧
    ∀ d, (∃ source node, parse source = .ok node ∧ node.erase = t.erase ∧
      Text.NestedWithin d source.toList) ↔ t.Writable ∧ t.need ≤ maxNesting ∧ t.need ≤ d := by
  have sound : ∀ {source : String} {node : Node}, parse source = .ok node →
      node.erase = t.erase → t.Writable ∧ t.need ≤ maxNesting ∧
        ∀ d, Text.NestedWithin d source.toList → t.need ≤ d := by
    intro source node h he
    rw [← t.writable_erase, ← t.need_erase, ← he, node.writable_erase, node.need_erase]
    exact need_le_of_parse h
  have complete : t.Writable → t.need ≤ maxNesting →
      ∃ node, parse t.terse = .ok node ∧ node.erase = t.erase := fun h hneed =>
    exists_parse_of_written (h.written_terseAs t .statement) (h.nestedWithin_terse t _ hneed)
  constructor
  · constructor
    · rintro ⟨source, node, h, he⟩
      exact (sound h he).imp_right And.left
    · rintro ⟨h, hneed⟩
      exact ⟨t.terse, complete h hneed⟩
  · intro d
    constructor
    · rintro ⟨source, node, h, he, hnested⟩
      obtain ⟨hwritable, hneed, hleast⟩ := sound h he
      exact ⟨hwritable, hneed, hleast d hnested⟩
    · rintro ⟨h, hneed, hd⟩
      obtain ⟨node, hnode, he⟩ := complete h hneed
      exact ⟨t.terse, node, hnode, he, h.nestedWithin_terse t d hd⟩

end Bitwise
