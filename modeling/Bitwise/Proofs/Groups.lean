import Bitwise.Proofs.Composition
import Bitwise.Proofs.Spacing

/-!
# Texts in groups

Two texts that can be parsed are put together: each in parentheses, with an operator between them
(`grouped`). The trees of the two texts become the operands of the operation, and the value of the
whole is found by evaluating the one text after the other (`evalInTurn`), in the environment that it
leaves behind.

The parentheses take up one level of nesting. A text that uses all the levels there are can be
parsed alone but not in a group (`groups_compose`).
-/

namespace Bitwise

open Grammar (Statement Chain Operand)
open Unicode (isBlank)

/-- Two texts in parentheses with an operator between them. -/
def grouped (op : BinaryOperator) (source source' : String) : String :=
  "(" ++ source ++ ")" ++ op.symbol ++ "(" ++ source' ++ ")"

/-- Evaluates a text, then another one, and operates on the two values. -/
def evalInTurn (op : BinaryOperator) (source source' : String) :
    EStateM StatementError Environment Int64 := do
  let a ← evalText source
  let b ← evalText source'
  return op.apply a b

/-! ## Parsing -/

namespace Grammar

variable {s s' : Statement} {source source' : String}

/-- What spells a statement is written for what the statement means. -/
theorem Statement.written {rest text : List Char} (h : Spelling rest 0 text s.tokens)
    (hrange : InRange s.tokens) : Written Statement.tokens Statement.expr text s.expr := by
  intro rest' hrest' offset
  refine ⟨s.mapSpan (Span.raise offset), ?_, ?_, s.expr_mapSpan _⟩
  · rw [s.tokens_mapSpan]
    exact h.relocate hrest' offset
  · rw [s.tokens_mapSpan]
    exact hrange.map _

/-- A text in parentheses is written for what it means without them. -/
theorem Statement.Derives.written_group (h : s.Derives source) :
    Written Operand.tokens Operand.expr ('(' :: (source.toList ++ [')'])) s.expr := by
  obtain ⟨text, gap, hsource, hgap, hspell⟩ := h.exists_spelling
  rw [hsource, List.append_assoc]
  exact Grammar.written_group hgap (Statement.written hspell h.admissible.inRange)

theorem Statement.Derives.balanced (h : s.Derives source) : Text.Balanced source.toList := by
  obtain ⟨text, gap, hsource, hgap, hspell⟩ := h.exists_spelling
  rw [hsource]
  exact balanced_of_filter (hspell.filter_isParen_append hgap) s.opened_eq_closed

end Grammar

theorem Text.Balanced.group {cs : List Char} (h : Text.Balanced cs) :
    Text.Balanced ('(' :: (cs ++ [')'])) := by
  rw [Balanced] at h ⊢
  simp [h]

/-- No blanks stand around the operator. -/
theorem toList_grouped (op : BinaryOperator) (source source' : String) :
    (grouped op source source').toList = '(' :: (source.toList ++ [')']) ++
      ([] ++ (op.symbol.toList ++ ([] ++ '(' :: (source'.toList ++ [')'])))) := by
  simp [grouped]

section Grouped

variable {s s' : Statement} {source source' : String}

/-- Two texts in groups are written for the operation on what they mean. -/
theorem written_grouped (h : s.Derives source) (h' : s'.Derives source') (op : BinaryOperator) :
    Written Statement.tokens Statement.expr (grouped op source source').toList
      (.binary op s.expr s'.expr ()) := by
  rw [toList_grouped]
  exact Grammar.written_chain (Grammar.written_link op (List.forall_mem_nil _)
    (List.forall_mem_nil _) (Grammar.written_single h.written_group) h'.written_group)

/-- They are nested one level deeper than alone. -/
theorem nestedWithin_grouped {limit : Nat} (h : Text.Balanced source.toList)
    (op : BinaryOperator) : Text.NestedWithin (limit + 1) (grouped op source source').toList ↔
      Text.NestedWithin limit source.toList ∧ Text.NestedWithin limit source'.toList := by
  rw [toList_grouped, Text.nestedWithin_link op h.group (List.forall_mem_nil _)
    (List.forall_mem_nil _), Text.nestedWithin_group, Text.nestedWithin_group]

end Grouped

/-! ## Evaluating -/

/-- Evaluating the operation on two trees is evaluating their texts in turn. -/
theorem run_evalInTurn {source source' : String} {l r : Node} (h : parse source = .ok l)
    (h' : parse source' = .ok r) (op : BinaryOperator) (span : Span) (env : Environment) :
    (evalInTurn op source source').run env =
      EvalResult.ofText ((Node.eval (.binary op l r span)).run env) := by
  rw [evalInTurn, EStateM.run_bind, evalText_of_ok h, Node.eval, EStateM.run_bind]
  cases (Node.eval l).run env with
  | error e env' => rfl
  | ok a env' =>
    simp only [EvalResult.ofText, EStateM.run_bind, evalText_of_ok h']
    cases (Node.eval r).run env' <;> rfl

/-- Texts in groups are parsed as the operands of an operation, and evaluated in turn, if each of
    them leaves a level of nesting. If not, the whole has a parenthesis too deep. -/
theorem groups_compose {source source' : String} {l r : Node} (h : parse source = .ok l)
    (h' : parse source' = .ok r) (op : BinaryOperator) :
    (Text.NestedWithin 255 source.toList ∧ Text.NestedWithin 255 source'.toList →
      (∃ node, parse (grouped op source source') = .ok node ∧
        node.erase = .binary op l.erase r.erase ()) ∧
      ∀ env, EvaluatedAlike ((evalText (grouped op source source')).run env)
        ((evalInTurn op source source').run env)) ∧
    (¬(Text.NestedWithin 255 source.toList ∧ Text.NestedWithin 255 source'.toList) →
      ∃ paren, parse (grouped op source source') = .error (.tooDeep paren)) := by
  obtain ⟨s, hs, rfl⟩ := exists_derives_of_parse h
  obtain ⟨s', hs', rfl⟩ := exists_derives_of_parse h'
  have written := written_grouped hs hs' op
  rw [← s.erase_tree, ← s'.erase_tree] at written
  rw [← nestedWithin_grouped hs.balanced op]
  constructor
  · intro hnested
    obtain ⟨node, parsed, hnode⟩ := exists_parse_of_written written hnested
    refine ⟨⟨node, parsed, hnode⟩, fun env => ?_⟩
    rw [evalText_of_ok parsed, run_evalInTurn h h' op (.point 0)]
    exact evaluatedAlike_of_erase hnode env
  · intro hnested
    obtain ⟨before, after, -, -, -, failed⟩ := exists_tooDeep_of_written written hnested
    exact ⟨_, failed⟩

/-- What the first text assigns is read by the second: 1 and 1 | -3, which is -3, come to 1. -/
theorem groups_compose_of_assignment :
    (∃ node, parse (grouped .and "x=1 " "x|~2") = .ok node ∧
      node.erase = .binary .and (.assign "x" (.literal 1 ()) ())
        (.binary .or (.var "x" ()) (.complement (.literal 2 ()) ()) ()) ()) ∧
    (∀ env, EvaluatedAlike ((evalText (grouped .and "x=1 " "x|~2")).run env)
      ((evalInTurn .and "x=1 " "x|~2").run env)) ∧
    (evalText (grouped .and "x=1 " "x|~2")).run (.ofList [("x", 7), ("y", 2)]) =
      .ok 1 (.ofList [("x", 1), ("y", 2)]) := by
  have first : parse "x=1 " = .ok (.assign "x" (.literal 1 ⟨2, 3⟩) ⟨0, 3⟩) := by
    decide +kernel
  have second : parse "x|~2" = .ok (.binary .or (.var "x" ⟨0, 1⟩)
      (.complement (.literal 2 ⟨3, 4⟩) ⟨2, 4⟩) ⟨0, 4⟩) := by
    decide +kernel
  obtain ⟨parsed, alike⟩ := (groups_compose first second .and).1
    ⟨Text.nestedWithin_of_count_le (by decide), Text.nestedWithin_of_count_le (by decide)⟩
  refine ⟨parsed, alike, ?_⟩
  have inTurn : (evalInTurn .and "x=1 " "x|~2").run (.ofList [("x", 7), ("y", 2)]) =
      .ok 1 (.ofList [("x", 1), ("y", 2)]) := by
    rw [run_evalInTurn first second .and (.point 0)]
    rfl
  have same := alike (.ofList [("x", 7), ("y", 2)])
  rw [inTurn] at same
  exact same.eq_ok

end Bitwise
