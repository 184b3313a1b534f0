import Bitwise.Operator
import Bitwise.Span

/-!
# Expression trees

A tree is a literal, a variable, the complement of a tree, an operation on two trees, or the
assignment of a tree to a name. Each of its nodes carries a mark: the place in the text that it was
read from, or nothing at all. Trees that differ in their marks only are the same expression.

Written out, a tree has a pair of parentheses around every operation, and around every assignment
inside another node, so that the grouping can be seen.
-/

namespace Bitwise

/-- Trees with marks of type `α` on their nodes. -/
inductive Tree (α : Type)
  | literal (value : Int64) (mark : α)
  | var (name : String) (mark : α)
  | complement (operand : Tree α) (mark : α)
  | binary (op : BinaryOperator) (left right : Tree α) (mark : α)
  | assign (name : String) (value : Tree α) (mark : α)
  deriving DecidableEq

/-- Trees as they are read from a text: each node knows which part of the text it is. -/
abbrev Node := Tree Span

/-- Trees without marks: what a text means, wherever it stands. -/
abbrev Expr := Tree Unit

namespace Tree

variable {α β : Type}

/-- The mark of the root. -/
def mark : Tree α → α
  | literal _ m | var _ m | complement _ m | binary _ _ _ m | assign _ _ m => m

/-- The tree with another mark on its root. -/
def withMark (m : α) : Tree α → Tree α
  | literal v _ => literal v m
  | var x _ => var x m
  | complement t _ => complement t m
  | binary op l r _ => binary op l r m
  | assign x t _ => assign x t m

/-- The tree with every mark replaced. -/
def map (f : α → β) : Tree α → Tree β
  | literal v m => literal v (f m)
  | var x m => var x (f m)
  | complement t m => complement (t.map f) (f m)
  | binary op l r m => binary op (l.map f) (r.map f) (f m)
  | assign x t m => assign x (t.map f) (f m)

/-- The expression that a tree is, whatever its marks. -/
def erase (t : Tree α) : Expr :=
  t.map fun _ => ()

/-- Text in parentheses, if they are asked for. -/
def parenthesizeIf : Bool → String → String
  | true, text => "(" ++ text ++ ")"
  | false, text => text

/-- The text of a tree, as the root or inside another node. -/
def print (nested : Bool) : Tree α → String
  | literal v _ => toString v.toInt
  | var x _ => x
  | complement t _ => "~" ++ t.print true
  | binary op l r _ => "(" ++ l.print true ++ " " ++ op.symbol ++ " " ++ r.print true ++ ")"
  | assign x t _ => parenthesizeIf nested (x ++ " = " ++ t.print true)

instance : ToString (Tree α) :=
  ⟨print false⟩

end Tree

/-- The operation on two nodes spans both. -/
def Node.combine (op : BinaryOperator) (left right : Node) : Node :=
  Tree.binary op left right (left.mark.cover right.mark)

end Bitwise
