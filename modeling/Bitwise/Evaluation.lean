import Bitwise.Environment
import Bitwise.Tree

/-!
# Evaluation

The value of a tree in an environment. Operands are evaluated from left to right and a name is
bound once the value assigned to it is known, so an assignment is seen by all that is evaluated
after it. The first variable that is not bound ends the evaluation; what was assigned before it
stays assigned.
-/

namespace Bitwise

/-- A variable that has no value, and where it is read. -/
structure UndefinedVariable where
  name : String
  span : Span
  deriving DecidableEq

/-- The words for an undefined variable. -/
def UndefinedVariable.message (e : UndefinedVariable) : String :=
  "undefined variable: '" ++ e.name ++ "'"

/-- The value that a name is bound to. The span says where it is asked for. -/
def Environment.read (env : Environment) (name : String) (span : Span) :
    Except UndefinedVariable Int64 :=
  match env.get? name with
  | some value => .ok value
  | none => .error ⟨name, span⟩

/-- The value of a tree. The environment is the one that the assignments in the tree leave behind,
    also when the evaluation fails. -/
def Node.eval : Node → EStateM UndefinedVariable Environment Int64
  | .literal value _ => return value
  | .var name span => do
    match (← get).read name span with
    | .ok value => return value
    | .error e => throw e
  | .complement operand _ => do
    let value ← eval operand
    return ~~~value
  | .binary op left right _ => do
    let l ← eval left
    let r ← eval right
    return op.apply l r
  | .assign name value _ => do
    let v ← eval value
    modify (·.insert name v)
    return v

end Bitwise
