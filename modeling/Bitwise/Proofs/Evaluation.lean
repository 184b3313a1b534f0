import Bitwise.Proofs.Relocation
import Bitwise.Statement

/-!
# The rules of evaluation

What an evaluation comes to, said rule by rule (`Node.Outcome`): each kind of tree has one rule for
every way in which the evaluation of its operands can end. The evaluator does exactly what the rules
say (`Node.run_eval_eq_iff`), so that facts about evaluations are proved by induction on the rules.

The first such fact is that spans are only passed through: trees that differ in their spans have the
same values and leave the same bindings, and they fail at the same variable (`Node.run_eval_map`).
-/

namespace Bitwise

/-- What an evaluation comes to: a value or a variable without one, and the environment that is left
    behind in either case. -/
abbrev EvalResult := EStateM.Result UndefinedVariable Environment Int64

namespace Node

/-- The rules of evaluation: the tree, the environment before, and the result. -/
inductive Outcome : Node → Environment → EvalResult → Prop
  | literal {v : Int64} {span : Span} {env : Environment} :
    Outcome (.literal v span) env (.ok v env)
  | var {x : String} {span : Span} {env : Environment} {v : Int64} : env.get? x = some v →
    Outcome (.var x span) env (.ok v env)
  | undefined {x : String} {span : Span} {env : Environment} : env.get? x = none →
    Outcome (.var x span) env (.error ⟨x, span⟩ env)
  | complement {t : Node} {span : Span} {env env' : Environment} {v : Int64} :
    Outcome t env (.ok v env') → Outcome (.complement t span) env (.ok (~~~v) env')
  | complementFails {t : Node} {span : Span} {env env' : Environment} {e : UndefinedVariable} :
    Outcome t env (.error e env') → Outcome (.complement t span) env (.error e env')
  | binary {op : BinaryOperator} {l r : Node} {span : Span} {env env' env'' : Environment}
    {a b : Int64} : Outcome l env (.ok a env') → Outcome r env' (.ok b env'') →
    Outcome (.binary op l r span) env (.ok (op.apply a b) env'')
  | leftFails {op : BinaryOperator} {l r : Node} {span : Span} {env env' : Environment}
    {e : UndefinedVariable} : Outcome l env (.error e env') →
    Outcome (.binary op l r span) env (.error e env')
  | rightFails {op : BinaryOperator} {l r : Node} {span : Span} {env env' env'' : Environment}
    {a : Int64} {e : UndefinedVariable} : Outcome l env (.ok a env') →
    Outcome r env' (.error e env'') → Outcome (.binary op l r span) env (.error e env'')
  | assign {x : String} {t : Node} {span : Span} {env env' : Environment} {v : Int64} :
    Outcome t env (.ok v env') → Outcome (.assign x t span) env (.ok v (env'.insert x v))
  | assignFails {x : String} {t : Node} {span : Span} {env env' : Environment}
    {e : UndefinedVariable} : Outcome t env (.error e env') →
    Outcome (.assign x t span) env (.error e env')

/-! ## The evaluator keeps to the rules -/

/-- Some rule applies to every tree. -/
theorem exists_outcome : (t : Node) → (env : Environment) → ∃ r, t.Outcome env r
  | .literal _ _, _ => ⟨_, .literal⟩
  | .var x _, env =>
    match h : env.get? x with
    | some _ => ⟨_, .var h⟩
    | none => ⟨_, .undefined h⟩
  | .complement t _, env =>
    match exists_outcome t env with
    | ⟨.ok _ _, h⟩ => ⟨_, .complement h⟩
    | ⟨.error _ _, h⟩ => ⟨_, .complementFails h⟩
  | .binary _ l r _, env =>
    match exists_outcome l env with
    | ⟨.error _ _, hl⟩ => ⟨_, .leftFails hl⟩
    | ⟨.ok _ env', hl⟩ =>
      match exists_outcome r env' with
      | ⟨.ok _ _, hr⟩ => ⟨_, .binary hl hr⟩
      | ⟨.error _ _, hr⟩ => ⟨_, .rightFails hl hr⟩
  | .assign _ t _, env =>
    match exists_outcome t env with
    | ⟨.ok _ _, h⟩ => ⟨_, .assign h⟩
    | ⟨.error _ _, h⟩ => ⟨_, .assignFails h⟩

variable {t : Node} {env : Environment} {r : EvalResult}

theorem Outcome.run_eval_eq (h : t.Outcome env r) : (eval t).run env = r := by
  induction h with
  | literal => rfl
  | var h | undefined h =>
    rw [eval, EStateM.run_bind, EStateM.run_get]
    simp only [Environment.read, h]
    rfl
  | complement _ ih | assign _ ih =>
    rw [eval, EStateM.run_bind, ih]
    rfl
  | binary _ _ ihl ihr =>
    rw [eval, EStateM.run_bind, ihl]
    simp only [EStateM.run_bind, ihr]
    rfl
  | complementFails _ ih | leftFails _ ih | assignFails _ ih => rw [eval, EStateM.run_bind, ih]
  | rightFails _ _ ihl ihr =>
    rw [eval, EStateM.run_bind, ihl]
    simp only [EStateM.run_bind, ihr]

/-- The evaluator does what the rules say, and nothing else. -/
theorem run_eval_eq_iff : (eval t).run env = r ↔ t.Outcome env r := by
  refine ⟨fun h => ?_, Outcome.run_eval_eq⟩
  obtain ⟨r', h'⟩ := t.exists_outcome env
  rw [← h, h'.run_eval_eq]
  exact h'

end Node

/-! ## Spans -/

/-- The error with another span. -/
def UndefinedVariable.mapSpan (f : Span → Span) (e : UndefinedVariable) : UndefinedVariable :=
  ⟨e.name, f e.span⟩

/-- The result with another span in its error. -/
def EvalResult.mapSpan (f : Span → Span) : EvalResult → EvalResult
  | .ok v env => .ok v env
  | .error e env => .error (e.mapSpan f) env

/-- A tree with other spans is evaluated in the same way. -/
theorem Node.Outcome.map {f : Span → Span} {t : Node} {env : Environment} {r : EvalResult}
    (h : t.Outcome env r) : Outcome (t.map f) env (EvalResult.mapSpan f r) := by
  induction h with
  | literal => exact .literal
  | var h => exact .var h
  | undefined h => exact .undefined h
  | complement _ ih => exact .complement ih
  | complementFails _ ih => exact .complementFails ih
  | binary _ _ ihl ihr => exact .binary ihl ihr
  | leftFails _ ih => exact .leftFails ih
  | rightFails _ _ ihl ihr => exact .rightFails ihl ihr
  | assign _ ih => exact .assign ih
  | assignFails _ ih => exact .assignFails ih

theorem Node.run_eval_map (f : Span → Span) (t : Node) (env : Environment) :
    (eval (t.map f)).run env = EvalResult.mapSpan f ((eval t).run env) :=
  (run_eval_eq_iff.1 rfl).map.run_eval_eq

/-! ## Texts -/

/-- A text that cannot be parsed assigns nothing. -/
theorem evalText_of_error {source : String} {e : ParseError} (h : parse source = .error e)
    (env : Environment) : (evalText source).run env = .error (.parse e) env := by
  show evalText source env = _
  rw [evalText, h]

/-- What a text comes to when its tree comes to a result. -/
def EvalResult.ofText : EvalResult → EStateM.Result StatementError Environment Int64
  | .ok v env => .ok v env
  | .error e env => .error (.eval e) env

/-- A text that can be parsed comes to what its tree comes to. -/
theorem evalText_of_ok {source : String} {n : Node} (h : parse source = .ok n)
    (env : Environment) :
    (evalText source).run env = EvalResult.ofText ((Node.eval n).run env) := by
  show evalText source env = _
  cases hrun : (Node.eval n).run env with
  | ok v env' => simp only [evalText, h, hrun, EvalResult.ofText]
  | error e env' => simp only [evalText, h, hrun, EvalResult.ofText]

/-- An error of parsing leaves the environment as it is. -/
theorem eq_of_evalText_parse {source : String} {e : ParseError} {env env' : Environment}
    (h : (evalText source).run env = .error (.parse e) env') : env' = env := by
  cases hparse : parse source with
  | error e' =>
    rw [evalText_of_error hparse] at h
    cases h
    rfl
  | ok tree =>
    rw [evalText_of_ok hparse] at h
    cases hrun : (Node.eval tree).run env <;> rw [hrun] at h <;> cases h

/-- A variable without a value is found in the tree of the text. -/
theorem exists_of_evalText_eval {source : String} {e : UndefinedVariable} {env env' : Environment}
    (h : (evalText source).run env = .error (.eval e) env') :
    ∃ tree, parse source = .ok tree ∧ (Node.eval tree).run env = .error e env' := by
  cases hparse : parse source with
  | error e' =>
    rw [evalText_of_error hparse] at h
    cases h
  | ok tree =>
    rw [evalText_of_ok hparse] at h
    cases hrun : (Node.eval tree).run env <;> rw [hrun] at h <;> cases h
    exact ⟨tree, rfl, hrun⟩

end Bitwise
