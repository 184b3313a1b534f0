import Bitwise.Proofs.Evaluation

/-!
# Events of an evaluation

An evaluation reads variables and binds names. Which of them, and in which order, can be told from
the tree alone: these are its *events* (`Node.events`). The values have no say in it. An evaluation
plays the events one after the other (`Event.Run`), and it ends with the last of them or at the
first read of a name that is not bound by then (`Node.Outcome.ends`).

So the names decide what an evaluation does, apart from the values (`Node.decided_by_names`):
whether it fails, at which variable, and which names are bound when it is over.
-/

namespace Bitwise

/-- What an evaluation does with a name: it reads it, at a place of the text, or binds it. -/
inductive Event
  | read (name : String) (span : Span)
  | write (name : String)
  deriving DecidableEq

/-- The events of a tree, in the order of evaluation. An assignment comes after all events of the
    value. -/
def Node.events : Node → List Event
  | .literal _ _ => []
  | .var x span => [.read x span]
  | .complement t _ => events t
  | .binary _ l r _ => events l ++ events r
  | .assign x t _ => events t ++ [.write x]

/-- A name has a value. -/
def Environment.Binds (env : Environment) (x : String) : Prop :=
  ∃ v, env.get? x = some v

theorem Environment.not_binds_iff {env : Environment} {x : String} :
    ¬env.Binds x ↔ env.get? x = none := by
  simp only [Binds, not_exists, Option.eq_none_iff_forall_ne_some, ne_eq]

namespace Event

variable {env env' env'' : Environment} {es fs before : List Event} {x : String} {span : Span}

/-- What one event does to an environment. A read takes place only if there is a value. -/
inductive Step : Environment → Event → Environment → Prop
  | read {env : Environment} {x : String} {span : Span} : env.Binds x →
    Step env (.read x span) env
  | write {env : Environment} {x : String} (v : Int64) : Step env (.write x) (env.insert x v)

/-- All events of a list take place, one after the other. -/
inductive Run : Environment → List Event → Environment → Prop
  | nil {env : Environment} : Run env [] env
  | cons {env env' env'' : Environment} {e : Event} {es : List Event} :
    Step env e env' → Run env' es env'' → Run env (e :: es) env''

theorem Run.append (h : Run env es env') (h' : Run env' fs env'') : Run env (es ++ fs) env'' := by
  induction h with
  | nil => exact h'
  | cons step _ ih => exact .cons step (ih h')

theorem Run.exists_append (h : Run env (es ++ fs) env'') :
    ∃ env', Run env es env' ∧ Run env' fs env'' := by
  induction es generalizing env with
  | nil => exact ⟨env, .nil, h⟩
  | cons e es ih =>
    cases h with
    | cons step h =>
      obtain ⟨env', h₁, h₂⟩ := ih h
      exact ⟨env', .cons step h₁, h₂⟩

/-! ## The names that are bound -/

/-- The environment afterwards differs by the names that have been written and by nothing else:
    they are bound, and all other names are as they were. -/
structure Extends (env : Environment) (es : List Event) (env' : Environment) : Prop where
  binds_iff : ∀ x, env'.Binds x ↔ env.Binds x ∨ .write x ∈ es
  get?_eq : ∀ x, .write x ∉ es → env'.get? x = env.get? x

theorem Extends.nil (env : Environment) : Extends env [] env where
  binds_iff _ := by simp
  get?_eq _ _ := rfl

theorem Step.extends {e : Event} (h : Step env e env') : Extends env [e] env' := by
  cases h with
  | read hx => exact ⟨fun y => by simp, fun _ _ => rfl⟩
  | @write x v =>
    constructor
    · intro y
      by_cases hy : y = x <;> simp [Environment.Binds, hy]
    · intro y hy
      rw [List.mem_singleton, write.injEq] at hy
      rw [Environment.get?_insert, if_neg hy]

theorem Extends.append (h : Extends env es env') (h' : Extends env' fs env'') :
    Extends env (es ++ fs) env'' := by
  constructor
  · intro x
    rw [h'.binds_iff, h.binds_iff, List.mem_append, or_assoc]
  · intro x hx
    rw [List.mem_append, not_or] at hx
    rw [h'.get?_eq x hx.2, h.get?_eq x hx.1]

theorem Run.extends (h : Run env es env') : Extends env es env' := by
  induction h with
  | nil => exact .nil _
  | cons step _ ih => exact step.extends.append ih

/-! ## Reads without a value -/

/-- After some of the events, a name is read that is neither bound in the beginning nor by one of
    the events before. -/
structure UndefinedRead (env : Environment) (es before : List Event) (x : String) (span : Span) :
    Prop where
  comes : before ++ [.read x span] <+: es
  unbound : ¬env.Binds x
  unwritten : .write x ∉ before

/-- No read without a value takes place. -/
theorem Run.not_undefinedRead (h : Run env es env') : ¬UndefinedRead env es before x span := by
  rintro ⟨⟨after, rfl⟩, hx, hwrite⟩
  obtain ⟨_, h, -⟩ := h.exists_append
  obtain ⟨env₁, hbefore, hread⟩ := h.exists_append
  -- the name is not bound when it is to be read
  have unbound : ¬env₁.Binds x := by
    rw [hbefore.extends.binds_iff]
    exact not_or.2 ⟨hx, hwrite⟩
  cases hread with
  | cons step _ =>
    cases step with
    | read hx => exact unbound hx

/-- A read without a value comes before all others if the events before it take place. -/
theorem UndefinedRead.prefix_of_run (h : UndefinedRead env es before x span)
    (hrun : Run env before env') {before' : List Event} {x' : String} {span' : Span}
    (h' : UndefinedRead env es before' x' span') : before <+: before' := by
  have hle : before.length ≤ before'.length := by
    by_contra hlt
    rw [Nat.not_le] at hlt
    -- otherwise the other one would be among the events that take place
    have among : before' ++ [.read x' span'] <+: before := by
      refine List.prefix_of_prefix_length_le h'.comes
        ((List.prefix_append before [.read x span]).trans h.comes) ?_
      rw [List.length_append]
      exact hlt
    exact hrun.not_undefinedRead ⟨among, h'.unbound, h'.unwritten⟩
  exact List.prefix_of_prefix_length_le ((List.prefix_append _ _).trans h.comes)
    ((List.prefix_append _ _).trans h'.comes) hle

/-- After the same events, the same comes next. -/
theorem UndefinedRead.unique {x' : String} {span' : Span}
    (h : UndefinedRead env es before x span) (h' : UndefinedRead env' es before x' span') :
    UndefinedVariable.mk x span = ⟨x', span'⟩ := by
  obtain ⟨after, rfl⟩ := h.comes
  have same := h'.comes
  rw [List.append_assoc, List.prefix_append_right_inj, List.singleton_append,
    List.cons_prefix_cons, read.injEq] at same
  rw [same.1.1, same.1.2]

/-! ## How the events end -/

/-- The result of an evaluation with these events: they all take place, or those before a read
    without a value, which is the error. -/
inductive Ends (env : Environment) (es : List Event) : EvalResult → Prop
  | ok {v : Int64} {env' : Environment} : Run env es env' → Ends env es (.ok v env')
  | error {before : List Event} {x : String} {span : Span} {env' : Environment} :
    before ++ [.read x span] <+: es → Run env before env' → ¬env'.Binds x →
      Ends env es (.error ⟨x, span⟩ env')

/-- What comes after the error does not matter. -/
theorem Ends.append_of_error {e : UndefinedVariable} (h : Ends env es (.error e env')) :
    Ends env (es ++ fs) (.error e env') := by
  cases h with
  | error comes hrun hx => exact .error (comes.trans (List.prefix_append es fs)) hrun hx

theorem Ends.of_run {r : EvalResult} (h : Run env es env') (h' : Ends env' fs r) :
    Ends env (es ++ fs) r := by
  cases h' with
  | ok hrun => exact .ok (h.append hrun)
  | error comes hrun hx =>
    refine .error ?_ (h.append hrun) hx
    rwa [List.append_assoc, List.prefix_append_right_inj]

theorem Ends.run {v : Int64} (h : Ends env es (.ok v env')) : Run env es env' := by
  cases h with
  | ok hrun => exact hrun

end Event

open Event (Ends UndefinedRead Extends)

/-- An evaluation plays the events of the tree. -/
theorem Node.Outcome.ends {t : Node} {env : Environment} {r : EvalResult}
    (h : t.Outcome env r) : Ends env t.events r := by
  induction h with
  | literal => exact .ok .nil
  | var h => exact .ok (.cons (.read ⟨_, h⟩) .nil)
  | undefined h => exact .error List.prefix_rfl .nil (Environment.not_binds_iff.2 h)
  | complement _ ih => exact .ok ih.run
  | complementFails _ ih => exact ih
  | binary _ _ ihl ihr => exact .ok (ihl.run.append ihr.run)
  | leftFails _ ih => exact ih.append_of_error
  | rightFails _ _ ihl ihr => exact .of_run ihl.run ihr
  | assign _ ih => exact .ok (ih.run.append (.cons (.write _) .nil))
  | assignFails _ ih => exact ih.append_of_error

/-! ## What the names decide -/

/-- The error of an evaluation, if it fails. -/
def EvalResult.error? : EvalResult → Option UndefinedVariable
  | .ok _ _ => none
  | .error e _ => some e

/-- The evaluation of a tree in an environment is decided by names. -/
structure Node.DecidedByNames (t : Node) (env : Environment) : Prop where
  /-- It fails exactly if some name is read that has no value by then. -/
  fails_iff : (∃ e env', (Node.eval t).run env = .error e env') ↔
    ∃ before x span, UndefinedRead env t.events before x span
  /-- The error is the first such read, and the names that the events before it write are bound. -/
  of_error : ∀ e env', (Node.eval t).run env = .error e env' →
    ∃ before, UndefinedRead env t.events before e.name e.span ∧
      (∀ before' x span, UndefinedRead env t.events before' x span → before <+: before') ∧
      Extends env before env'
  /-- If it does not fail, the names that any events write are bound. -/
  of_ok : ∀ v env', (Node.eval t).run env = .ok v env' → Extends env t.events env'
  /-- Which values the names have does not matter for the error. -/
  error?_eq : ∀ env₂ : Environment, (∀ x, env₂.Binds x ↔ env.Binds x) →
    EvalResult.error? ((Node.eval t).run env₂) = EvalResult.error? ((Node.eval t).run env)

section

variable {t : Node} {env env' : Environment} {e : UndefinedVariable} {v : Int64}

theorem Node.of_run_eval_ok (h : (Node.eval t).run env = .ok v env') :
    Event.Run env t.events env' :=
  (Node.run_eval_eq_iff.1 h).ends.run

/-- An evaluation that fails stops at the first read without a value. -/
theorem Node.of_run_eval_error (h : (Node.eval t).run env = .error e env') :
    ∃ before, UndefinedRead env t.events before e.name e.span ∧
      (∀ before' x span, UndefinedRead env t.events before' x span → before <+: before') ∧
      Event.Run env before env' := by
  cases (Node.run_eval_eq_iff.1 h).ends with
  | @error before x span env' comes hrun hx =>
    rw [hrun.extends.binds_iff, not_or] at hx
    have undefined : UndefinedRead env t.events before x span := ⟨comes, hx.1, hx.2⟩
    exact ⟨before, undefined, fun _ _ _ => undefined.prefix_of_run hrun, hrun⟩

theorem Node.fails_iff :
    (∃ e env', (Node.eval t).run env = .error e env') ↔
      ∃ before x span, UndefinedRead env t.events before x span := by
  constructor
  · rintro ⟨e, env', h⟩
    obtain ⟨before, undefined, -⟩ := Node.of_run_eval_error h
    exact ⟨before, e.name, e.span, undefined⟩
  · rintro ⟨before, x, span, undefined⟩
    cases h : (Node.eval t).run env with
    | ok v env' => exact absurd undefined (Node.of_run_eval_ok h).not_undefinedRead
    | error e env' => exact ⟨e, env', rfl⟩

/-- Reads without a value are the same in environments that bind the same names. -/
theorem Event.UndefinedRead.congr {env₂ : Environment} {es before : List Event} {x : String}
    {span : Span} (henv : ∀ x, env₂.Binds x ↔ env.Binds x)
    (h : UndefinedRead env₂ es before x span) : UndefinedRead env es before x span :=
  ⟨h.comes, (henv x).not.1 h.unbound, h.unwritten⟩

theorem Node.error?_eq {env₂ : Environment} (henv : ∀ x, env₂.Binds x ↔ env.Binds x) :
    EvalResult.error? ((Node.eval t).run env₂) = EvalResult.error? ((Node.eval t).run env) := by
  have henv' : ∀ x, env.Binds x ↔ env₂.Binds x := fun x => (henv x).symm
  cases h₂ : (Node.eval t).run env₂ with
  | ok v₂ env₂' =>
    cases h : (Node.eval t).run env with
    | ok v env' => rfl
    | error e env' =>
      obtain ⟨before, undefined, -⟩ := Node.of_run_eval_error h
      exact absurd (undefined.congr henv') (Node.of_run_eval_ok h₂).not_undefinedRead
  | error e₂ env₂' =>
    obtain ⟨before₂, undefined₂, first₂, -⟩ := Node.of_run_eval_error h₂
    cases h : (Node.eval t).run env with
    | ok v env' => exact absurd (undefined₂.congr henv) (Node.of_run_eval_ok h).not_undefinedRead
    | error e env' =>
      obtain ⟨before, undefined, first, -⟩ := Node.of_run_eval_error h
      -- each of the two reads comes before the other, so they are the same
      obtain rfl : before₂ = before :=
        (first₂ _ _ _ (undefined.congr henv')).eq_of_length_le
          (first _ _ _ (undefined₂.congr henv)).length_le
      exact congrArg some (undefined₂.unique undefined)

end

/-- Whether an evaluation fails, where it fails and which names it binds is decided by the names
    that the tree reads and writes and those that are bound, for every tree and every
    environment. -/
theorem Node.decided_by_names (t : Node) (env : Environment) : t.DecidedByNames env where
  fails_iff := Node.fails_iff
  of_error _ _ h := by
    obtain ⟨before, undefined, first, hrun⟩ := Node.of_run_eval_error h
    exact ⟨before, undefined, first, hrun.extends⟩
  of_ok _ _ h := (Node.of_run_eval_ok h).extends
  error?_eq _ := Node.error?_eq

end Bitwise
