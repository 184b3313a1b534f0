import Bitwise.Proofs.SessionNames

/-!
# What an evaluation sees and touches

An evaluation sees the values of the names that it reads, and it touches the names that it assigns.
Two environments that agree on the former may differ elsewhere as much as they like: the evaluation
comes to the same in both, whether it succeeds or fails, with the same assignments, and all other
names keep in each of them what they had there (`Node.seesOnlyReads`).

The same goes for lines that are evaluated one after the other. What a session binds besides the
names that occur in a line is invisible to it, and is not touched by it
(`evaluation_sees_only_reads`).
-/

namespace Bitwise

open Event (AgreeOnReads)
open Session (environmentAfter)

variable {env env' : Environment}

/-! ## Trees -/

/-- A name that is assigned has a value afterwards, which does not depend on the environment
    before. -/
theorem Environment.exists_get?_insertAll {assigned : List (String × Int64)} {x : String}
    (h : x ∈ assigned.map Prod.fst) :
    ∃ v, ∀ env : Environment, (env.insertAll assigned).get? x = some v := by
  induction assigned with
  | nil => exact absurd h List.not_mem_nil
  | cons p rest ih =>
    by_cases hrest : x ∈ rest.map Prod.fst
    · obtain ⟨v, hv⟩ := ih hrest
      exact ⟨v, fun env => hv (env.insert p.1 p.2)⟩
    · -- the first assignment is the last to the name
      obtain rfl : x = p.1 := (List.mem_cons.1 h).resolve_right hrest
      have others : ∀ q ∈ rest, q.1 ≠ p.1 := fun q hq heq =>
        hrest (List.mem_map.2 ⟨q, hq, heq⟩)
      refine ⟨p.2, fun env => ?_⟩
      show ((env.insert p.1 p.2).insertAll rest).get? p.1 = some p.2
      rw [get?_insertAll_of_forall_ne others, get?_insert, if_pos rfl]

namespace Node

/-- An evaluation leaves behind what it has assigned. -/
theorem environmentAfter_eq (t : Node) (env : Environment) :
    t.environmentAfter env = env.insertAll (t.assignments env) :=
  (Outcome.replays (run_eval_eq_iff.1 rfl)).env_eq

/-- Where the names that are read have the same values, an evaluation makes the same assignments
    and comes to the same. -/
theorem run_eval_of_agreeOnReads {t : Node} (h : AgreeOnReads t.events env env') :
    (eval t).run env' =
      EvalResult.withEnv (env'.insertAll (t.assignments env)) ((eval t).run env) :=
  run_eval_eq_iff.2 ((Outcome.replays (run_eval_eq_iff.1 rfl)).replay env' h)

theorem assignments_congr : (t : Node) → {env env' : Environment} →
    AgreeOnReads t.events env env' → t.assignments env' = t.assignments env
  | .literal _ _, _, _, _ | .var _ _, _, _, _ => rfl
  | .complement t _, _, _, agree => assignments_congr t agree
  | .binary _ l r _, env, env', agree => by
    have left := agree.mono (List.subset_append_left (events l) (events r))
    have right := agree.mono (List.subset_append_right (events l) (events r))
    rw [assignments, assignments, run_eval_of_agreeOnReads left, assignments_congr l left]
    cases hl : (eval l).run env with
    | error e env₁ => rfl
    | ok v env₁ =>
      -- the right operand is evaluated where the left one has made its assignments
      have after : env₁ = env.insertAll (assignments l env) := by
        rw [← environmentAfter_eq, Node.environmentAfter, hl]
        rfl
      have same := assignments_congr r (right.insertAll (assignments l env))
      rw [← after] at same
      exact congrArg (assignments l env ++ ·) same
  | .assign _ t _, env, env', agree => by
    have value := agree.mono (List.subset_append_left (events t) _)
    rw [assignments, assignments, run_eval_of_agreeOnReads value, assignments_congr t value]
    cases (eval t).run env <;> rfl

/-- The names that the evaluation of a tree writes, as far as it comes. -/
def written (t : Node) (env : Environment) : List String :=
  (t.assignments env).map Prod.fst

theorem forall_ne_of_notMem_written {t : Node} {x : String} (h : x ∉ t.written env) :
    ∀ p ∈ t.assignments env, p.1 ≠ x :=
  fun p hp heq => h (List.mem_map.2 ⟨p, hp, heq⟩)

/-- How the evaluations of a tree in two environments compare. -/
structure SeesOnlyReads (t : Node) (env env' : Environment) : Prop where
  /-- They come to the same value, or to the same variable without one. -/
  answer : t.answerIn env' = t.answerIn env
  /-- They make the same assignments and nothing else. -/
  assigned : t.assignments env' = t.assignments env ∧
    t.environmentAfter env = env.insertAll (t.assignments env) ∧
    t.environmentAfter env' = env'.insertAll (t.assignments env)
  /-- A name that is written has the same value after both. -/
  touched : ∀ x ∈ t.written env, ∃ v,
    (t.environmentAfter env).get? x = some v ∧ (t.environmentAfter env').get? x = some v
  /-- Every other name keeps what it has in each. -/
  untouched : ∀ x ∉ t.written env, (t.environmentAfter env).get? x = env.get? x ∧
    (t.environmentAfter env').get? x = env'.get? x

/-- Environments that agree on the names that are read need not agree on anything else. -/
theorem seesOnlyReads {t : Node} (h : AgreeOnReads t.events env env') :
    t.SeesOnlyReads env env' := by
  have same := assignments_congr t h
  have after := t.environmentAfter_eq env
  have after' : t.environmentAfter env' = env'.insertAll (t.assignments env) := by
    rw [environmentAfter_eq, same]
  constructor
  case answer =>
    rw [answerIn, run_eval_of_agreeOnReads h]
    exact EvalResult.answer_withEnv _ _
  case assigned => exact ⟨same, after, after'⟩
  case touched =>
    intro x hx
    obtain ⟨v, hv⟩ := Environment.exists_get?_insertAll hx
    rw [after, after']
    exact ⟨v, hv env, hv env'⟩
  case untouched =>
    intro x hx
    have others := forall_ne_of_notMem_written hx
    rw [after, after']
    exact ⟨Environment.get?_insertAll_of_forall_ne others,
      Environment.get?_insertAll_of_forall_ne others⟩

end Node

/-! ## Lines -/

/-- A name occurs in the statement that a line is. -/
def MentionedIn (x line : String) : Prop :=
  ∃ tree, parse line = .ok tree ∧ Node.Mentions tree x

/-- What a line comes to: a value or an error. -/
def answerTo (env : Environment) (line : String) : Except StatementError Int64 :=
  match (evalText line).run env with
  | .ok v _ => .ok v
  | .error e _ => .error e

/-- What lines come to when they are evaluated one after the other, whether they fail or not. -/
def answersTo (env : Environment) : List String → List (Except StatementError Int64)
  | [] => []
  | line :: lines =>
    answerTo env line :: answersTo (environmentAfter ((evalText line).run env)) lines

/-- A line comes to the same in environments that agree on the names in it, and makes the same
    assignments to such names. -/
theorem exists_assigned_of_line {line : String}
    (h : ∀ x, MentionedIn x line → env'.get? x = env.get? x) :
    answerTo env' line = answerTo env line ∧ ∃ assigned : List (String × Int64),
      (∀ p ∈ assigned, MentionedIn p.1 line) ∧
      environmentAfter ((evalText line).run env) = env.insertAll assigned ∧
      environmentAfter ((evalText line).run env') = env'.insertAll assigned := by
  cases hparse : parse line with
  | error e =>
    simp only [answerTo, evalText_of_error hparse, true_and]
    exact ⟨[], List.forall_mem_nil _, rfl, rfl⟩
  | ok tree =>
    have agree : AgreeOnReads (Node.events tree) env env' := fun x span hx =>
      h x ⟨tree, hparse, .inl ⟨span, hx⟩⟩
    have after := Node.environmentAfter_eq tree env
    have again := Node.run_eval_of_agreeOnReads agree
    have mentioned : ∀ p ∈ Node.assignments tree env, MentionedIn p.1 line := fun p hp =>
      ⟨tree, hparse, .inr ((Node.Outcome.replays (Node.run_eval_eq_iff.1 rfl)).writes p hp)⟩
    simp only [answerTo, evalText_of_ok hparse, again]
    rw [Node.environmentAfter] at after
    cases hrun : (Node.eval tree).run env <;> rw [hrun] at after <;>
      exact ⟨rfl, _, mentioned, after, rfl⟩

/-- The same for lines one after the other. -/
theorem exists_assigned_of_lines {lines : List String}
    (h : ∀ x, (∃ line ∈ lines, MentionedIn x line) → env'.get? x = env.get? x) :
    answersTo env' lines = answersTo env lines ∧ ∃ assigned : List (String × Int64),
      (∀ p ∈ assigned, ∃ line ∈ lines, MentionedIn p.1 line) ∧
      evalLines env lines = env.insertAll assigned ∧
      evalLines env' lines = env'.insertAll assigned := by
  induction lines generalizing env env' with
  | nil => exact ⟨rfl, [], List.forall_mem_nil _, rfl, rfl⟩
  | cons line lines ih =>
    obtain ⟨answer, assigned, hassigned, after, after'⟩ :=
      exists_assigned_of_line fun x hx => h x ⟨line, List.mem_cons_self, hx⟩
    -- the assignments of the first line do not part the environments
    obtain ⟨answers, assigned₂, hassigned₂, after₂, after₂'⟩ :=
      @ih (env.insertAll assigned) (env'.insertAll assigned) fun x ⟨line, hline, hx⟩ =>
        (Environment.get?_insertAll_congr
          (h x ⟨line, List.mem_cons_of_mem _ hline, hx⟩).symm assigned).symm
    refine ⟨?_, assigned ++ assigned₂, ?_, ?_, ?_⟩
    · rw [answersTo, answersTo, answer, after, after', answers]
    · rw [List.forall_mem_append]
      refine ⟨fun p hp => ⟨line, List.mem_cons_self, hassigned p hp⟩, fun p hp => ?_⟩
      obtain ⟨line', hline', hmentioned⟩ := hassigned₂ p hp
      exact ⟨line', List.mem_cons_of_mem _ hline', hmentioned⟩
    · rw [Environment.insertAll_append, ← after₂, ← after]
      rfl
    · rw [Environment.insertAll_append, ← after₂', ← after']
      rfl

/-- How lines that are evaluated in two environments compare. -/
structure SessionsAgree (lines : List String) (env env' : Environment) : Prop where
  /-- Every line comes to the same in both. -/
  answers : answersTo env' lines = answersTo env lines
  /-- The names that occur in the lines have the same values after them. -/
  mentioned : ∀ x, (∃ line ∈ lines, MentionedIn x line) →
    (evalLines env' lines).get? x = (evalLines env lines).get? x
  /-- All other names keep what they have in each. -/
  unmentioned : ∀ x, (¬∃ line ∈ lines, MentionedIn x line) →
    (evalLines env lines).get? x = env.get? x ∧ (evalLines env' lines).get? x = env'.get? x

theorem sessionsAgree {lines : List String}
    (h : ∀ x, (∃ line ∈ lines, MentionedIn x line) → env'.get? x = env.get? x) :
    SessionsAgree lines env env' := by
  obtain ⟨answers, assigned, hassigned, after, after'⟩ := exists_assigned_of_lines h
  refine ⟨answers, fun x hx => ?_, fun x hx => ?_⟩
  · rw [after, after']
    exact Environment.get?_insertAll_congr (h x hx) assigned
  · have others : ∀ p ∈ assigned, p.1 ≠ x := fun p hp heq => hx (heq ▸ hassigned p hp)
    rw [after, after']
    exact ⟨Environment.get?_insertAll_of_forall_ne others,
      Environment.get?_insertAll_of_forall_ne others⟩

/-- The evaluation of a tree sees no more of an environment than the names that it reads, and does
    no more to it than to assign some names. So the lines of a session see nothing of bindings to
    names that do not occur in them, and leave them alone. -/
theorem evaluation_sees_only_reads :
    (∀ (t : Node) (env env' : Environment), AgreeOnReads t.events env env' →
      t.SeesOnlyReads env env') ∧
    ∀ (lines : List String) (env env' : Environment),
      (∀ x, (∃ line ∈ lines, MentionedIn x line) → env'.get? x = env.get? x) →
        SessionsAgree lines env env' :=
  ⟨fun _ _ _ => Node.seesOnlyReads, fun _ _ _ => sessionsAgree⟩

/-- The tree of `(x = y) | w`, where `w` has no value and only one of two environments binds `x` and
    `z`; and two lines in which only `a` occurs. -/
theorem evaluation_sees_only_reads_partway :
    (let t : Node := .binary .or (.assign "x" (.var "y" ⟨5, 6⟩) ⟨0, 7⟩) (.var "w" ⟨10, 11⟩) ⟨0, 11⟩
      let env := Environment.ofList [("y", 5)]
      let env' := Environment.ofList [("x", 9), ("y", 5), ("z", 1)]
      AgreeOnReads t.events env env' ∧ t.answerIn env' = .error ⟨"w", ⟨10, 11⟩⟩ ∧
        t.written env = ["x"] ∧ (t.environmentAfter env').get? "x" = some 5 ∧
        (t.environmentAfter env').get? "z" = some 1) ∧
    answersTo (.ofList [("b", 3)]) ["a = 7", "a ^ 2"] = answersTo ∅ ["a = 7", "a ^ 2"] ∧
      (evalLines (.ofList [("b", 3)]) ["a = 7", "a ^ 2"]).get? "b" = some 3 := by
  constructor
  · intro t env env'
    have agree : AgreeOnReads t.events env env' := by
      intro x span hx
      obtain ⟨rfl, -⟩ | ⟨rfl, -⟩ : (x = "y" ∧ span = ⟨5, 6⟩) ∨ (x = "w" ∧ span = ⟨10, 11⟩) := by
        simpa [t, Node.events] using hx
      all_goals rfl
    obtain ⟨answer, -, touched, untouched⟩ := evaluation_sees_only_reads.1 t env env' agree
    obtain ⟨v, hv, hv'⟩ := touched "x" List.mem_cons_self
    obtain rfl : 5 = v := Option.some.inj hv
    exact ⟨agree, answer.trans rfl, rfl, hv', (untouched "z" (by decide)).2.trans rfl⟩
  · have assigned : parse "a = 7" = .ok (.assign "a" (.literal 7 ⟨4, 5⟩) ⟨0, 5⟩) := by
      decide +kernel
    have read : parse "a ^ 2" =
        .ok (.binary .xor (.var "a" ⟨0, 1⟩) (.literal 2 ⟨4, 5⟩) ⟨0, 5⟩) := by
      decide +kernel
    have mentioned : ∀ x, (∃ line ∈ ["a = 7", "a ^ 2"], MentionedIn x line) → x = "a" := by
      rintro x ⟨line, hline, tree, hparse, hx⟩
      rcases List.mem_cons.1 hline with rfl | hline
      · cases assigned.symm.trans hparse
        simpa [Node.Mentions, Node.events] using hx
      · cases List.mem_singleton.1 hline
        cases read.symm.trans hparse
        simpa [Node.Mentions, Node.events] using hx
    obtain ⟨answers, -, unmentioned⟩ := evaluation_sees_only_reads.2 ["a = 7", "a ^ 2"] ∅
      (.ofList [("b", 3)]) fun x hx => by rw [mentioned x hx]; rfl
    refine ⟨answers, (unmentioned "b" fun hb => ?_).2.trans rfl⟩
    exact absurd (mentioned "b" hb) (by decide)

end Bitwise
