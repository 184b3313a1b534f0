import Bitwise.Proofs.Bindings
import Bitwise.Proofs.Events

/-!
# Independent evaluations

An evaluation sees nothing of an environment but the values of the names that it reads, and does
nothing to it but assign some names in turn. So it can be played again in any environment that
agrees on the reads: it answers the same, and assigns the same values in the same order
(`Node.exists_assigned`). This holds for an evaluation that fails part-way as well.

Two trees are independent if neither assigns a name that occurs in the other. Then neither of them
can tell whether the other has been evaluated before it, and since their assignments are to
different names, it does not matter in which order they are evaluated
(`independent_evaluations_commute`).
-/

namespace Bitwise

/-! ## Assignments -/

namespace Environment

variable {env env' : Environment} {assigned assigned' : List (String × Int64)} {x : String}

/-- The environment after assignments, one after the other. -/
def insertAll (env : Environment) (assigned : List (String × Int64)) : Environment :=
  assigned.foldl (fun env (x, v) => env.insert x v) env

theorem insertAll_append (env : Environment) (assigned assigned' : List (String × Int64)) :
    env.insertAll (assigned ++ assigned') = (env.insertAll assigned).insertAll assigned' :=
  List.foldl_append

theorem insertAll_concat (env : Environment) (assigned : List (String × Int64)) (x : String)
    (v : Int64) : env.insertAll (assigned ++ [(x, v)]) = (env.insertAll assigned).insert x v :=
  insertAll_append env assigned [(x, v)]

/-- Names that are not assigned keep their values. -/
theorem get?_insertAll_of_forall_ne (h : ∀ p ∈ assigned, p.1 ≠ x) :
    (env.insertAll assigned).get? x = env.get? x := by
  induction assigned generalizing env with
  | nil => rfl
  | cons p rest ih =>
    obtain ⟨hp, hrest⟩ := List.forall_mem_cons.1 h
    exact (ih hrest).trans (by rw [get?_insert, if_neg hp.symm])

/-- A name that has the same value in two environments has the same value in both after the same
    assignments. -/
theorem get?_insertAll_congr (h : env.get? x = env'.get? x) (assigned : List (String × Int64)) :
    (env.insertAll assigned).get? x = (env'.insertAll assigned).get? x := by
  induction assigned generalizing env env' with
  | nil => exact h
  | cons p rest ih =>
    refine ih ?_
    rw [get?_insert, get?_insert, h]

/-- Assignments to different names can be made in either order. -/
theorem insertAll_comm (h : ∀ p ∈ assigned, ∀ q ∈ assigned', p.1 ≠ q.1) :
    (env.insertAll assigned).insertAll assigned' =
      (env.insertAll assigned').insertAll assigned := by
  refine ext_get? fun x => ?_
  by_cases hx : ∃ p ∈ assigned, p.1 = x
  · obtain ⟨p, hp, rfl⟩ := hx
    have others : ∀ q ∈ assigned', q.1 ≠ p.1 := fun q hq => (h p hp q hq).symm
    rw [get?_insertAll_of_forall_ne others]
    exact get?_insertAll_congr (get?_insertAll_of_forall_ne others).symm assigned
  · have others : ∀ p ∈ assigned, p.1 ≠ x := fun p hp heq => hx ⟨p, hp, heq⟩
    have untouched : ∀ env : Environment, (env.insertAll assigned).get? x = env.get? x :=
      fun _ => get?_insertAll_of_forall_ne others
    rw [untouched]
    exact get?_insertAll_congr (untouched env) assigned'

end Environment

/-! ## Playing an evaluation again -/

namespace EvalResult

/-- What an evaluation answers: a value, or the variable that has none. -/
def answer : EvalResult → Except UndefinedVariable Int64
  | .ok v _ => .ok v
  | .error e _ => .error e

/-- The environment that an evaluation leaves behind, whether it has failed or not. -/
def env : EvalResult → Environment
  | .ok _ env | .error _ env => env

/-- The same answer in another environment. -/
def withEnv (env : Environment) : EvalResult → EvalResult
  | .ok v _ => .ok v env
  | .error e _ => .error e env

@[simp] theorem answer_withEnv (env : Environment) (r : EvalResult) :
    answer (withEnv env r) = answer r := by
  cases r <;> rfl

@[simp] theorem env_withEnv (e : Environment) (r : EvalResult) : env (withEnv e r) = e := by
  cases r <;> rfl

end EvalResult

/-- Two environments have the same values for the names that events read. -/
def Event.AgreeOnReads (es : List Event) (env env' : Environment) : Prop :=
  ∀ x span, .read x span ∈ es → env'.get? x = env.get? x

open Event (AgreeOnReads)

theorem Event.AgreeOnReads.mono {es fs : List Event} {env env' : Environment}
    (h : AgreeOnReads fs env env') (hes : es ⊆ fs) : AgreeOnReads es env env' :=
  fun x span hx => h x span (hes hx)

/-- The same assignments do not make a difference between environments. -/
theorem Event.AgreeOnReads.insertAll {es : List Event} {env env' : Environment}
    (h : AgreeOnReads es env env') (assigned : List (String × Int64)) :
    AgreeOnReads es (env.insertAll assigned) (env'.insertAll assigned) :=
  fun x span hx => Environment.get?_insertAll_congr (h x span hx) assigned

namespace Node

/-- An evaluation of a tree makes assignments, and makes them in every environment that agrees on
    the names that are read, with the same answer. -/
structure Replays (t : Node) (env : Environment) (r : EvalResult)
    (assigned : List (String × Int64)) : Prop where
  env_eq : EvalResult.env r = env.insertAll assigned
  writes : ∀ p ∈ assigned, .write p.1 ∈ t.events
  replay : ∀ env', AgreeOnReads t.events env env' →
    t.Outcome env' (EvalResult.withEnv (env'.insertAll assigned) r)

/-- An evaluation that reads and assigns nothing. -/
theorem Replays.of_nothing {t : Node} {env : Environment} {r : EvalResult}
    (henv : EvalResult.env r = env)
    (h : ∀ env', AgreeOnReads t.events env env' → t.Outcome env' (EvalResult.withEnv env' r)) :
    t.Replays env r [] :=
  ⟨henv, List.forall_mem_nil _, h⟩

/-- An evaluation that goes on with one evaluation after another. -/
theorem Replays.sequence {t first second : Node} {env : Environment} {r r₁ r₂ : EvalResult}
    {assigned assigned' : List (String × Int64)} (h₁ : first.Replays env r₁ assigned)
    (h₂ : second.Replays (EvalResult.env r₁) r₂ assigned')
    (hevents : t.events = first.events ++ second.events)
    (henv : EvalResult.env r = EvalResult.env r₂)
    (rule : ∀ env env' env'', first.Outcome env (EvalResult.withEnv env' r₁) →
      second.Outcome env' (EvalResult.withEnv env'' r₂) →
      t.Outcome env (EvalResult.withEnv env'' r)) : t.Replays env r (assigned ++ assigned') where
  env_eq := by rw [henv, h₂.env_eq, h₁.env_eq, Environment.insertAll_append]
  writes p hp := by
    rw [hevents, List.mem_append]
    exact (List.mem_append.1 hp).imp (h₁.writes p) (h₂.writes p)
  replay env' agree := by
    rw [hevents] at agree
    have agree₁ := agree.mono (List.subset_append_left first.events second.events)
    have agree₂ := agree.mono (List.subset_append_right first.events second.events)
    rw [Environment.insertAll_append]
    refine rule _ _ _ (h₁.replay env' agree₁) (h₂.replay _ ?_)
    rw [h₁.env_eq]
    exact agree₂.insertAll assigned

/-- The assignments that an evaluation makes, in their order. One that fails makes those that come
    before the failure. -/
def assignments : Node → Environment → List (String × Int64)
  | .literal _ _, _ | .var _ _, _ => []
  | .complement t _, env => assignments t env
  | .binary _ l r _, env =>
    match (eval l).run env with
    | .ok _ env' => assignments l env ++ assignments r env'
    | .error _ _ => assignments l env
  | .assign x t _, env =>
    match (eval t).run env with
    | .ok v _ => assignments t env ++ [(x, v)]
    | .error _ _ => assignments t env

theorem Outcome.replays {t : Node} {env : Environment} {r : EvalResult} (h : t.Outcome env r) :
    t.Replays env r (t.assignments env) := by
  induction h with
  | literal => exact .of_nothing rfl fun _ _ => .literal
  | var h =>
    exact .of_nothing rfl fun _ agree =>
      .var ((agree _ _ (List.mem_singleton_self _)).trans h)
  | undefined h =>
    exact .of_nothing rfl fun _ agree =>
      .undefined ((agree _ _ (List.mem_singleton_self _)).trans h)
  | complement _ ih =>
    exact ⟨ih.env_eq, ih.writes, fun env' agree => .complement (ih.replay env' agree)⟩
  | complementFails _ ih =>
    exact ⟨ih.env_eq, ih.writes, fun env' agree => .complementFails (ih.replay env' agree)⟩
  | binary hl _ ihl ihr =>
    rw [assignments, hl.run_eval_eq]
    exact ihl.sequence ihr rfl rfl fun _ _ _ => .binary
  | rightFails hl _ ihl ihr =>
    rw [assignments, hl.run_eval_eq]
    exact ihl.sequence ihr rfl rfl fun _ _ _ => .rightFails
  | leftFails hl ih =>
    rw [assignments, hl.run_eval_eq]
    exact ⟨ih.env_eq, fun p hp => List.mem_append_left _ (ih.writes p hp), fun env' agree =>
      .leftFails (ih.replay env' (agree.mono (List.subset_append_left _ _)))⟩
  | assignFails ht ih =>
    rw [assignments, ht.run_eval_eq]
    exact ⟨ih.env_eq, fun p hp => List.mem_append_left _ (ih.writes p hp), fun env' agree =>
      .assignFails (ih.replay env' (agree.mono (List.subset_append_left _ _)))⟩
  | @assign x t span env env' v ht ih =>
    -- the name is assigned after all that the value assigns
    rw [assignments, ht.run_eval_eq]
    refine ⟨?_, ?_, fun env₂ agree => ?_⟩
    · rw [Environment.insertAll_concat, ← ih.env_eq]
      rfl
    · rw [List.forall_mem_append, List.forall_mem_singleton]
      exact ⟨fun p hp => List.mem_append_left _ (ih.writes p hp),
        List.mem_append_right _ (List.mem_singleton_self _)⟩
    · rw [Environment.insertAll_concat]
      exact .assign (ih.replay env₂ (agree.mono (List.subset_append_left _ _)))

/-- What a tree answers when it is evaluated in an environment. -/
def answerIn (t : Node) (env : Environment) : Except UndefinedVariable Int64 :=
  EvalResult.answer ((eval t).run env)

/-- The environment that the evaluation of a tree leaves behind. -/
def environmentAfter (t : Node) (env : Environment) : Environment :=
  EvalResult.env ((eval t).run env)

/-- An evaluation makes assignments, and answers and assigns the same in all environments that
    agree on the names that are read. -/
theorem exists_assigned (t : Node) (env : Environment) : ∃ assigned,
    (∀ p ∈ assigned, .write p.1 ∈ t.events) ∧ t.environmentAfter env = env.insertAll assigned ∧
      ∀ env', AgreeOnReads t.events env env' →
        t.answerIn env' = t.answerIn env ∧ t.environmentAfter env' = env'.insertAll assigned := by
  obtain ⟨henv, hwrites, replay⟩ := Outcome.replays (run_eval_eq_iff.1 rfl)
  refine ⟨t.assignments env, hwrites, henv, fun env' agree => ?_⟩
  have again := run_eval_eq_iff.2 (replay env' agree)
  rw [answerIn, environmentAfter, again]
  exact ⟨EvalResult.answer_withEnv _ _, EvalResult.env_withEnv _ _⟩

/-! ## Independence -/

/-- A name occurs in a tree: it is read or assigned. -/
def Mentions (t : Node) (x : String) : Prop :=
  (∃ span, .read x span ∈ t.events) ∨ .write x ∈ t.events

/-- No name that one of two trees assigns occurs in the other. -/
structure Independent (t u : Node) : Prop where
  left : ∀ x, .write x ∈ t.events → ¬u.Mentions x
  right : ∀ x, .write x ∈ u.events → ¬t.Mentions x

/-- Assignments do not matter to a tree in which none of the names occurs. -/
theorem agreeOnReads_insertAll {t u : Node} {assigned : List (String × Int64)}
    (hwrites : ∀ p ∈ assigned, .write p.1 ∈ u.events)
    (h : ∀ x, .write x ∈ u.events → ¬t.Mentions x) (env : Environment) :
    AgreeOnReads t.events env (env.insertAll assigned) := fun _ span hx =>
  Environment.get?_insertAll_of_forall_ne fun p hp heq =>
    h p.1 (hwrites p hp) (.inl ⟨span, heq ▸ hx⟩)

end Node

/-- Of two independent trees, each answers the same whether it is evaluated before or after the
    other, and the environment is the same in the end. This is so for every environment, and also
    if one of the evaluations, or both, fail after some assignments. -/
theorem independent_evaluations_commute {t u : Node} (h : t.Independent u) (env : Environment) :
    t.answerIn (u.environmentAfter env) = t.answerIn env ∧
      u.answerIn (t.environmentAfter env) = u.answerIn env ∧
      u.environmentAfter (t.environmentAfter env) =
        t.environmentAfter (u.environmentAfter env) := by
  obtain ⟨assigned, hwrites, ht, replay⟩ := t.exists_assigned env
  obtain ⟨assigned', hwrites', hu, replay'⟩ := u.exists_assigned env
  obtain ⟨answer, after⟩ := replay _ (Node.agreeOnReads_insertAll hwrites' h.right env)
  obtain ⟨answer', after'⟩ := replay' _ (Node.agreeOnReads_insertAll hwrites h.left env)
  rw [ht, hu]
  refine ⟨answer, answer', ?_⟩
  rw [after, after']
  refine Environment.insertAll_comm fun p hp q hq heq => ?_
  exact h.left p.1 (hwrites p hp) (.inr (heq ▸ hwrites' q hq))

/-- The trees of `(x = w) | y` and `z = (v = w) & 1`, where `y` has no value: the first fails after
    its assignment. -/
theorem independent_evaluations_commute_partway :
    let t : Node := .binary .or (.assign "x" (.var "w" ⟨5, 6⟩) ⟨0, 7⟩) (.var "y" ⟨10, 11⟩) ⟨0, 11⟩
    let u : Node := .assign "z" (.binary .and (.assign "v" (.var "w" ⟨9, 10⟩) ⟨4, 11⟩)
      (.literal 1 ⟨14, 15⟩) ⟨4, 15⟩) ⟨0, 15⟩
    let env := Environment.ofList [("w", 5)]
    t.Independent u ∧ t.answerIn (u.environmentAfter env) = .error ⟨"y", ⟨10, 11⟩⟩ ∧
      u.answerIn (t.environmentAfter env) = .ok 1 ∧
      u.environmentAfter (t.environmentAfter env) =
        .ofList [("v", 5), ("w", 5), ("x", 5), ("z", 1)] ∧
      t.environmentAfter (u.environmentAfter env) =
        .ofList [("v", 5), ("w", 5), ("x", 5), ("z", 1)] := by
  intro t u env
  have independent : t.Independent u := by
    constructor
    · intro x hx
      obtain rfl : x = "x" := by simpa [t, Node.events] using hx
      simp [u, Node.events, Node.Mentions]
    · intro x hx
      obtain rfl | rfl : x = "v" ∨ x = "z" := by simpa [u, Node.events] using hx
      all_goals simp [t, Node.events, Node.Mentions]
  obtain ⟨answer, answer', after⟩ := independent_evaluations_commute independent env
  have both : u.environmentAfter (t.environmentAfter env) =
      .ofList [("v", 5), ("w", 5), ("x", 5), ("z", 1)] := rfl
  exact ⟨independent, answer.trans rfl, answer'.trans rfl, both, after.symm.trans both⟩

end Bitwise
