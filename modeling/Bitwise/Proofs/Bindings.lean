import Bitwise.Environment
import Mathlib.Data.List.Nodup

/-!
# What an environment binds

An environment is given by the values of all names: two environments that give every name the same
value, or none, are equal (`Environment.ext_get?`). Its list of bindings holds the names that have
a value, with that value (`Environment.mem_bindings_iff`).
-/

namespace Bitwise.Environment

/-- In increasing bindings a name is looked up where it is bound. -/
theorem lookup_eq_some_iff {bindings : List (String × Int64)} {x : String} {v : Int64}
    (h : bindings.Pairwise fun a b => a.1 < b.1) :
    lookup x bindings = some v ↔ (x, v) ∈ bindings := by
  induction bindings with
  | nil => simp [lookup]
  | cons a rest ih =>
    obtain ⟨n, w⟩ := a
    obtain ⟨first, tail⟩ := List.pairwise_cons.1 h
    rw [lookup, List.mem_cons, Prod.mk.injEq]
    by_cases hn : n = x
    · subst hn
      -- the name does not occur again
      have once : (n, v) ∉ rest := fun hmem => String.lt_irrefl n (first _ hmem)
      simp [once, eq_comm]
    · rw [if_neg hn, ih tail, or_iff_right (fun heq => hn heq.1.symm)]

/-- The bindings are the names that have a value, with the value. -/
theorem mem_bindings_iff {env : Environment} {x : String} {v : Int64} :
    (x, v) ∈ env.bindings ↔ env.get? x = some v :=
  (lookup_eq_some_iff env.increasing).symm

/-- An environment is given by the values of the names. -/
theorem ext_get? {env env' : Environment} (h : ∀ x, env.get? x = env'.get? x) : env = env' := by
  have nodup : ∀ env : Environment, env.bindings.Nodup := fun env =>
    env.increasing.imp fun {a b} (hlt : a.1 < b.1) (heq : a = b) =>
      String.lt_irrefl b.1 (heq ▸ hlt)
  have same : ∀ a, a ∈ env.bindings ↔ a ∈ env'.bindings := fun (x, v) => by
    rw [mem_bindings_iff, mem_bindings_iff, h x]
  have bindings : env.bindings = env'.bindings := by
    refine List.Perm.eq_of_pairwise (fun a b _ _ hab hba => ?_) env.increasing env'.increasing
      ((List.perm_ext_iff_of_nodup (nodup env) (nodup env')).2 same)
    exact absurd (String.lt_trans hab hba) (String.lt_irrefl _)
  cases env
  cases env'
  cases bindings
  rfl

end Bitwise.Environment
