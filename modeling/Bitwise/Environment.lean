/-!
# Environments

An environment binds names to values. It lists its bindings in the order of their names, each name
once, so that two environments that bind the same names to the same values are equal.
-/

namespace Bitwise

/-- Bindings, by increasing names. Names are compared by their code points. -/
structure Environment where
  bindings : List (String × Int64)
  increasing : bindings.Pairwise fun a b => a.1 < b.1
  deriving DecidableEq

namespace Environment

instance : EmptyCollection Environment :=
  ⟨⟨[], .nil⟩⟩

/-- The value of a name in a list of bindings. -/
def lookup (name : String) : List (String × Int64) → Option Int64
  | [] => none
  | (n, v) :: rest => if n = name then some v else lookup name rest

/-- The value that a name is bound to. -/
def get? (env : Environment) (name : String) : Option Int64 :=
  lookup name env.bindings

/-- A list of increasing bindings with one more, in the place of the one with the same name if
    there is one. -/
def insertInto (name : String) (value : Int64) : List (String × Int64) → List (String × Int64)
  | [] => [(name, value)]
  | (n, v) :: rest =>
    if name < n then (name, value) :: (n, v) :: rest
    else if name = n then (name, value) :: rest
    else (n, v) :: insertInto name value rest

theorem mem_insertInto {name : String} {value : Int64} {bindings : List (String × Int64)}
    {b : String × Int64} (h : b ∈ insertInto name value bindings) :
    b = (name, value) ∨ b ∈ bindings := by
  induction bindings with
  | nil => simpa [insertInto] using h
  | cons a rest ih =>
    obtain ⟨n, v⟩ := a
    by_cases hlt : name < n
    · simpa [insertInto, hlt] using h
    · by_cases heq : name = n
      · rw [insertInto, if_neg hlt, if_pos heq, List.mem_cons] at h
        exact h.imp_right (List.mem_cons_of_mem _)
      · rw [insertInto, if_neg hlt, if_neg heq, List.mem_cons] at h
        rcases h with rfl | h
        · exact .inr List.mem_cons_self
        · exact (ih h).imp_right (List.mem_cons_of_mem _)

theorem pairwise_insertInto (name : String) (value : Int64) {bindings : List (String × Int64)}
    (h : bindings.Pairwise fun a b => a.1 < b.1) :
    (insertInto name value bindings).Pairwise fun a b => a.1 < b.1 := by
  induction bindings with
  | nil => simp [insertInto]
  | cons a rest ih =>
    obtain ⟨n, v⟩ := a
    obtain ⟨first, tail⟩ := List.pairwise_cons.1 h
    by_cases hlt : name < n
    · rw [insertInto, if_pos hlt]
      refine List.pairwise_cons.2 ⟨fun b hb => ?_, h⟩
      rcases List.mem_cons.1 hb with rfl | hb
      · exact hlt
      · exact String.lt_trans hlt (first b hb)
    · by_cases heq : name = n
      · subst heq
        rw [insertInto, if_neg hlt, if_pos rfl]
        exact List.pairwise_cons.2 ⟨first, tail⟩
      · rw [insertInto, if_neg hlt, if_neg heq]
        refine List.pairwise_cons.2 ⟨fun b hb => ?_, ih tail⟩
        rcases mem_insertInto hb with rfl | hb
        · exact (Std.lt_trichotomy n name).resolve_right fun h' =>
            h'.elim (fun e => heq e.symm) hlt
        · exact first b hb

/-- Binds a name to a value, whether it was bound or not. -/
def insert (env : Environment) (name : String) (value : Int64) : Environment :=
  ⟨insertInto name value env.bindings, pairwise_insertInto name value env.increasing⟩

theorem lookup_insertInto (name other : String) (value : Int64)
    (bindings : List (String × Int64)) :
    lookup other (insertInto name value bindings) =
      if other = name then some value else lookup other bindings := by
  induction bindings with
  | nil => simp [insertInto, lookup, eq_comm]
  | cons a rest ih =>
    obtain ⟨n, v⟩ := a
    by_cases hlt : name < n
    · rw [insertInto, if_pos hlt]
      simp [lookup, eq_comm]
    · by_cases heq : name = n
      · subst heq
        rw [insertInto, if_neg hlt, if_pos rfl]
        by_cases h : other = name
        · simp [lookup, h]
        · simp [lookup, h, Ne.symm h]
      · rw [insertInto, if_neg hlt, if_neg heq, lookup, lookup, ih]
        by_cases h : n = other
        · simp [h, h ▸ Ne.symm heq]
        · simp [h]

/-- A name that has just been bound has its value, and no other binding has changed. -/
@[simp] theorem get?_insert (env : Environment) (name other : String) (value : Int64) :
    (env.insert name value).get? other = if other = name then some value else env.get? other :=
  lookup_insertInto name other value env.bindings

@[simp] theorem get?_empty (name : String) : (∅ : Environment).get? name = none := rfl

/-- The environment that binds names one after the other. -/
def ofList (bindings : List (String × Int64)) : Environment :=
  bindings.foldl (fun env (name, value) => env.insert name value) ∅

/-- The bound names, in increasing order. -/
def names (env : Environment) : List String :=
  env.bindings.map (·.1)

/-- The number of bound names. -/
def size (env : Environment) : Nat :=
  env.bindings.length

/-- Whether no name is bound. -/
def isEmpty (env : Environment) : Bool :=
  env.bindings.isEmpty

end Environment

end Bitwise
