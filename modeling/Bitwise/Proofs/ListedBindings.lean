import Bitwise.Proofs.ShownValues
import Bitwise.Proofs.Transcript
import Bitwise.Session.Listing

/-!
# Listed bindings

The listing of the variables has one line for each, by increasing names. Since names are identifiers
in every environment that a session can reach (`Session.named_trace`), neither a blank nor a line
feed stands in any of them. So a line tells where its name ends and where the listing goes on, and
the listing tells the environment (`listing_loses_nothing`).

What a line begins with is an assignment, except that a negative value has a sign that no token has.
With the value written as a complement instead, the lines can be typed, one after the other and in
any order, and an environment is rebuilt from nothing.
-/

namespace Bitwise

open Grammar (Statement Chain Operand)
open Session (describe listing)
open Unicode (isBlank)

/-! ## Names in a session -/

namespace Session

variable {s s' : Session}

theorem named_execute {env : Environment} (h : env.Named) (command : Command) :
    (execute command env).2.Named := by
  rw [Command.env_execute]
  exact h.evalLines _

/-- Reading one line of the input binds identifiers only. -/
theorem named_feed (h : s.env.Named) {line : Option String} (hfeed : (s.feed line).2 = some s') :
    s'.env.Named := by
  rw [feed.eq_def] at hfeed
  split at hfeed
  · cases hfeed
  · split at hfeed
    · rw [env_of_executeLine hfeed]
      exact named_execute h _
    · cases hfeed
      exact h
    · cases hfeed
      exact h

/-- In whatever environment a session is, all names are identifiers. -/
theorem named_trace (h : s.env.Named) (lines : List (Option String)) :
    (s.trace lines).env.Named := by
  induction lines generalizing s with
  | nil => exact h
  | cons line lines ih =>
    cases hnext : (s.traceLine line).next with
    | none =>
      rw [trace_cons_of_ended hnext]
      have ended : (s.feed line).2 = none := hnext
      rw [traceLine]
      dsimp only
      rw [ended]
      exact h
    | some s' =>
      rw [trace_cons_of_next hnext]
      exact ih (named_feed h hnext)

end Session

/-! ## Lines -/

section Lines

variable {x y : String} {v w : Int64}

theorem toList_describe (x : String) (v : Int64) : (describe x v).toList =
    x.toList ++ ' ' :: ('=' :: ' ' :: ((Radix.decimal.format v).toList ++
      ' ' :: ('(' :: '0' :: 'x' :: ((Radix.hexadecimal.format v).toList ++ [')'])))) := by
  simp [describe]

/-- No blank stands in a lexeme. -/
theorem Lexeme.notMem_of_isBlank {kind : TokenKind} {lexeme : List Char} (h : Lexeme kind lexeme)
    {c : Char} (hc : isBlank c = true) : c ∉ lexeme := by
  intro hmem
  rw [h.isBlank_of_mem c hmem] at hc
  exact Bool.noConfusion hc

/-- A line tells the variable and its value. -/
theorem describe_injective (hx : Lexeme .identifier x.toList) (hy : Lexeme .identifier y.toList)
    (h : describe x v = describe y w) : x = y ∧ v = w := by
  have text := congrArg String.toList h
  rw [toList_describe, toList_describe] at text
  have name := eq_of_append_cons_eq (hx.notMem_of_isBlank rfl) (hy.notMem_of_isBlank rfl) text
  rw [name] at text
  have rest := List.append_cancel_left text
  simp only [List.cons.injEq, true_and] at rest
  have noBlank (v : Int64) : ' ' ∉ (Radix.decimal.format v).toList :=
    Radix.notMem_format (by decide) rfl v
  have value := eq_of_append_cons_eq (noBlank v) (noBlank w) rest
  exact ⟨String.toList_inj.1 name, Radix.format_injective .decimal (String.toList_inj.1 value)⟩

theorem lineFeed_notMem_describe (hx : Lexeme .identifier x.toList) (v : Int64) :
    '\n' ∉ (describe x v).toList := by
  have name : '\n' ∉ x.toList := hx.notMem_of_isBlank rfl
  rw [toList_describe]
  simp [name, Radix.lineFeed_notMem_format]

/-- No line is what is said if there are no variables. -/
theorem describe_ne (hx : Lexeme .identifier x.toList) (v : Int64) :
    describe x v ≠ "no variables assigned" := by
  intro h
  have text := congrArg String.toList h
  have words : "no variables assigned".toList = "no".toList ++ ' ' :: "variables assigned".toList :=
    rfl
  rw [toList_describe, words] at text
  have name := eq_of_append_cons_eq (hx.notMem_of_isBlank rfl) (by decide) text
  rw [name] at text
  exact absurd (List.cons.inj (List.cons.inj (List.append_cancel_left text)).2).1 (by decide)

end Lines

section Listing

variable {env env' : Environment}

theorem listing_empty : listing ∅ = "no variables assigned" := rfl

theorem Environment.isEmpty_eq_false (h : env ≠ ∅) : env.isEmpty = false := by
  rw [isEmpty, List.isEmpty_eq_false_iff]
  intro hnil
  obtain ⟨bindings, increasing⟩ := env
  subst hnil
  exact h rfl

/-- The lines of a listing are those of the bindings. -/
theorem splitOn_listing (h : env.Named) (hne : env ≠ ∅) :
    (listing env).toList.splitOn '\n' =
      env.bindings.map fun (x, v) => (describe x v).toList := by
  have text : (listing env).toList =
      ['\n'].intercalate (env.bindings.map fun (x, v) => (describe x v).toList) := by
    rw [listing, Environment.isEmpty_eq_false hne, if_neg Bool.false_ne_true,
      String.toList_intercalate, List.map_map]
    rfl
  rw [text]
  refine List.splitOn_intercalate '\n' ?_ ?_
  · intro line hline
    obtain ⟨⟨x, v⟩, hmem, rfl⟩ := List.mem_map.1 hline
    exact lineFeed_notMem_describe (h x ⟨v, Environment.mem_bindings_iff.1 hmem⟩) v
  · rw [ne_eq, List.map_eq_nil_iff, ← List.isEmpty_iff, Bool.not_eq_true]
    exact Environment.isEmpty_eq_false hne

/-- Each line of a listing that is also one of another stands for the same binding there. -/
theorem get?_eq_of_listing_eq (h : env.Named) (h' : env'.Named) (heq : listing env = listing env')
    {x : String} {v : Int64} (hx : env.get? x = some v) : env'.get? x = some v := by
  have nonempty : env ≠ ∅ := by
    rintro rfl
    cases hx
  have hmem : (describe x v).toList ∈ (listing env).toList.splitOn '\n' := by
    rw [splitOn_listing h nonempty]
    exact List.mem_map.2 ⟨(x, v), Environment.mem_bindings_iff.2 hx, rfl⟩
  rw [heq] at hmem
  by_cases hempty : env' = ∅
  · have oneLine : '\n' ∉ "no variables assigned".toList := by decide
    rw [hempty, listing_empty, List.splitOn_eq_singleton oneLine, List.mem_singleton] at hmem
    exact absurd (String.toList_inj.1 hmem) (describe_ne (h x ⟨v, hx⟩) v)
  · rw [splitOn_listing h' hempty] at hmem
    obtain ⟨⟨y, w⟩, hy, hline⟩ := List.mem_map.1 hmem
    have hy' := Environment.mem_bindings_iff.1 hy
    have same := String.toList_inj.1 hline
    obtain ⟨rfl, rfl⟩ := describe_injective (h' y ⟨w, hy'⟩) (h x ⟨v, hx⟩) same
    exact hy'

theorem eq_of_listing_eq (h : env.Named) (h' : env'.Named) (heq : listing env = listing env') :
    env = env' := by
  refine Environment.ext_get? fun x => Option.ext fun v => ?_
  exact ⟨get?_eq_of_listing_eq h h' heq, get?_eq_of_listing_eq h' h heq.symm⟩

end Listing

/-! ## Typing a listing -/

/-- A value as it can be typed: a negative one is the complement of one that is not negative. -/
def typedValue (v : Int64) : String :=
  if v < 0 then "~" ++ Radix.decimal.format (~~~v) else Radix.decimal.format v

/-- The assignment that the line of a variable begins with, as it can be typed. -/
def assignment (x : String) (v : Int64) : String :=
  x ++ " = " ++ typedValue v

section Typing

variable {x : String} {v : Int64} {env env' : Environment}

/-- If a value is not negative, its line begins with its assignment. -/
theorem describe_of_nonneg (h : 0 ≤ v) (x : String) :
    describe x v = assignment x v ++ (" (" ++ ("0x" ++ Radix.hexadecimal.format v ++ ")")) := by
  have lead : " (0x" = " (" ++ "0x" := by decide
  rw [assignment, typedValue, if_neg (Int64.not_lt.2 h), describe, lead]
  simp only [String.append_assoc]

/-- An assignment to a name evaluates what it assigns and binds the name. -/
theorem evalText_assign {source : String} {e : Expr} (hx : Lexeme .identifier x.toList)
    (hwritten : Written Chain.tokens Chain.expr source.toList e)
    (hparens : source.toList.filter isParen = [])
    (hvalue : ∀ t : Node, t.erase = e → t.Outcome env (.ok v env')) :
    (evalText (x ++ " = " ++ source)).run env = .ok v (env'.insert x v) := by
  have text : (x ++ " = " ++ source).toList =
      x.toList ++ ([' '] ++ (['='] ++ ([' '] ++ source.toList))) := by
    simp
  have parens : (x ++ " = " ++ source).toList.filter isParen = [] := by
    rw [text, List.filter_append, filter_isParen_of_identifierPart hx.isIdentifierPart_of_mem]
    exact hparens
  have written := Grammar.written_assign hx hwritten
  rw [← text] at written
  obtain ⟨node, hnode, hexpr⟩ :=
    exists_parse_of_written written (Text.nestedWithin_of_filter_eq_nil parens)
  rw [evalText_of_ok hnode]
  cases node with
  | assign y t span =>
    cases hexpr
    rw [(Node.Outcome.assign (hvalue t rfl)).run_eval_eq]
    rfl
  | _ => cases hexpr

/-- What is typed for a value comes to it. -/
theorem exists_written_typedValue (v : Int64) : ∃ e,
    Written Chain.tokens Chain.expr (typedValue v).toList e ∧
      (typedValue v).toList.filter isParen = [] ∧
      ∀ t : Node, t.erase = e → ∀ env, t.Outcome env (.ok v env) := by
  by_cases hneg : v < 0
  · obtain ⟨digits, htext, hl, hrange, hvalue⟩ := exists_digits_of_nonneg (complement_nonneg hneg)
    have text : (typedValue v).toList = '~' :: digits.toList := by
      rw [typedValue, if_pos hneg, ← htext]
      exact String.toList_append
    rw [text]
    refine ⟨_, Grammar.written_single (Grammar.written_complement hl hrange),
      hl.filter_isParen 0, fun t ht env => ?_⟩
    cases t with
    | complement operand span =>
      cases operand <;> cases ht
      rw [← Int64.not_not (a := v), ← hvalue]
      exact .complement .literal
    | _ => cases ht
  · obtain ⟨digits, htext, hl, hrange, hvalue⟩ := exists_digits_of_nonneg (Int64.not_lt.1 hneg)
    have text : typedValue v = digits := (if_neg hneg).trans htext
    rw [text]
    refine ⟨_, Grammar.written_single (Grammar.written_number hl hrange), hl.filter_isParen 0,
      fun t ht env => ?_⟩
    cases t <;> cases ht
    rw [← hvalue]
    exact .literal

theorem evalText_assignment (hx : Lexeme .identifier x.toList) (v : Int64) (env : Environment) :
    (evalText (assignment x v)).run env = .ok v (env.insert x v) := by
  obtain ⟨e, hwritten, hparens, hvalue⟩ := exists_written_typedValue v
  exact evalText_assign hx hwritten hparens fun t ht => hvalue t ht env

/-- Bindings that are typed one after the other are made one after the other. -/
theorem evalLines_assignments {bindings : List (String × Int64)}
    (h : ∀ p ∈ bindings, Lexeme .identifier p.1.toList) (env : Environment) :
    evalLines env (bindings.map fun (x, v) => assignment x v) = env.insertAll bindings := by
  induction bindings generalizing env with
  | nil => rfl
  | cons p bindings ih =>
    obtain ⟨hp, hbindings⟩ := List.forall_mem_cons.1 h
    have first := evalText_assignment hp p.2 env
    rw [List.map_cons, evalLines, List.foldl_cons, first]
    exact ih hbindings _

end Typing

/-! ## Rebuilding an environment -/

section Rebuilding

variable {env : Environment} {bindings : List (String × Int64)} {x : String} {v : Int64}

/-- A name that is assigned one value only has it in the end. -/
theorem Environment.get?_insertAll_of_mem (hmem : (x, v) ∈ bindings)
    (honly : ∀ w, (x, w) ∈ bindings → w = v) : (env.insertAll bindings).get? x = some v := by
  induction bindings generalizing env with
  | nil => exact absurd hmem List.not_mem_nil
  | cons p bindings ih =>
    obtain ⟨y, w⟩ := p
    by_cases hrest : (x, v) ∈ bindings
    · exact ih hrest fun w hw => honly w (List.mem_cons_of_mem _ hw)
    · obtain ⟨rfl, rfl⟩ := Prod.mk.inj ((List.mem_cons.1 hmem).resolve_right hrest)
      -- the first assignment is the only one to the name
      have others : ∀ p ∈ bindings, p.1 ≠ x := by
        rintro ⟨y, w⟩ hp rfl
        exact hrest (honly w (List.mem_cons_of_mem _ hp) ▸ hp)
      refine (get?_insertAll_of_forall_ne others).trans ?_
      rw [get?_insert, if_pos rfl]

/-- The bindings of an environment make the environment, in any order. -/
theorem insertAll_eq (h : ∀ x v, (x, v) ∈ bindings ↔ env.get? x = some v) :
    (∅ : Environment).insertAll bindings = env := by
  refine Environment.ext_get? fun x => ?_
  cases hx : env.get? x with
  | some v =>
    refine Environment.get?_insertAll_of_mem ((h x v).2 hx) fun w hw => ?_
    exact Option.some.inj (((h x w).1 hw).symm.trans hx)
  | none =>
    have unassigned : ∀ p ∈ bindings, p.1 ≠ x := by
      rintro ⟨y, v⟩ hp rfl
      rw [(h y v).1 hp] at hx
      cases hx
    rw [Environment.get?_insertAll_of_forall_ne unassigned, Environment.get?_empty]

end Rebuilding

/-- What a listing shows of an environment. -/
structure ListsBindings (env : Environment) : Prop where
  /-- If there are variables, each of them has one line, and the lines are in the order of the
      names. -/
  lines : env ≠ ∅ → ∃ bindings : List (String × Int64),
    (listing env).toList.splitOn '\n' = bindings.map (fun (x, v) => (describe x v).toList) ∧
      bindings.Pairwise (fun a b => a.1 < b.1) ∧ ∀ x v, (x, v) ∈ bindings ↔ env.get? x = some v
  /-- A line begins with what can be typed for it, unless the value is negative. -/
  typed : ∀ x v, 0 ≤ v → ∃ rest, describe x v = assignment x v ++ (" (" ++ rest)
  /-- What can be typed for the lines, in any order, rebuilds the environment from nothing. -/
  rebuilt : ∀ bindings : List (String × Int64), bindings.Perm env.bindings →
    evalLines ∅ (bindings.map fun (x, v) => assignment x v) = env
  /-- None of it fails. -/
  succeeds : ∀ x v, env.get? x = some v → ∀ before,
    (evalText (assignment x v)).run before = .ok v (before.insert x v)

theorem listsBindings {env : Environment} (h : env.Named) : ListsBindings env where
  lines hne := ⟨env.bindings, splitOn_listing h hne, env.increasing,
    fun _ _ => Environment.mem_bindings_iff⟩
  typed x v hv := ⟨"0x" ++ Radix.hexadecimal.format v ++ ")", describe_of_nonneg hv x⟩
  rebuilt bindings hperm := by
    have same : ∀ x v, (x, v) ∈ bindings ↔ env.get? x = some v := fun x v =>
      hperm.mem_iff.trans Environment.mem_bindings_iff
    rw [evalLines_assignments fun p hp => h p.1 ⟨p.2, (same p.1 p.2).1 hp⟩, insertAll_eq same]
  succeeds x v hx := evalText_assignment (h x ⟨v, hx⟩) v

/-- In all environments of sessions the names are identifiers. The listing of such an environment
    has one line for each binding, and rebuilds it when it is typed. Other environments have other
    listings. -/
theorem listing_loses_nothing :
    (∀ lines, (Session.initial.trace lines).env.Named) ∧
      ∀ env : Environment, env.Named → ListsBindings env ∧
        ∀ env' : Environment, env'.Named → listing env' = listing env → env' = env :=
  ⟨fun lines => Session.named_trace Environment.named_empty lines, fun _ h =>
    ⟨listsBindings h, fun _ h' heq => eq_of_listing_eq h' h heq⟩⟩

/-- The variables of a session of two lines, one of them with a negative value. They are rebuilt
    from their lines in the other order. -/
theorem listing_loses_nothing_of_negative :
    let env := (Session.initial.trace [some "größe = ~4\n", some "b = 0xff\n"]).env
    env.bindings = [("b", 255), ("größe", -5)] ∧
      listing env = "b = 255 (0xff)\ngröße = -5 (0xfffffffffffffffb)" ∧
      evalLines ∅ ["größe = ~4", "b = 255"] = env := by
  intro env
  have bindings : env.bindings = [("b", 255), ("größe", -5)] := by decide +kernel
  have shown : listing env = "b = 255 (0xff)\ngröße = -5 (0xfffffffffffffffb)" := by decide +kernel
  have typed : [("größe", -5), ("b", 255)].map (fun (x, v) => assignment x v) =
      ["größe = ~4", "b = 255"] := by
    decide +kernel
  obtain ⟨lists, -⟩ := listing_loses_nothing.2 env (listing_loses_nothing.1 _)
  have rebuilt := lists.rebuilt [("größe", -5), ("b", 255)] (bindings ▸ .swap _ _ _)
  rw [typed] at rebuilt
  exact ⟨bindings, shown, rebuilt⟩

end Bitwise
