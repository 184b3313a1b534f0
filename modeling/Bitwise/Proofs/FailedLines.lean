import Bitwise.Proofs.Events
import Bitwise.Session.Loop

/-!
# Lines that fail

A statement that cannot be parsed leaves the variables as they are. A statement that reads a
variable without a value need not: the names that it has bound by then stay bound, with their new
values. So the variables are left as they are, whatever they are, if the statement reads all names
before it binds any (`Node.ReadsFirst`), such as an assignment whose value assigns nothing.

The same goes for the lines of a session (`bindings_after_failure`). The lines that fail can be left
out of it without a difference to the variables if all statements read first
(`Session.bindingsAfter_succeeding`), but not in general (`failed_line_assigns`).
-/

namespace Bitwise

open Event (UndefinedRead Extends)

/-! ## Statements -/

/-- No name is read after one has been bound. -/
def Node.ReadsFirst (t : Node) : Prop :=
  ∀ before x span, before ++ [.read x span] <+: t.events → ∀ y, .write y ∉ before

/-- An assignment reads first if its value assigns nothing. -/
theorem Node.readsFirst_assign {x : String} {t : Node} {span : Span}
    (h : ∀ y, .write y ∉ t.events) : ReadsFirst (.assign x t span) := by
  intro before y place hbefore z hz
  rcases List.prefix_concat_iff.1 hbefore with heq | hbefore
  · -- the last event is the assignment, and no read
    exact Event.noConfusion (List.append_singleton_inj.1 heq).2
  · exact h z (hbefore.subset (List.mem_append_left _ hz))

/-- Events that bind nothing leave the environment as it is. -/
theorem Event.Run.eq_of_forall_notMem {env env' : Environment} {es : List Event}
    (h : Run env es env') (hes : ∀ x, .write x ∉ es) : env' = env := by
  induction h with
  | nil => rfl
  | cons step _ ih =>
    cases step with
    | read _ => exact ih fun x hx => hes x (List.mem_cons_of_mem _ hx)
    | write _ => exact absurd List.mem_cons_self (hes _)

/-- What a statement leaves behind when it fails. -/
structure KeptOnFailure (source : String) (env : Environment) : Prop where
  /-- If it cannot be parsed, nothing has changed. -/
  of_parse : ∀ e env', (evalText source).run env = .error (.parse e) env' → env' = env
  /-- If a variable has no value, the names are bound that are assigned before it is read, and all
      others are as they were. Nothing has changed if the statement reads first. -/
  of_eval : ∀ e env', (evalText source).run env = .error (.eval e) env' → ∃ tree before,
    parse source = .ok tree ∧ UndefinedRead env (Node.events tree) before e.name e.span ∧
      Extends env before env' ∧ (Node.ReadsFirst tree → env' = env)

theorem keptOnFailure (source : String) (env : Environment) : KeptOnFailure source env where
  of_parse _ _ := eq_of_evalText_parse
  of_eval e env' h := by
    obtain ⟨tree, hparse, heval⟩ := exists_of_evalText_eval h
    obtain ⟨before, undefined, -, hrun⟩ := Node.of_run_eval_error heval
    exact ⟨tree, before, hparse, undefined, hrun.extends, fun hreads =>
      hrun.eq_of_forall_notMem (hreads _ _ _ undefined.comes)⟩

/-- A statement that reads first and fails leaves the environment as it is. -/
theorem KeptOnFailure.eq {source : String} {env env' : Environment} {e : StatementError}
    (h : KeptOnFailure source env)
    (hreads : ∀ tree, parse source = .ok tree → Node.ReadsFirst tree)
    (hrun : (evalText source).run env = .error e env') : env' = env := by
  cases e with
  | parse e => exact h.of_parse e env' hrun
  | eval e =>
    obtain ⟨tree, -, hparse, -, -, kept⟩ := h.of_eval e env' hrun
    exact kept (hreads tree hparse)

/-! ## Sessions -/

namespace Session

/-- Whether a command is answered with an error: a statement without a value, or something to be
    shown that is no statement. -/
def Command.fails (env : Environment) : Command → Bool
  | .eval source =>
    match (evalText source).run env with
    | .ok _ _ => false
    | .error _ _ => true
  | .tree source =>
    match Bitwise.parse source with
    | .ok _ => false
    | .error _ => true
  | _ => false

/-- What a line asks for. -/
def commandOf (line : List Char) : Command :=
  Command.parse (String.ofList line)

/-- A line that leaves the session writes nothing. -/
theorem executeLine_of_exit {line : List Char} (h : commandOf line = .exit) (env : Environment) :
    executeLine env line = (.nothing, none) := by
  rw [executeLine, ← commandOf, h]
  rfl

/-- Any other line is executed, and another prompt is written. -/
theorem executeLine_of_ne_exit {line : List Char} (h : commandOf line ≠ .exit)
    (env : Environment) : executeLine env line = ((execute (commandOf line) env).1 ++ .print prompt,
      some ⟨(execute (commandOf line) env).2, []⟩) := by
  rw [executeLine, ← commandOf, if_neg h]

/-- The variables after lines. A line that leaves the session is the last one. -/
def bindingsAfter (env : Environment) : List (List Char) → Environment
  | [] => env
  | line :: lines =>
    match (executeLine env line).2 with
    | some s => bindingsAfter s.env lines
    | none => env

/-- The lines of a session that do not fail, until one of them leaves it. -/
def succeeding (env : Environment) : List (List Char) → List (List Char)
  | [] => []
  | line :: lines =>
    match (executeLine env line).2 with
    | some s =>
      if (commandOf line).fails env then succeeding s.env lines
      else line :: succeeding s.env lines
    | none => [line]

/-- All statements of a line read first. -/
def ReadsFirst (line : List Char) : Prop :=
  ∀ source tree, commandOf line = .eval source → parse source = .ok tree → Node.ReadsFirst tree

theorem env_of_executeLine {env : Environment} {line : List Char} {s : Session}
    (h : (executeLine env line).2 = some s) : s.env = (execute (commandOf line) env).2 := by
  by_cases hexit : commandOf line = .exit
  · rw [executeLine_of_exit hexit] at h
    cases h
  · rw [executeLine_of_ne_exit hexit] at h
    cases h
    rfl

/-- A line that fails leaves the variables as they are if it reads first. -/
theorem env_of_fails {env : Environment} {line : List Char} {s : Session}
    (h : (executeLine env line).2 = some s) (hfails : (commandOf line).fails env = true)
    (hreads : ReadsFirst line) : s.env = env := by
  rw [env_of_executeLine h]
  cases hcommand : commandOf line with
  | eval source =>
    rw [hcommand, Command.fails] at hfails
    cases hrun : (evalText source).run env with
    | ok v env' =>
      rw [hrun] at hfails
      cases hfails
    | error e env' =>
      have kept := (keptOnFailure source env).eq (fun tree => hreads source tree hcommand) hrun
      rw [execute, hrun]
      exact kept
  | tree source =>
    rw [execute]
    cases parse source <;> rfl
  | _ => rfl

/-- Lines that fail can be left out of a session if all lines read first. -/
theorem bindingsAfter_succeeding {env : Environment} {lines : List (List Char)}
    (h : ∀ line ∈ lines, ReadsFirst line) :
    bindingsAfter env (succeeding env lines) = bindingsAfter env lines := by
  induction lines generalizing env with
  | nil => rfl
  | cons line lines ih =>
    obtain ⟨hline, hlines⟩ := List.forall_mem_cons.1 h
    rw [succeeding, bindingsAfter]
    cases hexec : (executeLine env line).2 with
    | none => rw [bindingsAfter, hexec]
    | some s =>
      dsimp only
      by_cases hfails : (commandOf line).fails env = true
      · rw [if_pos hfails, env_of_fails hexec hfails hline]
        exact ih hlines
      · rw [if_neg hfails, bindingsAfter, hexec]
        exact ih hlines

end Session

/-- What is left of a line that fails. The variables are as before if it cannot be parsed or reads
    first, and otherwise the names are bound that are assigned before the variable without a value.
    So the variables of a session in which all lines read first are due to the lines that do not
    fail. -/
theorem bindings_after_failure (source : String) (env : Environment) (lines : List (List Char)) :
    KeptOnFailure source env ∧
      ((∀ line ∈ lines, Session.ReadsFirst line) →
        Session.bindingsAfter env (Session.succeeding env lines) =
          Session.bindingsAfter env lines) :=
  ⟨keptOnFailure source env, Session.bindingsAfter_succeeding⟩

/-- In general, a line that fails can assign. Here the variable is assigned in parentheses before
    another one has no value. -/
theorem failed_line_assigns :
    (evalText "(keep = 1) | missing").run (.ofList [("keep", 15)]) =
        .error (.eval ⟨"missing", ⟨13, 20⟩⟩) (.ofList [("keep", 1)]) ∧
      Environment.ofList [("keep", 1)] ≠ .ofList [("keep", 15)] ∧
      let lines := ["keep = 0xf".toList, "(keep = 1) | missing".toList]
      Session.bindingsAfter ∅ (Session.succeeding ∅ lines) ≠ Session.bindingsAfter ∅ lines := by
  have parsed : parse "(keep = 1) | missing" = .ok (.binary .or
      (.assign "keep" (.literal 1 ⟨8, 9⟩) ⟨0, 10⟩) (.var "missing" ⟨13, 20⟩) ⟨0, 20⟩) := by
    decide +kernel
  refine ⟨?_, by decide +kernel, by decide +kernel⟩
  rw [evalText_of_ok parsed]
  rfl

end Bitwise
