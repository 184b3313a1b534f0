import Bitwise.Program
import Bitwise.Proofs.FailedLines

/-!
# Traces of sessions

What a session writes does not tell all that it does. Its *trace* records, for some lines of the
input, the commands that it executes, what it writes, the variables in the end, and the session
that is ready to read more, unless it has ended (`Session.trace`).

Traces are joined like the lines they are about (`Session.trace_append_of_next`), so that any point
of a session can be taken for the beginning of the rest. The output of a session is that of its
trace, with the end of the input told if the session lasts until then (`Session.run_eq`).
-/

namespace Bitwise

/-- What a session has done with some lines of the input. -/
structure Trace where
  /-- The commands that it has executed, the one that leaves it included. -/
  commands : List Session.Command
  output : Output
  /-- The variables in the end. -/
  env : Environment
  /-- The session after the lines, unless it has ended. -/
  next : Option Session
  deriving DecidableEq

namespace Trace

/-- A trace that goes on with another one. -/
def andThen (first second : Trace) : Trace :=
  { commands := first.commands ++ second.commands
    output := first.output ++ second.output
    env := second.env
    next := second.next }

theorem andThen_assoc (a b c : Trace) : (a.andThen b).andThen c = a.andThen (b.andThen c) := by
  rw [andThen, andThen, andThen, andThen, List.append_assoc, Output.append_assoc]

end Trace

namespace Session

variable {s s' : Session} {line : Option String} {lines : List (Option String)} {output : Output}

/-- The command that a session executes when it reads a line of the input, if it executes any. -/
def command? (s : Session) : Option String → Option Command
  | none => none
  | some line =>
    match Reading.add s.buffer line.toList with
    | .line text => some (commandOf text)
    | _ => none

/-- What a session does with one line of the input. -/
def traceLine (s : Session) (line : Option String) : Trace :=
  match s.feed line with
  | (output, next) =>
    { commands := (s.command? line).toList
      output
      env := (next.getD s).env
      next }

/-- A line that is complete is executed. -/
theorem traceLine_of_line {text : String} {line : List Char}
    (h : Reading.add s.buffer text.toList = .line line) :
    s.traceLine (some text) =
      { commands := [commandOf line]
        output := (executeLine s.env line).1
        env := ((executeLine s.env line).2.getD s).env
        next := (executeLine s.env line).2 } := by
  simp only [traceLine, feed, command?, h, Option.toList_some]

/-- A line with a parenthesis that closes nothing is kept, and a message is written. -/
theorem traceLine_of_unmatched {text : String} {offset : Nat} {kept : List Char}
    (h : Reading.add s.buffer text.toList = .unmatched offset kept) :
    s.traceLine (some text) =
      { commands := []
        output := .complain (Balance.unmatchedMessage offset)
        env := s.env
        next := some ⟨s.env, kept⟩ } := by
  simp only [traceLine, feed, command?, h, Option.toList_none, Option.getD_some]

/-- What a session does with lines of the input, as long as it has not ended. -/
def trace (s : Session) : List (Option String) → Trace
  | [] => { commands := [], output := .nothing, env := s.env, next := some s }
  | line :: lines =>
    match (s.traceLine line).next with
    | some s' => (s.traceLine line).andThen (s'.trace lines)
    | none => s.traceLine line

theorem trace_cons_of_next (h : (s.traceLine line).next = some s') :
    s.trace (line :: lines) = (s.traceLine line).andThen (s'.trace lines) := by
  rw [trace, h]

theorem trace_cons_of_ended (h : (s.traceLine line).next = none) :
    s.trace (line :: lines) = s.traceLine line := by
  rw [trace, h]

/-- Traces are joined like the lines that they are about. -/
theorem trace_append_of_next {more : List (Option String)} (h : (s.trace lines).next = some s') :
    s.trace (lines ++ more) = (s.trace lines).andThen (s'.trace more) := by
  induction lines generalizing s with
  | nil =>
    cases h
    rw [List.nil_append, Trace.andThen, trace, List.nil_append, Output.nothing_append]
  | cons line lines ih =>
    cases hline : (s.traceLine line).next with
    | none =>
      rw [trace_cons_of_ended hline, hline] at h
      cases h
    | some s₁ =>
      rw [trace_cons_of_next hline] at h ⊢
      rw [List.cons_append, trace_cons_of_next hline, ih h, Trace.andThen_assoc]

/-- The output of a session is that of its trace, and the end of the input is told if it comes
    before the end of the session. -/
theorem run_eq (s : Session) (lines : List (Option String)) :
    s.run lines =
      (s.trace lines).output ++ if (s.trace lines).next.isSome then farewell else .nothing := by
  induction lines generalizing s with
  | nil => exact (Output.nothing_append _).symm
  | cons line lines ih =>
    rw [run]
    cases hfeed : s.feed line with
    | mk output next =>
      have hline : s.traceLine line =
          ⟨(s.command? line).toList, output, (next.getD s).env, next⟩ := by
        rw [traceLine, hfeed]
      cases next with
      | none =>
        rw [trace_cons_of_ended (by rw [hline]), hline]
        exact (Output.append_nothing _).symm
      | some s' =>
        rw [trace_cons_of_next (by rw [hline]), hline]
        exact (congrArg (output ++ ·) (ih s')).trans (Output.append_assoc ..).symm

end Session

/-- The program that runs a session succeeds, and writes what the session does. -/
theorem Program.run_of_session {args : List String} {history : Option String}
    (h : plan (.parse args) = .session history) (hasHistory : String → Bool)
    (lines : List (Option String)) :
    run args hasHistory lines =
      (0, Session.greeting (history.any (!hasHistory ·)) ++ Session.initial.run lines) := by
  rw [run, h]

end Bitwise
