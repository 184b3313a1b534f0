import Bitwise.Proofs.Reading
import Bitwise.Proofs.SessionNames
import Bitwise.Proofs.Trace

/-!
# Transcripts

If every line of the input is complete, a session is no more than its commands. It executes them
one after the other, up to the first that leaves it, each in the environment that those before it
have left behind, and writes a prompt and an answer for each of them (`session_folds_lines`).

Only statements change the environment. So all other lines but those that leave the session can be
taken out of the input without a difference to the variables and to the answers that remain.
-/

namespace Bitwise.Session

variable {env : Environment} {line : List Char} {lines : List (List Char)} {command : Command}

/-! ## Commands one after the other -/

namespace Command

/-- The statement that is to be evaluated, if there is one. -/
def statement? : Command → Option String
  | .eval source => some source
  | _ => none

/-- Whether a command makes a difference to those after it. -/
def matters : Command → Bool
  | .eval _ | .exit => true
  | _ => false

/-- Only statements change the environment. -/
theorem env_execute (command : Command) (env : Environment) :
    (execute command env).2 = evalLines env command.statement?.toList := by
  cases command with
  | tree source =>
    rw [execute]
    cases Bitwise.parse source <;> rfl
  | _ => rfl

theorem env_execute_of_matters_eq_false (h : command.matters = false) (env : Environment) :
    (execute command env).2 = env := by
  rw [env_execute]
  cases command with
  | eval source => cases h
  | _ => rfl

theorem evalLines_filterMap_cons (command : Command) (commands : List Command) :
    evalLines env ((command :: commands).filterMap statement?) =
      evalLines (execute command env).2 (commands.filterMap statement?) := by
  rw [env_execute]
  cases command <;> rfl

/-- The statements are among the commands that make a difference. -/
theorem filterMap_statement?_filter (commands : List Command) :
    (commands.filter matters).filterMap statement? = commands.filterMap statement? := by
  rw [List.filterMap_filter]
  refine congrArg (List.filterMap · commands) (funext fun command => ?_)
  cases command <;> rfl

end Command

/-- The commands up to the first that leaves the session. -/
def upToExit : List Command → List Command
  | [] => []
  | command :: commands =>
    if command = .exit then [command] else command :: upToExit commands

theorem upToExit_filter (commands : List Command) :
    upToExit (commands.filter Command.matters) = (upToExit commands).filter Command.matters := by
  induction commands with
  | nil => rfl
  | cons command commands ih =>
    by_cases hexit : command = .exit
    · subst hexit
      rfl
    · rw [upToExit, if_neg hexit]
      by_cases hmatters : command.matters = true
      · rw [List.filter_cons_of_pos hmatters, List.filter_cons_of_pos hmatters, upToExit,
          if_neg hexit, ih]
      · rw [List.filter_cons_of_neg hmatters, List.filter_cons_of_neg hmatters, ih]

/-- Commands with what is written about each, in the environment that those before it leave
    behind. -/
def answers (env : Environment) : List Command → List (Command × Output)
  | [] => []
  | command :: commands =>
    (command, (execute command env).1) :: answers (execute command env).2 commands

theorem answers_filter (env : Environment) (commands : List Command) :
    answers env (commands.filter Command.matters) =
      (answers env commands).filter (·.1.matters) := by
  induction commands generalizing env with
  | nil => rfl
  | cons command commands ih =>
    cases hmatters : command.matters with
    | true => simp [answers, hmatters, ih]
    | false => simp [answers, hmatters, ih, Command.env_execute_of_matters_eq_false]

/-! ## What is written -/

/-- The lines that a session begins with. -/
def heading (historyMissing : Bool) : String :=
  "bitcalc v0.1.0\nType ':help' for help, 'exit' or Ctrl-D to quit.\n"
    ++ if historyMissing then "No previous history.\n" else ""

theorem greeting_eq (historyMissing : Bool) :
    greeting historyMissing = .print (heading historyMissing) ++ .print prompt := by
  cases historyMissing <;> decide +kernel

/-- A prompt before each answer, and another one at the end of the input if it is reached. -/
def transcript (answers : List (Command × Output)) : Output :=
  { stdout := String.join (answers.map fun (_, output) => prompt ++ output.stdout)
      ++ if .exit ∈ answers.map Prod.fst then "" else prompt ++ "\n"
    stderr := String.join (answers.map fun (_, output) => output.stderr) }

theorem transcript_nil : transcript [] = .print prompt ++ farewell := by
  decide +kernel

theorem transcript_exit (output : Output) :
    transcript [(.exit, output)] = .print prompt ++ output := by
  simp [transcript, Output.append_def, Output.print]

theorem transcript_cons (h : command ≠ .exit) (output : Output)
    (answers : List (Command × Output)) :
    transcript ((command, output) :: answers) =
      .print prompt ++ (output ++ transcript answers) := by
  have last : .exit ∈ command :: answers.map Prod.fst ↔ .exit ∈ answers.map Prod.fst :=
    List.mem_cons.trans (or_iff_right h.symm)
  rw [transcript, List.map_cons, List.map_cons, List.map_cons, String.join_cons, String.join_cons,
    if_congr last rfl rfl]
  simp [transcript, Output.append_def, Output.print, String.append_assoc]

/-! ## Lines that are complete -/

/-- A line without backspaces, and with balanced parentheses. -/
structure Complete (line : List Char) : Prop where
  clean : '\x08' ∉ line
  balanced : Balance.ofLine line = .balanced

/-- The lines of an input that ends with a line feed. -/
def inputOf (lines : List (List Char)) : List (Option String) :=
  lines.map fun line => some (String.ofList (inputLine line))

/-- A line that is complete is executed when it is read at a prompt. -/
theorem Complete.traceLine_eq (h : Complete line) (env : Environment) :
    traceLine ⟨env, []⟩ (some (String.ofList (inputLine line))) =
      { commands := [commandOf line]
        output := (executeLine env line).1
        env := ((executeLine env line).2.getD ⟨env, []⟩).env
        next := (executeLine env line).2 } := by
  have clean : '\x08' ∉ inputLine line := List.not_mem_append h.clean (by decide)
  have balanced : Balance.ofLine (inputLine line) = .balanced :=
    (Balance.ofLine_inputLine line).trans h.balanced
  have complete : Reading.add [] (String.ofList (inputLine line)).toList =
      .line (splitLineEnd (inputLine line)).1 := by
    rw [String.toList_ofList]
    exact Reading.add_of_balanced clean balanced
  have first := traceLine_of_line (s := ⟨env, []⟩) complete
  rwa [commandOf, executeLine, Command.parse_splitLineEnd, ← executeLine, ← commandOf] at first

/-! ## Sessions -/

/-- What a session does that reads the lines of some commands from a prompt on. -/
structure Folds (env : Environment) (commands : List Command) (t : Trace) : Prop where
  /-- Nothing is executed after the command that leaves the session. -/
  commands_eq : t.commands = upToExit commands
  /-- All that counts for the environment are the statements. -/
  env_eq : t.env = evalLines env ((upToExit commands).filterMap Command.statement?)
  /-- The prompt before the first answer has been written before. -/
  output_eq : .print prompt ++ (t.output ++ if t.next.isSome then farewell else .nothing) =
    transcript (answers env (upToExit commands))

theorem Folds.nil (env : Environment) : Folds env [] (trace ⟨env, []⟩ []) where
  commands_eq := rfl
  env_eq := rfl
  output_eq := (congrArg _ (Output.nothing_append _)).trans transcript_nil.symm

/-- A line that leaves the session ends it. -/
theorem Folds.exit (h : Complete line) (hexit : commandOf line = .exit) (env : Environment)
    (commands : List Command) (more : List (Option String)) :
    Folds env (commandOf line :: commands)
      (trace ⟨env, []⟩ (some (String.ofList (inputLine line)) :: more)) := by
  have first := h.traceLine_eq env
  rw [executeLine_of_exit hexit, hexit] at first
  rw [trace_cons_of_ended (by rw [first]), first, hexit]
  refine ⟨rfl, rfl, ?_⟩
  rw [upToExit, if_pos rfl, answers, answers, transcript_exit]
  rfl

/-- Any other line is answered, and the session is at a prompt again. -/
theorem Folds.cons (h : Complete line) (hexit : commandOf line ≠ .exit)
    {commands : List Command} {more : List (Option String)}
    (hmore : Folds (execute (commandOf line) env).2 commands
      (trace ⟨(execute (commandOf line) env).2, []⟩ more)) :
    Folds env (commandOf line :: commands)
      (trace ⟨env, []⟩ (some (String.ofList (inputLine line)) :: more)) := by
  have first := h.traceLine_eq env
  rw [executeLine_of_ne_exit hexit] at first
  rw [trace_cons_of_next (by rw [first]), first]
  refine ⟨?_, ?_, ?_⟩
  · rw [upToExit, if_neg hexit, ← hmore.commands_eq]
    rfl
  · rw [upToExit, if_neg hexit, Command.evalLines_filterMap_cons]
    exact hmore.env_eq
  · rw [upToExit, if_neg hexit, answers, transcript_cons hexit, ← hmore.output_eq]
    simp only [Trace.andThen, Output.append_assoc]

theorem folds_of_complete (h : ∀ line ∈ lines, Complete line) (env : Environment) :
    Folds env (lines.map commandOf) (trace ⟨env, []⟩ (inputOf lines)) := by
  induction lines generalizing env with
  | nil => exact .nil env
  | cons line lines ih =>
    obtain ⟨hline, hlines⟩ := List.forall_mem_cons.1 h
    by_cases hexit : commandOf line = .exit
    · exact .exit hline hexit env _ _
    · exact .cons hline hexit (ih hlines _)

/-- The program that runs a session on such lines. -/
theorem run_of_complete {args : List String} {history : Option String}
    (hplan : Program.plan (.parse args) = .session history)
    (h : ∀ line ∈ lines, Complete line) (hasHistory : String → Bool) :
    Program.run args hasHistory (inputOf lines) =
      (0, .print (heading (history.any (!hasHistory ·))) ++
        transcript (answers ∅ (upToExit (lines.map commandOf)))) := by
  rw [Program.run_of_session hplan, run_eq, greeting_eq, Output.append_assoc,
    ← (folds_of_complete h ∅).output_eq]
  rfl

/-- A session on complete lines is the fold of their commands up to the first that leaves it, and
    no other is executed. The program writes a prompt for each of them and its answer in the
    environment of those before it, and succeeds. The variables in the end are due to the
    statements among them, so that an input without the lines that neither are statements nor leave
    the session leads to the same variables and to the same answers to the lines it has. -/
theorem session_folds_lines {args : List String} {history : Option String} {input : List UInt8}
    (hplan : Program.plan (.parse args) = .session history) (hasHistory : String → Bool)
    (hinput : inputLines input = inputOf lines) (hlines : ∀ line ∈ lines, Complete line) :
    let executed := upToExit (lines.map commandOf)
    let first := heading (history.any (!hasHistory ·))
    Program.run args hasHistory (inputLines input) =
      (0, .print first ++ transcript (answers ∅ executed)) ∧
    (initial.trace (inputLines input)).commands = executed ∧
    (initial.trace (inputLines input)).env =
      evalLines ∅ (executed.filterMap Command.statement?) ∧
    ∀ shorter, inputLines shorter = inputOf (lines.filter fun line => (commandOf line).matters) →
      Program.run args hasHistory (inputLines shorter) =
        (0, .print first ++ transcript ((answers ∅ executed).filter (·.1.matters))) ∧
      (initial.trace (inputLines shorter)).env = (initial.trace (inputLines input)).env := by
  intro executed first
  have folds := folds_of_complete hlines ∅
  have hfewer : ∀ line ∈ lines.filter fun line => (commandOf line).matters, Complete line :=
    fun line hline => hlines line (List.mem_of_mem_filter hline)
  have fewer : upToExit ((lines.filter fun line => (commandOf line).matters).map commandOf) =
      executed.filter Command.matters := by
    rw [← upToExit_filter, List.filter_map]
    rfl
  rw [hinput]
  refine ⟨run_of_complete hplan hlines hasHistory, folds.commands_eq, folds.env_eq,
    fun shorter hshorter => ?_⟩
  rw [hshorter, ← answers_filter, ← fewer]
  refine ⟨run_of_complete hplan hfewer hasHistory, ?_⟩
  exact (folds_of_complete hfewer ∅).env_eq.trans <| by
    rw [fewer, Command.filterMap_statement?_filter]
    exact folds.env_eq.symm

/-- A session of five lines. The first has a carriage return at its end, the third binds a name and
    fails, and the last is not executed. Without the second the others are answered as before. -/
theorem session_folds_lines_until_quit :
    let executed := [.eval "a = 5", .variables, .eval "(b = a) | c", .exit]
    let input := encode "a = 5\r\n:vars\n(b = a) | c\nQuit\nb\n".toList
    let shorter := encode "a = 5\r\n(b = a) | c\nQuit\nb\n".toList
    let banner := "bitcalc v0.1.0\nType ':help' for help, 'exit' or Ctrl-D to quit.\n" ++
      "No previous history.\n"
    let report := "Error: Undefined variable `c`\n   ╭─[ input:1:11 ]\n   │\n" ++
      " 1 │ (b = a) | c\n   │           ┬  \n" ++
      "   │           ╰── This variable has not been assigned in this session\n───╯\n"
    Program.run [] (fun _ => false) (inputLines input) =
      (0, ⟨banner ++ "bitcalc> dec: 5\nbin: 101\nhex: 5\n" ++ "bitcalc> a = 5 (0x5)\n" ++
        "bitcalc> " ++ "bitcalc> ", report⟩) ∧
    (initial.trace (inputLines input)).commands = executed ∧
    (initial.trace (inputLines input)).env = .ofList [("a", 5), ("b", 5)] ∧
    Program.run [] (fun _ => false) (inputLines shorter) =
      (0, ⟨banner ++ "bitcalc> dec: 5\nbin: 101\nhex: 5\n" ++ "bitcalc> " ++ "bitcalc> ",
        report⟩) ∧
    (initial.trace (inputLines shorter)).env = .ofList [("a", 5), ("b", 5)] := by
  intro executed input shorter banner report
  have plan : Program.plan (.parse []) = .session (some ".bitcalc_history") := by decide +kernel
  let lines := ["a = 5\r".toList, ":vars".toList, "(b = a) | c".toList, "Quit".toList, "b".toList]
  have whole : inputLines input = inputOf lines := by decide +kernel
  have rest : inputLines shorter = inputOf (lines.filter fun line => (commandOf line).matters) := by
    decide +kernel
  have complete : ∀ line ∈ lines, '\x08' ∉ line ∧ Balance.ofLine line = .balanced := by decide
  have commands : upToExit (lines.map commandOf) = executed := by decide +kernel
  have env : evalLines ∅ (executed.filterMap Command.statement?) =
      .ofList [("a", 5), ("b", 5)] := by
    decide +kernel
  obtain ⟨written, did, left, fewer⟩ := session_folds_lines plan (fun _ => false) whole
    fun line hline => ⟨(complete line hline).1, (complete line hline).2⟩
  obtain ⟨stillWritten, stillLeft⟩ := fewer shorter rest
  rw [commands] at written did left stillWritten
  refine ⟨written.trans ?_, did, left.trans env, stillWritten.trans ?_,
    stillLeft.trans (left.trans env)⟩
  · decide +kernel
  · decide +kernel

end Bitwise.Session
