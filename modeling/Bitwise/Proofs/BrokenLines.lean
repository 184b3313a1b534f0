import Bitwise.Proofs.Reading

/-!
# Statements on several lines

A statement can be broken over lines inside its parentheses. When a session reads it, the
parentheses that are open at every break make it wait for the next line, and those of the whole are
closed, so that all of it is executed as one line (`broken_statement_is_one_line`). What has been
put into the statement are blanks between its tokens, which have no meaning.
-/

namespace Bitwise

open Text (byteLength trim)
open Unicode (isBlank)

/-! ## Breaks -/

/-- The pieces of a text between the line feeds that are put into it: some, each where no token is
    interrupted and where parentheses are open. -/
structure Broken (source : String) (pieces : List (List Char)) : Prop where
  flatten_eq : pieces.flatten = source.toList
  noLineFeed : '\n' ∉ source.toList
  breaks : 1 < pieces.length
  atBreak : ∀ n < pieces.length, 0 < n →
    Between (tokenize source) (byteLength (pieces.take n).flatten) ∧
      (pieces.take n).flatten.count ')' < (pieces.take n).flatten.count '('

/-- The text with its line feeds. -/
def brokenText (pieces : List (List Char)) : List Char :=
  ['\n'].intercalate pieces

theorem brokenText_singleton (piece : List Char) : brokenText [piece] = piece := by
  simp [brokenText]

theorem brokenText_cons_cons (piece next : List Char) (pieces : List (List Char)) :
    brokenText (piece :: next :: pieces) = piece ++ ('\n' :: brokenText (next :: pieces)) := by
  simp [brokenText]

open Session (inputLine)

/-- Each piece becomes a line of the input. -/
theorem inputLine_brokenText {pieces : List (List Char)} (h : pieces ≠ []) :
    inputLine (brokenText pieces) = (pieces.map inputLine).flatten := by
  induction pieces with
  | nil => exact absurd rfl h
  | cons piece pieces ih =>
    cases pieces with
    | nil => simp [brokenText_singleton]
    | cons next pieces =>
      rw [List.map_cons, List.flatten_cons, ← ih (List.cons_ne_nil _ _), brokenText_cons_cons]
      simp [inputLine]

/-- Line feeds are no parentheses. -/
theorem filter_isParen_inputLines (pieces : List (List Char)) :
    (pieces.map inputLine).flatten.filter isParen = pieces.flatten.filter isParen := by
  induction pieces with
  | nil => rfl
  | cons piece pieces ih =>
    have line : (inputLine piece).filter isParen = piece.filter isParen := by
      rw [inputLine, List.filter_append]
      exact List.append_nil _
    rw [List.map_cons, List.flatten_cons, List.flatten_cons, List.filter_append,
      List.filter_append, line, ih]

/-- Text that is kept, with no blank in it. -/
theorem Spaced.append_left {ts : List Token} {offset : Nat} {text cs ds : List Char}
    (h : Spaced ts (offset + byteLength text) cs ds) :
    Spaced ts offset (text ++ cs) (text ++ ds) := by
  induction text generalizing offset with
  | nil => exact h
  | cons c text ih =>
    rw [Text.byteLength_cons, ← Nat.add_assoc] at h
    exact .keep (ih h)

/-- Breaks are blanks between the tokens. -/
theorem spaced_brokenText {ts : List Token} {offset : Nat} {pieces : List (List Char)}
    (h : ∀ before after, pieces = before ++ after → before ≠ [] → after ≠ [] →
      Between ts (offset + byteLength before.flatten)) :
    Spaced ts offset pieces.flatten (brokenText pieces) := by
  induction pieces generalizing offset with
  | nil => exact .nil
  | cons piece pieces ih =>
    rw [List.flatten_cons]
    cases pieces with
    | nil =>
      have whole : Spaced ts offset (piece ++ []) (piece ++ []) := .append_left .nil
      rw [List.append_nil] at whole
      rwa [brokenText_singleton, List.flatten_nil, List.append_nil]
    | cons next pieces =>
      have between := h [piece] (next :: pieces) rfl (List.cons_ne_nil _ _) (List.cons_ne_nil _ _)
      rw [List.flatten_singleton] at between
      rw [brokenText_cons_cons]
      refine .append_left (.blank between (by decide) (ih fun before after hparts _ hafter => ?_))
      have := h (piece :: before) after (congrArg _ hparts) (List.cons_ne_nil _ _) hafter
      rwa [List.flatten_cons, Text.add_byteLength_append] at this

namespace Broken

variable {source : String} {pieces before after : List (List Char)} {node : Node}

theorem of_append (h : Broken source pieces) (hparts : pieces = before ++ after)
    (hbefore : before ≠ []) (hafter : after ≠ []) :
    Between (tokenize source) (byteLength before.flatten) ∧
      before.flatten.count ')' < before.flatten.count '(' := by
  have atBreak := h.atBreak before.length ?_ (List.length_pos_of_ne_nil hbefore)
  · rwa [hparts, List.take_left] at atBreak
  · have := List.length_pos_of_ne_nil hafter
    rw [hparts, List.length_append]
    omega

/-- The tokens of a text stay the same, up to their spans. -/
theorem content_eq (h : Broken source pieces) (hlegal : ∀ t ∈ tokenize source, t.kind ≠ .illegal) :
    (tokenize (String.ofList (brokenText pieces))).map Token.content =
      (tokenize source).map Token.content := by
  refine content_of_spaced hlegal ?_
  rw [← h.flatten_eq]
  refine spaced_brokenText fun before after hparts hbefore hafter => ?_
  rw [Nat.zero_add]
  exact (h.of_append hparts hbefore hafter).1

/-- At every break the line is not complete. -/
theorem incomplete (h : Broken source pieces) (hparse : parse source = .ok node)
    (hparts : pieces = before ++ after) (hbefore : before ≠ []) (hafter : after ≠ []) :
    Session.Balance.ofLine (before.map inputLine).flatten = .incomplete := by
  obtain ⟨-, hopen⟩ := h.of_append hparts hbefore hafter
  have beginning : before.flatten <+: source.toList := by
    rw [← h.flatten_eq, hparts, List.flatten_append]
    exact List.prefix_append _ _
  have verdict : Session.Balance.Verdict before.flatten .incomplete :=
    .incomplete ((closedWithin_of_parse hparse).1.of_isPrefix beginning) hopen
  exact (verdict.congr (filter_isParen_inputLines before).symm
    fun _ => Session.Balance.noConfusion).ofLine_eq

/-- The whole is complete. -/
theorem balanced (h : Broken source pieces) (hparse : parse source = .ok node) :
    Session.Balance.ofLine (pieces.map inputLine).flatten = .balanced := by
  obtain ⟨hclosed, hcount⟩ := closedWithin_of_parse hparse
  have verdict : Session.Balance.Verdict pieces.flatten .balanced :=
    h.flatten_eq ▸ .balanced hclosed hcount
  exact (verdict.congr (filter_isParen_inputLines pieces).symm
    fun _ => Session.Balance.noConfusion).ofLine_eq

end Broken

/-! ## Sessions -/

namespace Session

/-- What a session writes from a prompt on. -/
def fromPrompt (env : Environment) (input : List UInt8) : Output :=
  .print prompt ++ run ⟨env, []⟩ (inputLines input)

/-- A statement is answered, and then the session is at a prompt again. -/
theorem executeLine_of_eval {env : Environment} {line : List Char} {source : String}
    (h : Command.parse (String.ofList line) = .eval source) :
    executeLine env line = (answer source ((evalText source).run env) ++ .print prompt,
      some ⟨environmentAfter ((evalText source).run env), []⟩) := by
  rw [executeLine, h]
  rfl

end Session

open Session (Command answer environmentAfter encode fromPrompt inputLines prompt splitLineEnd)

/-- Texts that are evaluated alike leave the same variables behind. -/
theorem EvaluatedAlike.environmentAfter_eq
    {r r' : EStateM.Result StatementError Environment Int64} (h : EvaluatedAlike r r') :
    environmentAfter r = environmentAfter r' := by
  cases h <;> rfl

namespace Broken

variable {source : String} {pieces : List (List Char)} {node : Node}

theorem legal (h : Broken source pieces) (hparse : parse source = .ok node) :
    ∀ t ∈ tokenize (String.ofList (brokenText pieces)), t.kind ≠ .illegal :=
  legal_of_content (h.content_eq (legal_of_parse hparse)) (legal_of_parse hparse)

theorem lines_eq (h : Broken source pieces) :
    (pieces.map inputLine).flatten = inputLine (brokenText pieces) :=
  (inputLine_brokenText (List.ne_nil_of_length_pos (Nat.zero_lt_of_lt h.breaks))).symm

/-- There is no break without a parenthesis before it. -/
theorem openParen_mem (h : Broken source pieces) : '(' ∈ brokenText pieces := by
  obtain ⟨first, next, rest, rfl⟩ : ∃ first next rest, pieces = first :: next :: rest := by
    match pieces, h.breaks with
    | first :: next :: rest, _ => exact ⟨first, next, rest, rfl⟩
  have opened := (h.of_append (List.singleton_append).symm (List.cons_ne_nil first [])
    (List.cons_ne_nil next rest)).2
  rw [List.flatten_singleton] at opened
  rw [brokenText_cons_cons]
  exact List.mem_append_left _ (List.count_pos_iff.1 (Nat.zero_lt_of_lt opened))

/-- The line that is read in the end asks for the statement. -/
theorem command_eq (h : Broken source pieces) (hparse : parse source = .ok node) :
    Command.parse (String.ofList (splitLineEnd (pieces.map inputLine).flatten).1) =
      .eval (String.ofList (trim (brokenText pieces))) := by
  have statement := Command.parse_eq_eval (h.legal hparse)
    (by rw [String.toList_ofList]; exact h.openParen_mem)
  rw [String.toList_ofList] at statement
  rw [h.lines_eq, Command.parse_splitLineEnd, statement]

theorem backspace_notMem (h : Broken source pieces) (hparse : parse source = .ok node) :
    '\x08' ∉ (pieces.map inputLine).flatten := by
  rw [h.lines_eq, inputLine]
  intro hmem
  rcases List.mem_append.1 hmem with hmem | hmem
  · have others := notMem_of_legal (h.legal hparse) (c := '\x08') (by decide) (by decide)
      (by decide +kernel)
    rw [String.toList_ofList] at others
    exact others hmem
  · exact absurd hmem (by decide)

/-- A session that reads the pieces line by line answers the statement and goes on. -/
theorem run_eq (h : Broken source pieces) (hparse : parse source = .ok node) (env : Environment)
    (more : List (Option String)) :
    let line := String.ofList (trim (brokenText pieces))
    Session.run ⟨env, []⟩
        (pieces.map (fun piece => some (String.ofList (inputLine piece))) ++ more) =
      answer line ((evalText line).run env) ++ (.print prompt ++
        Session.run ⟨environmentAfter ((evalText line).run env), []⟩ more) := by
  intro line
  have hne : pieces ≠ [] := List.ne_nil_of_length_pos (Nat.zero_lt_of_lt h.breaks)
  obtain ⟨init, last, rfl⟩ : ∃ init last, pieces = init ++ [last] :=
    ⟨_, _, (List.dropLast_concat_getLast hne).symm⟩
  have clean := h.backspace_notMem hparse
  have complete := h.balanced hparse
  have command := h.command_eq hparse
  rw [List.map_append, List.flatten_append, List.map_singleton,
    List.flatten_singleton] at clean complete command
  have kept : ∀ read, read <+: init.map inputLine → read ≠ [] →
      Session.Balance.ofLine ([] ++ read.flatten) = .incomplete := by
    intro read hread hsome
    obtain ⟨before, ⟨after, rfl⟩, rfl⟩ := List.prefix_map_iff.1 hread
    rw [List.nil_append]
    have some_before : before ≠ [] := fun hnil => hsome (List.map_eq_nil_iff.2 hnil)
    exact h.incomplete hparse (List.append_assoc ..) some_before (List.concat_ne_nil _ _)
  have others : '\x08' ∉ [] ++ (init.map inputLine).flatten := fun hmem =>
    clean (List.mem_append_left _ hmem)
  -- all lines but the last are kept, and with the last the statement is executed
  have first := Session.run_append_of_incomplete others kept env
    (some (String.ofList (inputLine last)) :: more)
  rw [List.map_map, List.nil_append, Session.run, Session.feed_of_balanced clean complete,
    Session.executeLine_of_eval command] at first
  rw [List.map_append, List.append_assoc]
  exact first.trans (Output.append_assoc ..)

end Broken

/-- A statement that is broken over lines inside its parentheses is read at one prompt as one line,
    with its line feeds in it. Nothing is written but the answer, which is the value of the
    statement if it has one, and the variables are as the statement leaves them. -/
theorem broken_statement_is_one_line {source : String} {node : Node} {pieces : List (List Char)}
    (hparse : parse source = .ok node) (h : Broken source pieces) (env : Environment)
    (rest : List UInt8) :
    ∃ line : String, line.toList = trim (brokenText pieces) ∧ SameMeaning source line ∧
      fromPrompt env (encode (inputLine (brokenText pieces)) ++ rest) =
        .print prompt ++ (answer line ((evalText line).run env) ++
          fromPrompt (environmentAfter ((evalText source).run env)) rest) ∧
      ∀ v env', (evalText source).run env = .ok v env' →
        answer line ((evalText line).run env) = .printLine (render v) := by
  have content := content_trim (h.legal hparse)
  rw [String.toList_ofList] at content
  have same : SameMeaning source (String.ofList (trim (brokenText pieces))) :=
    sameMeaning_of_content ((h.content_eq (legal_of_parse hparse)).symm.trans content.symm)
  refine ⟨_, String.toList_ofList, same, ?_, fun v env' hv => ?_⟩
  · have noLineFeed : ∀ piece ∈ pieces, '\n' ∉ piece := fun piece hpiece hmem =>
      h.noLineFeed (h.flatten_eq ▸ List.mem_flatten_of_mem hpiece hmem)
    rw [fromPrompt, ← h.lines_eq, Session.inputLines_encode_flatten_append noLineFeed,
      h.run_eq hparse, (same.eval env).environmentAfter_eq]
    rfl
  · have alike := same.eval env
    rw [hv] at alike
    generalize (evalText (String.ofList (trim (brokenText pieces)))).run env = r at alike
    cases alike
    rfl

/-- A statement on three lines, the first with a carriage return at its end and the second empty. -/
theorem broken_statement_is_one_line_of_three :
    brokenText ["(x = 1 |\r".toList, [], "6)".toList] = "(x = 1 |\r\n\n6)".toList ∧
    ∃ line : String, line.toList = "(x = 1 |\r\n\n6)".toList ∧ SameMeaning "(x = 1 |\r6)" line ∧
      fromPrompt ∅ (encode "(x = 1 |\r\n\n6)\n".toList ++ encode "x\n".toList) =
        .print prompt ++ (.printLine (render 7) ++
          fromPrompt (.ofList [("x", 7)]) (encode "x\n".toList)) := by
  have parsed : parse "(x = 1 |\r6)" = .ok (.assign "x" (.binary .or (.literal 1 ⟨5, 6⟩)
      (.literal 6 ⟨9, 10⟩) ⟨5, 10⟩) ⟨0, 11⟩) := by
    decide +kernel
  have broken : Broken "(x = 1 |\r6)" ["(x = 1 |\r".toList, [], "6)".toList] :=
    ⟨by decide, by decide, by decide, by decide +kernel⟩
  have value : (evalText "(x = 1 |\r6)").run ∅ = .ok 7 (.ofList [("x", 7)]) := by
    rw [evalText_of_ok parsed]
    rfl
  obtain ⟨line, whole, same, run, answered⟩ :=
    broken_statement_is_one_line parsed broken ∅ (encode "x\n".toList)
  rw [value, answered _ _ value] at run
  exact ⟨by decide, line, whole.trans (by decide), same, run⟩

end Bitwise
