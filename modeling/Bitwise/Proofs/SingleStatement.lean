import Bitwise.Proofs.Classification
import Bitwise.Proofs.ShownValues
import Bitwise.Proofs.Transcript

/-!
# Single statements

A statement that the options give is answered as in a session, where it is a line of the input. Both
take the blanks off its ends, evaluate it where no variable has a value, and write the same about
it. A session writes more: a heading before its first prompt, and another prompt behind the answer
(`Session.run_of_statement`). Neither the heading nor an answer has the sign that ends a prompt, so
that the answer is found between the first two prompts (`Program.statement_agrees_with_session`).
-/

namespace Bitwise

open Text (trim trimmed)

/-! ## What stands between marks -/

namespace Text

/-- What stands before and behind a mark, where it stands first in a text. -/
def cutAtMark? (mark : List Char) : List Char → Option (List Char × List Char)
  | [] => if mark.isEmpty then some ([], []) else none
  | c :: cs =>
    if mark.isPrefixOf (c :: cs) then some ([], (c :: cs).drop mark.length)
    else (cutAtMark? mark cs).map fun (before, after) => (c :: before, after)

/-- What stands between the first two marks of a text. -/
def betweenMarks? (mark text : List Char) : Option (List Char) :=
  (cutAtMark? mark text).bind fun (_, rest) => (cutAtMark? mark rest).map Prod.fst

variable {mark first last before : List Char} {c : Char}

/-- A mark stands first where its last sign does, if that is nowhere else in it. -/
theorem cutAtMark?_append (hmark : mark = first ++ c :: last) (hfirst : c ∉ first)
    (hbefore : c ∉ before) (after : List Char) :
    cutAtMark? mark (before ++ (mark ++ after)) = some (before, after) := by
  induction before with
  | nil =>
    have here : mark.isPrefixOf (mark ++ after) = true :=
      List.isPrefixOf_iff_prefix.2 (List.prefix_append mark after)
    have rest : (mark ++ after).drop mark.length = after := List.drop_left
    obtain ⟨d, ds, hcons⟩ := List.exists_cons_of_ne_nil
      (show mark ++ after ≠ [] by rw [hmark]; simp)
    rw [List.nil_append]
    rw [hcons] at here rest ⊢
    rw [cutAtMark?, if_pos here, rest]
  | cons d before ih =>
    have later : ¬mark.isPrefixOf (d :: (before ++ (mark ++ after))) = true := by
      intro hprefix
      obtain ⟨rest, hrest⟩ := List.isPrefixOf_iff_prefix.1 hprefix
      have clean : c ∉ d :: before ++ first := List.not_mem_append hbefore hfirst
      have signs : first ++ c :: (last ++ rest) =
          (d :: before ++ first) ++ c :: (last ++ after) := by
        rw [hmark] at hrest
        simpa using hrest
      have lengths := congrArg List.length (eq_of_append_cons_eq hfirst clean signs)
      rw [List.length_append, List.length_cons] at lengths
      omega
    rw [List.cons_append, cutAtMark?, if_neg later, ih fun h => hbefore (List.mem_cons_of_mem d h)]
    rfl

/-- What stands between two marks, if none stands before. -/
theorem betweenMarks?_append (hmark : mark = first ++ c :: last) (hfirst : c ∉ first)
    {piece : List Char} (hbefore : c ∉ before) (hpiece : c ∉ piece) (after : List Char) :
    betweenMarks? mark (before ++ (mark ++ (piece ++ (mark ++ after)))) = some piece := by
  rw [betweenMarks?, cutAtMark?_append hmark hfirst hbefore, Option.bind_some]
  dsimp only
  rw [cutAtMark?_append hmark hfirst hpiece]
  rfl

end Text

/-! ## Sessions of one line -/

namespace Session

variable {args : List String} {history : Option String} {v source : String}

/-- What is written to standard output between the first two prompts. -/
def betweenPrompts? (output : Output) : Option String :=
  (Text.betweenMarks? prompt.toList output.stdout.toList).map String.ofList

/-- What is written between two prompts stands there if it does not look like a prompt, and neither
    does what is written before. -/
theorem betweenPrompts?_append {text : String} {output : Output} (htext : '>' ∉ text.toList)
    (houtput : '>' ∉ output.stdout.toList) (more : Output) :
    betweenPrompts? (.print text ++ (.print prompt ++ (output ++ (.print prompt ++ more)))) =
      some output.stdout := by
  have sign : prompt.toList = "bitcalc".toList ++ '>' :: [' '] := by decide
  show (Text.betweenMarks? prompt.toList
    (text ++ (prompt ++ (output.stdout ++ (prompt ++ more.stdout)))).toList).map _ = _
  rw [String.toList_append, String.toList_append, String.toList_append, String.toList_append,
    Text.betweenMarks?_append sign (by decide) htext houtput, Option.map_some, String.ofList_toList]

/-- The sign that ends a prompt is not in a value that is shown. -/
theorem notMem_render (v : Int64) : '>' ∉ (render v).toList := by
  have shown (radix : Radix) : '>' ∉ (radix.format v).toList :=
    Radix.notMem_format (by decide) (by cases radix <;> rfl) v
  simp [render, Radix.all, Radix.label, shown]

theorem notMem_answer (source : String) (r : EStateM.Result StatementError Environment Int64) :
    '>' ∉ (answer source r).stdout.toList := by
  cases r with
  | ok v _ =>
    show '>' ∉ (render v ++ "\n").toList
    rw [String.toList_append]
    exact List.not_mem_append (notMem_render v) (by decide)
  | error e _ => exact List.not_mem_nil

theorem notMem_heading (historyMissing : Bool) : '>' ∉ (heading historyMissing).toList := by
  cases historyMissing <;> decide +kernel

/-- A session of one statement writes its answer between two prompts. -/
theorem run_of_statement (hplan : Program.plan (.parse args) = .session history)
    (hline : '\n' ∉ v.toList) (hv : Complete v.toList) (hcommand : Command.parse v = .eval source)
    (hasHistory : String → Bool) :
    Program.run args hasHistory (inputLines (encode (inputLine v.toList))) =
      (0, .print (heading (history.any (!hasHistory ·))) ++ (.print prompt ++
        (answer source ((evalText source).run ∅) ++ (.print prompt ++ farewell)))) := by
  have lines : inputLines (encode (inputLine v.toList)) = inputOf [v.toList] := by
    have only := inputLines_encode_append hline []
    rwa [List.append_nil] at only
  have commands : [v.toList].map commandOf = [.eval source] := by
    rw [List.map_singleton, commandOf, String.ofList_toList, hcommand]
  have complete : ∀ line ∈ [v.toList], Complete line := List.forall_mem_singleton.2 hv
  have stays : Command.eval source ≠ .exit := by simp
  rw [lines, run_of_complete hplan complete, commands, ← transcript_nil, ← transcript_cons stays]
  rfl

end Session

/-! ## The program -/

namespace Program

open Session (Command Complete betweenPrompts? encode inputLine inputLines prompt)

variable {args : List String} {v source : String}

/-- Arguments give a statement. -/
def GivesStatement (args : List String) (v : String) : Prop :=
  ∃ options, Request.parse args = .run options ∧ options.statement = some v

/-- Every text can be given as a statement in the word of the option. -/
theorem givesStatement_attached (v : String) : GivesStatement ["--cmd=" ++ v] v := by
  refine ⟨{ Options.unset with statement := some v }, ?_, rfl⟩
  have notEnd : "--cmd=" ++ v ≠ "--" := by
    rw [Ne, ← String.toList_inj, String.toList_append]
    exact fun h => nomatch h
  have word : readWord .unset ("--cmd=" ++ v).toList =
      .options { Options.unset with statement := some v } := by
    rw [String.toList_append]
    show WordResult.options { Options.unset with statement := some (String.ofList v.toList) } = _
    rw [String.ofList_toList]
  rw [Request.parse, Request.ofArgs, if_neg notEnd, word]
  rfl

/-- A text that is no option can be given as a statement behind the option. -/
theorem givesStatement_next (hv : isValue v.toList = true) : GivesStatement ["--cmd", v] v := by
  refine ⟨{ Options.unset with statement := some (String.ofList v.toList) }, ?_, ?_⟩
  · have word : readWord .unset "--cmd".toList = .needsValue .unset .statement := by
      rfl
    rw [Request.parse, Request.ofArgs, if_neg (by decide), word]
    show Request.ofArgs .unset (some .statement) [v] = _
    rw [Request.ofArgs, if_pos hv]
    rfl
  · rw [String.ofList_toList]

/-- A statement is evaluated without the blanks at its ends, and nothing else is done. -/
theorem run_of_givesStatement (hargs : GivesStatement args v) (hne : trim v.toList ≠ [])
    (hasHistory : String → Bool) (input : List (Option String)) :
    run args hasHistory input =
      (match (evalText (trimmed v)).run ∅ with | .ok _ _ => 0 | .error _ _ => 1,
        Session.answer (trimmed v) ((evalText (trimmed v)).run ∅)) := by
  obtain ⟨options, hparse, hstatement⟩ := hargs
  have planned : plan (.parse args) = evaluate (trimmed v) := by
    rw [hparse, plan, hstatement]
    exact if_neg (by simpa using hne)
  rw [run, planned]
  rfl

/-- What the program answers to a statement, and to a session with the statement as its line. -/
structure AgreesWithSession (v : String) (single session : UInt32 × Output) : Prop where
  /-- The session writes between two prompts what is written about the statement, and reports
      nothing before and behind. -/
  between : ∃ before after : String, session.2 =
    .print before ++ (.print prompt ++ (single.2 ++ (.print prompt ++ .print after)))
  /-- These are the first two prompts. -/
  stdout : betweenPrompts? session.2 = some single.2.stdout
  /-- The session reports what is reported about the statement. -/
  stderr : session.2.stderr = single.2.stderr
  /-- The program succeeds with a statement that has a value, and reports nothing. -/
  ok : ∀ value env, (evalText (trimmed v)).run ∅ = .ok value env →
    single.1 = 0 ∧ single.2.stderr = ""
  /-- The program fails with a statement that has none, and shows nothing. -/
  error : ∀ e env, (evalText (trimmed v)).run ∅ = .error e env →
    single.1 = 1 ∧ single.2.stdout = ""

/-- A statement of one line is answered alike as a single statement, whatever else the arguments
    say, and in a session that has nothing else to read. -/
theorem statement_agrees_with_session (hline : '\n' ∉ v.toList) (hv : Complete v.toList)
    (hcommand : Command.parse v = .eval source) :
    GivesStatement ["--cmd=" ++ v] v ∧
      (isValue v.toList = true → GivesStatement ["--cmd", v] v) ∧
      ∀ args args' history hasHistory hasHistory' input, GivesStatement args v →
        plan (.parse args') = .session history →
          AgreesWithSession v (run args hasHistory input)
            (run args' hasHistory' (inputLines (encode (inputLine v.toList)))) := by
  refine ⟨givesStatement_attached v, givesStatement_next, ?_⟩
  intro args args' history hasHistory hasHistory' input hargs hplan
  have hne : trim v.toList ≠ [] := by
    intro hnil
    rw [Command.parse, hnil] at hcommand
    cases hcommand
  obtain rfl := Command.eq_trimmed_of_parse hcommand
  rw [run_of_givesStatement hargs hne, Session.run_of_statement hplan hline hv hcommand]
  refine ⟨⟨_, _, rfl⟩, ?_, ?_, ?_, ?_⟩
  · exact Session.betweenPrompts?_append (Session.notMem_heading _) (Session.notMem_answer _ _) _
  · show "" ++ ("" ++ (_ ++ ("" ++ ""))) = _
    simp
  · intro value env h
    rw [h]
    exact ⟨rfl, rfl⟩
  · intro e env h
    rw [h]
    exact ⟨rfl, rfl⟩

/-- A statement that has a value, with a blank behind it, and one that has none, with blanks at both
    ends. In the session the carriage return of the second is taken for a part of its line end. -/
theorem statement_agrees_with_session_with_blanks :
    let shown := "0xf0 >> 4 "
    let failing := "\t(a = 5) | b \r"
    let session (v : String) :=
      run ["--no-history"] (fun _ => true) (inputLines (encode (inputLine v.toList)))
    AgreesWithSession shown (run ["--cmd", shown] (fun _ => true) []) (session shown) ∧
      betweenPrompts? (session shown).2 = some "dec: 15\nbin: 1111\nhex: f\n" ∧
      AgreesWithSession failing (run ["--cmd=" ++ failing] (fun _ => true) []) (session failing) ∧
      betweenPrompts? (session failing).2 = some "" := by
  intro shown failing session
  have plan : plan (.parse ["--no-history"]) = .session none := by decide +kernel
  have command : Command.parse shown = .eval "0xf0 >> 4" := by decide +kernel
  have command' : Command.parse failing = .eval "(a = 5) | b" := by decide +kernel
  obtain ⟨-, given, agrees⟩ :=
    statement_agrees_with_session (by decide) ⟨by decide, by decide⟩ command
  obtain ⟨given', -, agrees'⟩ :=
    statement_agrees_with_session (by decide) ⟨by decide, by decide⟩ command'
  have single := agrees _ _ _ (fun _ => true) (fun _ => true) [] (given (by decide)) plan
  have single' := agrees' _ _ _ (fun _ => true) (fun _ => true) [] given' plan
  refine ⟨single, ?_, single', ?_⟩
  · rw [single.stdout]
    decide +kernel
  · rw [single'.stdout]
    decide +kernel

end Program

end Bitwise
