import Bitwise.Proofs.Reading
import Bitwise.Proofs.Trace

/-!
# Sessions that fall silent

A parenthesis that closes nothing cannot be made up for by anything that comes after it. A session
that has read one keeps it, together with all that is added, so that it executes no command any
more, and answers every line of the input with the same message (`unmatched_parenthesis_silences`).
Not even a line that would leave the session is an exception. Only backspaces could take the
parenthesis away.
-/

namespace Bitwise.Session

variable {s : Session} {buffer kept line : List Char} {offset : Nat}

/-! ## Lines that are kept for good -/

/-- What is kept of the input once the parenthesis at an offset closes nothing. -/
structure Hopeless (offset : Nat) (buffer : List Char) : Prop where
  verdict : Balance.Verdict buffer (.unmatched offset)
  clean : '\x08' ∉ buffer

theorem Hopeless.of_add (h : Reading.add buffer line = .unmatched offset kept) :
    Hopeless offset kept := by
  rw [Reading.add] at h
  dsimp only at h
  split at h
  · cases h
  · cases h
  · next balance =>
    cases h
    exact ⟨Balance.ofLine_eq_iff.1 balance, notMem_applyBackspaces _⟩

/-- Whatever is added without backspaces, the same parenthesis closes nothing. -/
theorem Hopeless.exists_add (h : Hopeless offset buffer) (hline : '\x08' ∉ line) :
    ∃ kept, Reading.add buffer line = .unmatched offset kept := by
  have clean : '\x08' ∉ buffer ++ line := List.not_mem_append h.clean hline
  rw [Reading.add_of_notMem clean, (h.verdict.append_of_unmatched line).ofLine_eq]
  exact ⟨_, rfl⟩

/-! ## Traces -/

/-- A message that is written over and over, with nothing in between. -/
def repeated (message : String) (count : Nat) : String :=
  String.join (List.replicate count message)

theorem repeated_succ (message : String) (count : Nat) :
    repeated message (count + 1) = message ++ repeated message count := by
  rw [repeated, List.replicate_succ, String.join_cons, ← repeated]

/-- A line with a parenthesis that closes nothing is answered with one message more. -/
theorem trace_cons_of_unmatched {text : String} {lines : List (Option String)} {count : Nat}
    {env : Environment} {next : Option Session}
    (h : Reading.add s.buffer text.toList = .unmatched offset kept)
    (hlines : trace ⟨s.env, kept⟩ lines =
      { commands := []
        output := .complain (repeated (Balance.unmatchedMessage offset) count)
        env
        next }) :
    s.trace (some text :: lines) =
      { commands := []
        output := .complain (repeated (Balance.unmatchedMessage offset) (count + 1))
        env
        next } := by
  have first := traceLine_of_unmatched h
  rw [trace_cons_of_next (by rw [first]), first, hlines]
  simp [Trace.andThen, repeated_succ, Output.append_def, Output.complain]

/-- All that a session does that has kept such a parenthesis is to write one message for each
    line. -/
theorem Hopeless.trace_eq {texts : List String} (h : Hopeless offset s.buffer)
    (hclean : ∀ text ∈ texts, '\x08' ∉ text.toList) :
    ∃ buffer, s.trace (texts.map some) =
      { commands := []
        output := .complain (repeated (Balance.unmatchedMessage offset) texts.length)
        env := s.env
        next := some ⟨s.env, buffer⟩ } := by
  induction texts generalizing s with
  | nil => exact ⟨s.buffer, rfl⟩
  | cons text texts ih =>
    obtain ⟨htext, hclean⟩ := List.forall_mem_cons.1 hclean
    obtain ⟨kept, hadd⟩ := h.exists_add htext
    obtain ⟨buffer, rest⟩ := ih (s := ⟨s.env, kept⟩) (.of_add hadd) hclean
    exact ⟨buffer, trace_cons_of_unmatched hadd rest⟩

/-- What it does from the first such line on comes after all that it has done before. -/
theorem trace_append_of_unmatched {first : Session} {before : List (Option String)} {text : String}
    {texts : List String} (hbefore : (first.trace before).next = some s)
    (h : Reading.add s.buffer text.toList = .unmatched offset kept)
    (hclean : ∀ text ∈ texts, '\x08' ∉ text.toList) :
    ∃ buffer, first.trace (before ++ some text :: texts.map some) =
      { commands := (first.trace before).commands
        output := (first.trace before).output ++
          .complain (repeated (Balance.unmatchedMessage offset) (texts.length + 1))
        env := s.env
        next := some ⟨s.env, buffer⟩ } := by
  have hopeless : Hopeless offset (Session.mk s.env kept).buffer := .of_add h
  obtain ⟨buffer, rest⟩ := hopeless.trace_eq hclean
  refine ⟨buffer, ?_⟩
  rw [trace_append_of_next hbefore, trace_cons_of_unmatched h rest, Trace.andThen, List.append_nil]

/-! ## Silence -/

/-- Once what has been read has a parenthesis that closes nothing, a session is silent until the end
    of the input, if the lines that are left are texts without backspaces. However many of them have
    been read, no further command has been executed and the variables are those of before, and to
    the line that made it so and to each line since, nothing has been written but the same message,
    which names the place of the parenthesis. In the end the program writes a line feed and
    succeeds. -/
theorem unmatched_parenthesis_silences {args : List String} {history : Option String}
    {input : List UInt8} {before : List (Option String)} {text : String} {texts : List String}
    (hplan : Program.plan (.parse args) = .session history) (hasHistory : String → Bool)
    (hinput : inputLines input = before ++ some text :: texts.map some)
    (hbefore : (initial.trace before).next = some s)
    (hunmatched : Reading.add s.buffer text.toList = .unmatched offset kept)
    (hclean : ∀ text ∈ texts, '\x08' ∉ text.toList) :
    let message := "  - Unmatched ')' at position " ++ toString offset
    (∀ read, read <+: texts → ∃ buffer,
      initial.trace (before ++ some text :: read.map some) =
        { commands := (initial.trace before).commands
          output := (initial.trace before).output ++
            .complain (repeated message (read.length + 1))
          env := s.env
          next := some ⟨s.env, buffer⟩ }) ∧
    Program.run args hasHistory (inputLines input) =
      (0, greeting (history.any (!hasHistory ·)) ++ ((initial.trace before).output ++
        ⟨"\n", repeated message (texts.length + 1)⟩)) := by
  intro message
  have said : message = Balance.unmatchedMessage offset := rfl
  rw [said]
  refine ⟨fun read hread => trace_append_of_unmatched hbefore hunmatched
    fun text htext => hclean text (hread.subset htext), ?_⟩
  obtain ⟨buffer, whole⟩ := trace_append_of_unmatched hbefore hunmatched hclean
  rw [Program.run_of_session hplan, run_eq, hinput, whole]
  simp [Output.append_def, Output.complain, farewell, Output.print]

/-- The second line closes one parenthesis too many, behind a letter of two bytes. After it neither
    a word for leaving nor another parenthesis changes anything, nor that the last line has no
    end. -/
theorem unmatched_parenthesis_silences_exit :
    (∃ buffer, initial.trace [some "x = 1\n", some "(ß))\r\n", some "exit\n"] =
      { commands := [.eval "x = 1"]
        output :=
          { stdout := "dec: 1\nbin: 1\nhex: 1\nbitcalc> "
            stderr := "  - Unmatched ')' at position 4  - Unmatched ')' at position 4" }
        env := .ofList [("x", 1)]
        next := some ⟨.ofList [("x", 1)], buffer⟩ }) ∧
    Program.run ["--no-history"] (fun _ => false)
        (inputLines (encode "x = 1\n(ß))\r\nexit\n((x".toList)) =
      (0,
        { stdout := "bitcalc v0.1.0\nType ':help' for help, 'exit' or Ctrl-D to quit.\n" ++
            "bitcalc> dec: 1\nbin: 1\nhex: 1\nbitcalc> \n"
          stderr := "  - Unmatched ')' at position 4  - Unmatched ')' at position 4" ++
            "  - Unmatched ')' at position 4" }) := by
  have plan : Program.plan (.parse ["--no-history"]) = .session none := by decide +kernel
  have lines : inputLines (encode "x = 1\n(ß))\r\nexit\n((x".toList) =
      [some "x = 1\n"] ++ some "(ß))\r\n" :: ["exit\n", "((x"].map some := by
    decide +kernel
  have first : initial.trace [some "x = 1\n"] =
      { commands := [.eval "x = 1"]
        output := ⟨"dec: 1\nbin: 1\nhex: 1\nbitcalc> ", ""⟩
        env := .ofList [("x", 1)]
        next := some ⟨.ofList [("x", 1)], []⟩ } := by
    decide +kernel
  have next := congrArg Trace.next first
  have unmatched : Reading.add [] "(ß))\r\n".toList = .unmatched 4 "(ß))".toList := by
    decide +kernel
  obtain ⟨silent, run⟩ := unmatched_parenthesis_silences plan (fun _ => false) lines next
    unmatched (by decide)
  obtain ⟨buffer, trace⟩ := silent ["exit\n"] (List.prefix_append _ _)
  rw [first] at trace run
  have written : Output.mk "dec: 1\nbin: 1\nhex: 1\nbitcalc> " "" ++
      .complain (repeated ("  - Unmatched ')' at position " ++ toString 4) 2) =
      ⟨"dec: 1\nbin: 1\nhex: 1\nbitcalc> ",
        "  - Unmatched ')' at position 4  - Unmatched ')' at position 4"⟩ := by
    decide +kernel
  exact ⟨⟨buffer, trace.trans (by rw [← written]; rfl)⟩, run.trans (by decide +kernel)⟩

end Bitwise.Session
