import Bitwise.Proofs.Balance
import Bitwise.Proofs.InputLines
import Bitwise.Proofs.Trimming
import Bitwise.Session.Loop

/-!
# Lines that are read

What is read is put together from lines of the input, whose line ends are taken off and put back.
If no backspace is among it, nothing else is done to it: whether it is complete is decided by all
that has come so far, and only the last line end goes (`Session.Reading.add_of_notMem`). So a
session keeps lines, and writes nothing, as long as parentheses are open
(`Session.run_append_of_incomplete`).

What is kept never has backspaces: each of them is a grapheme by itself, and goes
(`Session.notMem_applyBackspaces`).
-/

namespace Bitwise

/-! ## Backspaces -/

namespace Unicode

theorem flatten_graphemesFrom (g : Cluster) (current cs : List Char) :
    (graphemesFrom g current cs).flatten = current.reverse ++ cs := by
  induction cs generalizing g current with
  | nil => simp [graphemesFrom]
  | cons c cs ih =>
    rw [graphemesFrom]
    split
    · simp [ih]
    · simp [ih]

/-- A backspace goes on no grapheme. -/
theorem joins_backspace (g : Cluster) : g.joins '\x08' = false := by
  have control : breakClass '\x08' = .control := by decide +kernel
  rw [Cluster.joins, control]
  by_cases h : g.last = .carriageReturn <;> simp [h, BreakClass.standsAlone]

/-- Nothing goes on a backspace. -/
theorem joins_of_control {g : Cluster} (h : g.last = .control) (c : Char) : g.joins c = false := by
  rw [Cluster.joins, h]
  rfl

/-- A backspace is a grapheme by itself, if it is one in what has been read. -/
theorem eq_backspace_of_mem_graphemesFrom {g : Cluster} {current cs grapheme : List Char}
    (hcurrent : '\x08' ∈ current → current = ['\x08'] ∧ g.last = .control)
    (hg : grapheme ∈ graphemesFrom g current cs) (hmem : '\x08' ∈ grapheme) :
    grapheme = ['\x08'] := by
  have alone : '\x08' ∈ current.reverse → current.reverse = ['\x08'] := fun h => by
    rw [(hcurrent (List.mem_reverse.1 h)).1]
    rfl
  induction cs generalizing g current with
  | nil =>
    obtain rfl := List.mem_singleton.1 hg
    exact alone hmem
  | cons c cs ih =>
    rw [graphemesFrom] at hg
    split at hg
    · next joins =>
      -- neither the character nor what it goes on is a backspace
      have clean : '\x08' ∉ c :: current := by
        intro h
        rcases List.mem_cons.1 h with rfl | h
        · rw [joins_backspace] at joins
          exact Bool.noConfusion joins
        · rw [joins_of_control (hcurrent h).2] at joins
          exact Bool.noConfusion joins
      exact ih (fun h => absurd h clean) hg fun h => absurd (List.mem_reverse.1 h) clean
    · rcases List.mem_cons.1 hg with rfl | hg
      · exact alone hmem
      · have first : '\x08' ∈ [c] → [c] = ['\x08'] ∧ (Cluster.first c).last = .control := by
          intro h
          obtain rfl := List.mem_singleton.1 h
          exact ⟨rfl, by decide +kernel⟩
        exact ih first hg fun h => (first (List.mem_reverse.1 h)).1

/-- A backspace is a grapheme by itself. -/
theorem eq_backspace_of_mem_graphemes {cs grapheme : List Char} (hg : grapheme ∈ graphemes cs)
    (hmem : '\x08' ∈ grapheme) : grapheme = ['\x08'] := by
  cases cs with
  | nil => exact absurd hg List.not_mem_nil
  | cons c cs =>
    refine eq_backspace_of_mem_graphemesFrom (fun h => ?_) hg hmem
    obtain rfl := List.mem_singleton.1 h
    exact ⟨rfl, by decide +kernel⟩

/-- The graphemes of a text, put together, are the text. -/
theorem flatten_graphemes (cs : List Char) : (graphemes cs).flatten = cs := by
  cases cs with
  | nil => rfl
  | cons c cs => exact flatten_graphemesFrom _ _ _

end Unicode

namespace Session

theorem chars_foldl_read {gs : List (List Char)} (h : ∀ g ∈ gs, g ≠ ['\x08']) (r : Remnant) :
    (gs.foldl Remnant.read r).chars = gs.flatten.reverse ++ r.chars := by
  induction gs generalizing r with
  | nil => rfl
  | cons g gs ih =>
    obtain ⟨hg, hgs⟩ := List.forall_mem_cons.1 h
    rw [List.foldl_cons, ih hgs, Remnant.read, if_neg hg, Remnant.push]
    simp

/-- A text without backspaces stays as it is. -/
theorem applyBackspaces_of_notMem {cs : List Char} (h : '\x08' ∉ cs) : applyBackspaces cs = cs := by
  have others : ∀ g ∈ Unicode.graphemes cs, g ≠ ['\x08'] := by
    rintro g hg rfl
    refine h ?_
    rw [← Unicode.flatten_graphemes cs]
    exact List.mem_flatten_of_mem hg (List.mem_singleton_self _)
  rw [applyBackspaces, chars_foldl_read others, Unicode.flatten_graphemes]
  simp [Remnant.empty]

/-- What is read keeps no backspace. -/
theorem Remnant.notMem_read {r : Remnant} {grapheme : List Char} (hr : '\x08' ∉ r.chars)
    (hg : '\x08' ∈ grapheme → grapheme = ['\x08']) : '\x08' ∉ (r.read grapheme).chars := by
  rw [read]
  split
  · rw [backspace.eq_def]
    split
    · exact hr
    · exact fun h => hr ((Text.dropBytes_suffix _ _).subset h)
  · next hne =>
    rw [push, List.mem_append, List.mem_reverse, not_or]
    exact ⟨fun h => hne (hg h), hr⟩

theorem Remnant.notMem_foldl_read {gs : List (List Char)} {r : Remnant}
    (hgs : ∀ g ∈ gs, '\x08' ∈ g → g = ['\x08']) (hr : '\x08' ∉ r.chars) :
    '\x08' ∉ (gs.foldl read r).chars := by
  induction gs generalizing r with
  | nil => exact hr
  | cons g gs ih =>
    obtain ⟨hg, hgs⟩ := List.forall_mem_cons.1 hgs
    exact ih hgs (notMem_read hr hg)

/-- No backspaces are left after they have taken effect. -/
theorem notMem_applyBackspaces (cs : List Char) : '\x08' ∉ applyBackspaces cs := by
  rw [applyBackspaces, List.mem_reverse]
  exact Remnant.notMem_foldl_read (fun g => Unicode.eq_backspace_of_mem_graphemes) List.not_mem_nil

/-! ## Line ends -/

/-- A text is divided into itself and its line end. -/
theorem splitLineEnd_cases (cs : List Char) : ∃ text lineEnd, splitLineEnd cs = (text, lineEnd) ∧
    cs = text ++ lineEnd ∧ lineEnd ∈ [[], ['\n'], ['\r', '\n']] := by
  rw [splitLineEnd.eq_def]
  split
  · next rest h => exact ⟨_, _, rfl, by rw [← List.reverse_inj, h]; simp, by simp⟩
  · next rest h => exact ⟨_, _, rfl, by rw [← List.reverse_inj, h]; simp, by simp⟩
  · exact ⟨cs, [], rfl, (List.append_nil cs).symm, by simp⟩

/-- Line ends are blank. -/
theorem isBlank_of_lineEnd {lineEnd : List Char} (h : lineEnd ∈ [[], ['\n'], ['\r', '\n']]) :
    ∀ c ∈ lineEnd, Unicode.isBlank c = true := by
  simp only [List.mem_cons, List.not_mem_nil, or_false] at h
  rcases h with rfl | rfl | rfl
  · exact List.forall_mem_nil _
  · exact List.forall_mem_singleton.2 rfl
  · exact List.forall_mem_cons.2 ⟨rfl, List.forall_mem_singleton.2 rfl⟩

/-- The parentheses of a line come to the same with and without its line feed. -/
theorem Balance.ofLine_inputLine (line : List Char) :
    Balance.ofLine (inputLine line) = Balance.ofLine line :=
  ofLine_append line (filter_isParen_of_blank (isBlank_of_lineEnd (by simp)))

/-- A line asks for the same with and without its line end. -/
theorem Command.parse_splitLineEnd (line : List Char) :
    Command.parse (String.ofList (splitLineEnd (inputLine line)).1) =
      Command.parse (String.ofList line) := by
  obtain ⟨text, lineEnd, hsplit, hline, hlineEnd⟩ := splitLineEnd_cases (inputLine line)
  have lineFeed : ∀ c ∈ ['\n'], Unicode.isBlank c = true := isBlank_of_lineEnd (by simp)
  have trimmed : Text.trim text = Text.trim line := by
    rw [← Text.trim_append_of_blank (isBlank_of_lineEnd hlineEnd) text, ← hline, inputLine,
      Text.trim_append_of_blank lineFeed]
  rw [hsplit, Command.parse, Command.parse, String.toList_ofList, String.toList_ofList, trimmed]

end Session

/-! ## Reading -/

namespace Session

variable {buffer line : List Char} {lines : List (List Char)}

/-- What is read of all that has come, as its parentheses are. -/
def Reading.ofBalance (text : List Char) : Balance → Reading
  | .balanced => .line (splitLineEnd text).1
  | .incomplete => .partway text
  | .unmatched offset => .unmatched offset (splitLineEnd text).1

/-- If there are no backspaces, nothing but the parentheses is looked at. -/
theorem Reading.add_of_notMem (h : '\x08' ∉ buffer ++ line) :
    Reading.add buffer line = ofBalance (buffer ++ line) (Balance.ofLine (buffer ++ line)) := by
  obtain ⟨text, lineEnd, hsplit, htext, hlineEnd⟩ := splitLineEnd_cases (buffer ++ line)
  have parens := filter_isParen_of_blank (isBlank_of_lineEnd hlineEnd)
  have clean : '\x08' ∉ text := fun hmem => h (htext ▸ List.mem_append_left _ hmem)
  have balance : Balance.ofLine (buffer ++ line) = Balance.ofLine text := by
    rw [htext, Balance.ofLine_append text parens]
  rw [balance, add, hsplit]
  dsimp only
  rw [applyBackspaces_of_notMem clean]
  cases Balance.ofLine text with
  | balanced => simp [ofBalance, hsplit]
  | incomplete => simp [ofBalance, htext]
  | unmatched offset => simp [ofBalance, hsplit]

/-- A line that leaves parentheses open is kept, and nothing is written. -/
theorem feed_of_incomplete {env : Environment} (h : '\x08' ∉ buffer ++ line)
    (hopen : Balance.ofLine (buffer ++ line) = .incomplete) :
    feed ⟨env, buffer⟩ (some (String.ofList line)) = (.nothing, some ⟨env, buffer ++ line⟩) := by
  simp only [feed, String.toList_ofList, Reading.add_of_notMem h, hopen, Reading.ofBalance]

/-- A line that closes all of them is complete, without its line end. -/
theorem Reading.add_of_balanced (h : '\x08' ∉ buffer ++ line)
    (hclosed : Balance.ofLine (buffer ++ line) = .balanced) :
    Reading.add buffer line = .line (splitLineEnd (buffer ++ line)).1 := by
  rw [Reading.add_of_notMem h, hclosed, ofBalance]

/-- A line that closes all of them is executed. -/
theorem feed_of_balanced {env : Environment} (h : '\x08' ∉ buffer ++ line)
    (hclosed : Balance.ofLine (buffer ++ line) = .balanced) :
    feed ⟨env, buffer⟩ (some (String.ofList line)) =
      executeLine env (splitLineEnd (buffer ++ line)).1 := by
  simp only [feed, String.toList_ofList, Reading.add_of_balanced h hclosed]

/-- Lines are kept as long as parentheses are open. -/
theorem run_append_of_incomplete (h : '\x08' ∉ buffer ++ lines.flatten)
    (hopen : ∀ read, read <+: lines → read ≠ [] →
      Balance.ofLine (buffer ++ read.flatten) = .incomplete)
    (env : Environment) (more : List (Option String)) :
    run ⟨env, buffer⟩ (lines.map (fun line => some (String.ofList line)) ++ more) =
      run ⟨env, buffer ++ lines.flatten⟩ more := by
  induction lines generalizing buffer with
  | nil => simp
  | cons line lines ih =>
    rw [List.flatten_cons, ← List.append_assoc] at h ⊢
    have first := hopen [line] (List.prefix_append [line] lines) (List.cons_ne_nil _ _)
    rw [List.flatten_singleton] at first
    have clean : '\x08' ∉ buffer ++ line := fun hmem => h (List.mem_append_left _ hmem)
    have rest : ∀ read, read <+: lines → read ≠ [] →
        Balance.ofLine (buffer ++ line ++ read.flatten) = .incomplete := by
      intro read hread _
      rw [List.append_assoc, ← List.flatten_cons]
      exact hopen (line :: read) (List.cons_prefix_cons.2 ⟨rfl, hread⟩) (List.cons_ne_nil _ _)
    rw [List.map_cons, List.cons_append, run, feed_of_incomplete clean first]
    exact (Output.nothing_append _).trans (ih h rest)

end Session

end Bitwise
