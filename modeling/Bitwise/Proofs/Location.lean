import Bitwise.Proofs.Evaluation
import Bitwise.Proofs.Parts
import Bitwise.Proofs.Prefix
import Bitwise.Report.Diagnostic

/-!
# The places that reports name

A report names the line and the column of the part that it is about. The span of an error counts
bytes, but a report reads it as a range of characters. So the place that is named is that of the
character whose number is the offset of the error in bytes, and it is the right one only if all
characters before the error take one byte each (`location_of_failure`). With others it is too far
to the right, or in a later line, or there is none (`misplaced_reports`).

Where a character stands is said in terms of the lines of its text (`Text.Stands`), apart from how
its line is found.
-/

namespace Bitwise

open Text (byteLength)

/-! ## Lines and columns -/

/-- The character at an index of a text stands in a line and a column, both counted from zero. The
    end of the text is in its last line. -/
def Text.Stands (cs : List Char) (index line column : Nat) : Prop :=
  ∃ above chars below, lines cs = above ++ chars :: below ∧ above.length = line ∧
    above.flatten.length + column = index ∧
    (column < chars.length ∨ below = [] ∧ column = chars.length)

namespace Text

variable {cs : List Char} {index index' line line' column column' : Nat}

theorem flatten_splitAfterTerminators (cs : List Char) :
    (splitAfterTerminators cs).flatten = cs := by
  fun_induction splitAfterTerminators cs with
  | case1 => rfl
  | case2 cs ih => rw [List.flatten_cons, ih]; rfl
  | case3 c cs _ _ ih => rw [List.flatten_cons, ih]; rfl
  | case4 c cs _ _ hnil ih => rw [← ih, hnil]; rfl
  | case5 c cs _ _ line lines hcons ih => rw [← ih, hcons]; rfl

/-- The lines of a text, put together, are the text. -/
theorem flatten_lines (cs : List Char) : (lines cs).flatten = cs := by
  rw [lines]
  split
  · next hnil => rw [← flatten_splitAfterTerminators cs, hnil]; rfl
  · exact flatten_splitAfterTerminators cs

theorem lines_ne_nil (cs : List Char) : lines cs ≠ [] := by
  rw [lines]
  split
  · exact List.cons_ne_nil _ _
  · next hne => exact hne

/-- The line that is found for an offset has the offset in it. -/
theorem exists_lineFrom {ls : List (List Char)} (hne : ls ≠ []) (index : Nat) {start offset : Nat}
    (hstart : start ≤ offset) (hstop : offset ≤ start + ls.flatten.length) :
    ∃ above chars below, ls = above ++ chars :: below ∧
      lineFrom index start offset ls =
        ⟨index + above.length, start + above.flatten.length, chars⟩ ∧
      start + above.flatten.length ≤ offset ∧
      (offset < start + above.flatten.length + chars.length ∨
        below = [] ∧ offset = start + above.flatten.length + chars.length) := by
  fun_induction lineFrom index start offset ls with
  | case1 => exact absurd rfl hne
  | case2 index start chars =>
    rw [List.flatten_singleton] at hstop
    exact ⟨[], chars, [], rfl, rfl, hstart, by simp; omega⟩
  | case3 index start chars next rest hle ih =>
    rw [List.flatten_cons, List.length_append] at hstop
    obtain ⟨above, line, below, hls, hline, hbefore, hafter⟩ :=
      ih (List.cons_ne_nil _ _) hle (by omega)
    refine ⟨chars :: above, line, below, by rw [hls, List.cons_append], ?_, ?_⟩
    · rw [hline, List.length_cons, List.flatten_cons, List.length_append]
      simp only [Line.mk.injEq, and_true]
      omega
    · rw [List.flatten_cons, List.length_append, ← Nat.add_assoc]
      exact ⟨hbefore, hafter⟩
  | case4 index start chars next rest hlt =>
    exact ⟨[], chars, next :: rest, rfl, rfl, hstart, .inl (by simpa using hlt)⟩

/-- The line of an index, and its column there, are where the character stands. -/
theorem stands_lineAt (h : index ≤ cs.length) :
    Stands cs index (lineAt cs index).index (index - (lineAt cs index).start) := by
  obtain ⟨above, chars, below, hls, hline, hbefore, hafter⟩ :=
    exists_lineFrom (lines_ne_nil cs) 0 (Nat.zero_le index)
      (by rw [flatten_lines, Nat.zero_add]; exact h)
  rw [lineAt, hline]
  simp only [Nat.zero_add] at hbefore hafter ⊢
  exact ⟨above, chars, below, hls, rfl, by omega,
    hafter.imp (fun h => by omega) (And.imp_right fun h => by omega)⟩

/-- The lines above one are the same in every account of a text. -/
theorem Stands.add_column (h : Stands cs index line column)
    (h' : Stands cs index' line column') : index + column' = index' + column := by
  obtain ⟨above, chars, below, hls, hline, hindex, -⟩ := h
  obtain ⟨above', chars', below', hls', hline', hindex', -⟩ := h'
  obtain ⟨rfl, -⟩ := List.append_inj (hls.symm.trans hls') (hline.trans hline'.symm)
  omega

/-- What stands in a later line comes later. -/
theorem Stands.lt_of_line_lt (h : Stands cs index line column)
    (h' : Stands cs index' line' column') (hlt : line < line') : index < index' := by
  obtain ⟨above, chars, below, hls, rfl, hindex, hcolumn⟩ := h
  obtain ⟨above', chars', below', hls', rfl, hindex', -⟩ := h'
  have parts : above ++ chars :: below = above' ++ chars' :: below' := hls.symm.trans hls'
  rcases hcolumn with hcolumn | ⟨rfl, -⟩
  · -- the whole line is above the other one
    have upper : above ++ [chars] <+: lines cs := ⟨below, by simp [hls]⟩
    have lower : above' <+: lines cs := ⟨chars' :: below', hls'.symm⟩
    have shorter : (above ++ [chars]).length ≤ above'.length := by
      rw [List.length_append]
      exact hlt
    obtain ⟨between, rfl⟩ := List.prefix_of_prefix_length_le upper lower shorter
    simp only [List.flatten_append, List.flatten_singleton, List.length_append] at hindex'
    omega
  · have lengths := congrArg List.length parts
    simp only [List.length_append, List.length_cons, List.length_nil] at lengths
    omega

/-- A character stands at one place only. -/
theorem Stands.unique (h : Stands cs index line column) (h' : Stands cs index line' column') :
    line = line' ∧ column = column' := by
  obtain rfl : line = line' := by
    rcases Nat.lt_trichotomy line line' with hlt | heq | hlt
    · exact absurd (h.lt_of_line_lt h' hlt) (Nat.lt_irrefl _)
    · exact heq
    · exact absurd (h'.lt_of_line_lt h hlt) (Nat.lt_irrefl _)
  exact ⟨rfl, (Nat.add_left_cancel (h.add_column h')).symm⟩

end Text

/-! ## What a report names -/

namespace Report

variable {r : Report} {source title rendered : String} {line column line' column' : Nat}

/-- A report is written with a headline, and names a line and a column below it. -/
def Names (title rendered : String) (line column : Nat) : Prop :=
  ∃ margin picture : String, (∀ c ∈ margin.toList, c = ' ') ∧
    rendered = "Error: " ++ title ++ "\n" ++
      (margin ++ ("╭─[ input:" ++ (toString line ++ (":" ++ (toString column ++
        (" ]\n" ++ picture))))))

/-- The line and the column can be told from the report. -/
theorem Names.unique (h : Names title rendered line column)
    (h' : Names title rendered line' column') : line = line' ∧ column = column' := by
  obtain ⟨margin, picture, hmargin, rfl⟩ := h
  obtain ⟨margin', picture', hmargin', h'⟩ := h'
  have corner : "╭─[ input:".toList = '╭' :: "─[ input:".toList := by decide
  have colon : ":".toList = [':'] := by decide
  have behind : " ]\n".toList = ' ' :: "]\n".toList := by decide
  have parts := congrArg String.toList ((String.append_right_inj _).1 h')
  simp only [String.toList_append, corner, colon, behind, List.cons_append,
    List.nil_append] at parts
  -- the margin ends at the corner, the line at the colon, and the column at the blank
  obtain ⟨-, parts⟩ := append_cons_inj_of_run (p := fun c => c == ' ')
    (fun c hc => by simp [hmargin c hc]) (fun c hc => by simp [hmargin' c hc]) rfl rfl parts
  obtain ⟨hline, parts⟩ := append_cons_inj_of_run (isDigit_of_mem_toString line)
    (isDigit_of_mem_toString line') rfl rfl (List.append_cancel_left parts)
  obtain ⟨hcolumn, -⟩ := append_cons_inj_of_run (isDigit_of_mem_toString column)
    (isDigit_of_mem_toString column') rfl rfl parts
  exact ⟨eq_of_toList_toString_eq hline, eq_of_toList_toString_eq hcolumn⟩

theorem inText_iff {text : List Char} :
    r.inText text = true ↔ r.span.start ≤ text.length ∧ r.last ≤ text.length := by
  rw [inText, Bool.and_eq_true, decide_eq_true_iff, decide_eq_true_iff]

/-- A report on a part that does not lie in the text is no more than its headline. -/
theorem render_eq_of_not_inText (h : r.inText source.toList = false) :
    r.render source = "Error: " ++ r.title ++ "\n" := by
  simp [render, h, String.join_cons]

/-- The picture begins with the place. -/
theorem exists_picture_eq (text : List Char) : ∃ width rest, r.picture text =
    (margin width ++ "╭─[ input:" ++ toString ((r.place text).1 + 1) ++ ":" ++
      toString ((r.place text).2 + 1) ++ " ]") :: rest :=
  ⟨_, _, rfl⟩

/-- A report on a part that lies in the text names its place. -/
theorem names_render_of_inText (h : r.inText source.toList = true) :
    Names r.title (r.render source) ((r.place source.toList).1 + 1)
      ((r.place source.toList).2 + 1) := by
  obtain ⟨width, rest, hpicture⟩ := exists_picture_eq (r := r) source.toList
  refine ⟨margin width, String.join (rest.map (· ++ "\n")), fun c hc => ?_, ?_⟩
  · rw [margin, String.toList_ofList] at hc
    exact List.eq_of_mem_replicate hc
  · have join : " ]" ++ "\n" = " ]\n" := by decide
    simp only [render, h, if_true, hpicture, List.map_cons, String.join_cons, String.append_assoc,
      ← join]

/-- What a report names is its location, and nothing if it has none. -/
theorem names_render_iff_location? :
    Names r.title (r.render source) line column ↔ r.location? source = some (line, column) := by
  rw [location?]
  cases h : r.inText source.toList with
  | false =>
    rw [render_eq_of_not_inText h]
    refine iff_of_false ?_ (by simp)
    rintro ⟨margin, picture, -, heq⟩
    -- there is nothing below the headline
    have nothing := congrArg String.length heq
    simp only [String.length_append] at nothing
    have corner : "╭─[ input:".length = 10 := by decide
    omega
  | true =>
    have names := names_render_of_inText h
    rw [if_pos rfl, Option.some_inj, Prod.mk.injEq]
    constructor
    · intro hnames
      obtain ⟨hline, hcolumn⟩ := hnames.unique names
      exact ⟨hline.symm, hcolumn.symm⟩
    · rintro ⟨rfl, rfl⟩
      exact names

/-- The location of a report is where its part begins, if that lies in the text. -/
theorem location?_eq_some_iff : r.location? source = some (line + 1, column + 1) ↔
    r.inText source.toList = true ∧ Text.Stands source.toList r.span.start line column := by
  rw [location?]
  cases h : r.inText source.toList with
  | false => simp
  | true =>
    have stands := Text.stands_lineAt (inText_iff.1 h).1
    rw [if_pos rfl, Option.some_inj, Prod.mk.injEq]
    constructor
    · rintro ⟨hline, hcolumn⟩
      rw [← Nat.succ.inj hline, ← Nat.succ.inj hcolumn]
      exact ⟨rfl, stands⟩
    · rintro ⟨-, hstands⟩
      obtain ⟨rfl, rfl⟩ := hstands.unique stands
      exact ⟨rfl, rfl⟩

/-- A report names a line and a column exactly if the part lies in the text and begins there. -/
theorem names_render_iff : Names r.title (r.render source) (line + 1) (column + 1) ↔
    r.inText source.toList = true ∧ Text.Stands source.toList r.span.start line column :=
  names_render_iff_location?.trans location?_eq_some_iff

end Report

/-! ## The spans of errors -/

/-- The span of an error. One at the end of the text stands just there. -/
def StatementError.span (source : String) : StatementError → Span
  | .parse reason => reason.span?.getD (.point (byteLength source.toList))
  | .eval reason => reason.span

theorem StatementError.report_span (source : String) (e : StatementError) :
    (e.report source).span = e.span source := by
  rcases e with (_ | _ | _ | _ | _) | _ <;> rfl

/-- A variable without a value is a node of the tree. -/
theorem Node.Outcome.var_mem_nodes {t : Node} {env env' : Environment} {e : UndefinedVariable}
    (h : t.Outcome env (.error e env')) : Tree.var e.name e.span ∈ t.nodes := by
  generalize hr : EStateM.Result.error e env' = r at h
  induction h with
  | undefined =>
    cases hr
    exact List.mem_singleton_self _
  | complementFails _ ih | assignFails _ ih => exact List.mem_cons_of_mem _ (ih hr)
  | leftFails _ ih => exact List.mem_cons_of_mem _ (List.mem_append_left _ (ih hr))
  | rightFails _ _ _ ih => exact List.mem_cons_of_mem _ (List.mem_append_right _ (ih hr))
  | _ => cases hr

section

variable {source : String} {env env' : Environment} {e : StatementError}

/-- A node of a parsed tree spans a part of the text. -/
theorem exists_cut_of_mem_nodes {root n : Node} (h : parse source = .ok root)
    (hn : n ∈ root.nodes) :
    ∃ before piece after, Text.Cut source.toList n.mark before piece after := by
  obtain ⟨s, text, gap, hsource, -, hspell, -, rfl⟩ := parse_eq_ok_iff_spelling.1 h
  obtain ⟨s', ⟨before, after, parts⟩, rfl⟩ := s.exists_part n hn
  rw [← parts, List.append_assoc] at hspell
  obtain ⟨text₁, _, rfl, -, hspell⟩ := hspell.exists_append
  obtain ⟨text₂, text₃, rfl, hspell, -⟩ := hspell.exists_append
  obtain ⟨blanks, c, cs, rfl, -, hmark⟩ := Grammar.Statement.exists_piece hspell
  rw [hmark]
  refine ⟨text₁ ++ blanks, c :: cs, text₃ ++ gap, ?_, ?_, ?_⟩
  · simp [hsource]
  · simp
  · simp

/-- An error of parsing spans a part of the text. -/
theorem exists_cut_of_parse_eq_error {reason : ParseError} (h : parse source = .error reason) :
    ∃ before piece after,
      Text.Cut source.toList ((StatementError.parse reason).span source) before piece after := by
  rcases exists_scans_of_error h with
    ⟨text, gap, piece, after, ts, t, p, hsource, -, -, -, hs, -, hfeed⟩ |
    ⟨text, gap, ts, p, -, -, -, -, hfinish⟩
  · rw [StatementError.span, Parser.span?_of_feed_eq_error hfeed, Option.getD_some, hs.span_eq]
    refine ⟨text ++ gap, piece, after, ?_, ?_, ?_⟩
    · simp [hsource]
    · simp
    · simp
  · rw [StatementError.span, Parser.span?_of_finish_eq_error hfinish, Option.getD_none]
    refine ⟨source.toList, [], [], ?_, rfl, rfl⟩
    simp

/-- Every error of a statement spans a part of the text. -/
theorem exists_cut_of_failure (h : (evalText source).run env = .error e env') :
    ∃ before piece after, Text.Cut source.toList (e.span source) before piece after := by
  cases e with
  | parse reason =>
    cases hparse : parse source with
    | ok root =>
      rw [evalText_of_ok hparse] at h
      cases hrun : (Node.eval root).run env <;> rw [hrun] at h <;> cases h
    | error reason' =>
      rw [evalText_of_error hparse] at h
      cases h
      exact exists_cut_of_parse_eq_error hparse
  | eval reason =>
    obtain ⟨root, hparse, hrun⟩ := exists_of_evalText_eval h
    exact exists_cut_of_mem_nodes hparse (Node.run_eval_eq_iff.1 hrun).var_mem_nodes

end

/-! ## Reports on errors -/

/-- The report on an error names the line and the column of the character that begins at the byte
    where the error does. -/
def StatementError.Located (source : String) (e : StatementError) : Prop :=
  ∃ before after line column, source.toList = before ++ after ∧
    (e.span source).start = byteLength before ∧
    Text.Stands source.toList before.length line column ∧
    Report.Names (e.report source).title ((e.report source).render source) (line + 1) (column + 1)

/-- A text has no more characters than bytes. -/
theorem Text.length_le_byteLength (cs : List Char) : cs.length ≤ byteLength cs := by
  induction cs with
  | nil => exact Nat.le_refl 0
  | cons c cs ih =>
    have := c.utf8Size_pos
    rw [List.length_cons, byteLength_cons]
    omega

section

variable {source : String} {e : StatementError} {before piece after : List Char}
  {line column : Nat}

/-- The report on an error takes bytes for characters. -/
theorem names_report_iff (h : Text.Cut source.toList (e.span source) before piece after) :
    Report.Names (e.report source).title ((e.report source).render source) (line + 1)
        (column + 1) ↔
      byteLength before ≤ source.toList.length ∧
        byteLength before + byteLength piece ≤ source.toList.length + 1 ∧
        Text.Stands source.toList (byteLength before) line column := by
  have start : (e.report source).span.start = byteLength before :=
    (congrArg Span.start (e.report_span source)).trans h.start
  have stop : (e.report source).span.stop = byteLength before + byteLength piece :=
    (congrArg Span.stop (e.report_span source)).trans h.stop
  rw [Report.names_render_iff, Report.inText_iff, Report.last, start, stop, and_assoc]
  refine and_congr_right fun hstart => and_congr_left fun _ => ?_
  split <;> omega

/-- The report on an error leads to the error exactly if all characters before it take one byte, and
    its own bytes are not too many for the text. -/
theorem located_iff_of_cut (h : Text.Cut source.toList (e.span source) before piece after) :
    e.Located source ↔ byteLength before = before.length ∧
      byteLength piece ≤ piece.length + after.length + 1 := by
  have total := congrArg List.length h.eq
  simp only [List.length_append] at total
  constructor
  · rintro ⟨before', after', line, column, hsource, hstart, hstands, hnames⟩
    -- the two accounts of what stands before the error are one
    have parts : before' ++ after' = before ++ (piece ++ after) := by
      rw [← hsource, h.eq, List.append_assoc]
    obtain ⟨rfl, -⟩ := Text.append_inj_byteLength parts (hstart.symm.trans h.start)
    obtain ⟨-, hstop, hstands'⟩ := (names_report_iff h).1 hnames
    have narrow := hstands'.add_column hstands
    omega
  · rintro ⟨hnarrow, hpiece⟩
    have within : before.length ≤ source.toList.length := by omega
    have stands := Text.stands_lineAt within
    refine ⟨before, piece ++ after, _, _, by rw [h.eq, List.append_assoc], h.start, stands, ?_⟩
    rw [names_report_iff h, hnarrow]
    exact ⟨by omega, by omega, stands⟩

end

/-- What the report on an error tells of its place, in terms of the parts of the text that the span
    of the error tells apart. -/
structure StatementError.Reported (source : String) (e : StatementError)
    (before piece after : List Char) : Prop where
  cut : Text.Cut source.toList (e.span source) before piece after
  /-- The place is that of the character with the number of the byte at which the error begins, and
      none is named if there are not enough characters. -/
  names_iff : ∀ line column, Report.Names (e.report source).title
    ((e.report source).render source) (line + 1) (column + 1) ↔
      byteLength before ≤ source.toList.length ∧
        byteLength before + byteLength piece ≤ source.toList.length + 1 ∧
        Text.Stands source.toList (byteLength before) line column
  /-- It is the place of the error exactly if all characters before the error take one byte, and the
      bytes of the error itself are not too many for the text. -/
  located_iff : e.Located source ↔ byteLength before = before.length ∧
    byteLength piece ≤ piece.length + after.length + 1
  /-- So it is in a text of characters of one byte. -/
  located_of_narrow : byteLength source.toList = source.toList.length → e.Located source

/-- The report on the failure of a statement leads to the error if the characters before it take one
    byte each, and only then. -/
theorem location_of_failure {source : String} {env env' : Environment} {e : StatementError}
    (h : (evalText source).run env = .error e env') :
    ∃ before piece after, e.Reported source before piece after := by
  obtain ⟨before, piece, after, cut⟩ := exists_cut_of_failure h
  refine ⟨before, piece, after, cut, fun _ _ => names_report_iff cut, located_iff_of_cut cut, ?_⟩
  intro hnarrow
  rw [cut.eq, Text.byteLength_append, Text.byteLength_append, List.length_append,
    List.length_append] at hnarrow
  have hbefore := Text.length_le_byteLength before
  have hpiece := Text.length_le_byteLength piece
  have hafter := Text.length_le_byteLength after
  exact (located_iff_of_cut cut).2 ⟨by omega, by omega⟩

/-- An error in the second line is found there, although a character of two bytes comes later. -/
theorem location_of_failure_in_second_line :
    (evalText "(1 |\r\n  x) & ß").run ∅ = .error (.eval ⟨"x", ⟨8, 9⟩⟩) ∅ ∧
      StatementError.Located "(1 |\r\n  x) & ß" (.eval ⟨"x", ⟨8, 9⟩⟩) := by
  have parsed : parse "(1 |\r\n  x) & ß" = .ok (.binary .and
      (.binary .or (.literal 1 ⟨1, 2⟩) (.var "x" ⟨8, 9⟩) ⟨0, 10⟩) (.var "ß" ⟨13, 15⟩) ⟨0, 15⟩) := by
    decide +kernel
  have fails : (evalText "(1 |\r\n  x) & ß").run ∅ = .error (.eval ⟨"x", ⟨8, 9⟩⟩) ∅ := by
    rw [evalText_of_ok parsed]
    rfl
  refine ⟨fails, ?_⟩
  obtain ⟨before, piece, after, reported⟩ := location_of_failure fails
  -- the error is the only part of the text at its span
  have whole : "(1 |\r\n  ".toList ++ (['x'] ++ ") & ß".toList) = before ++ (piece ++ after) := by
    rw [← List.append_assoc before, ← reported.cut.eq]
    decide
  obtain ⟨rfl, parts⟩ := Text.append_inj_byteLength whole reported.cut.start
  have stop : 8 + byteLength ['x'] = 8 + byteLength piece := reported.cut.stop
  obtain ⟨rfl, rfl⟩ := Text.append_inj_byteLength parts (Nat.add_left_cancel stop)
  exact reported.located_iff.2 ⟨by decide, by decide⟩

/-- With characters of two bytes before the error a report names a place too far to the right, and
    if there are not enough characters it is reduced to its headline. -/
theorem misplaced_reports :
    (∃ e : StatementError, (evalText "é $").run ∅ = .error e ∅ ∧ ¬e.Located "é $" ∧
      Report.Names "Lexer Error" ((e.report "é $").render "é $") 1 4 ∧
      Text.Stands "é $".toList 2 0 2) ∧
    ∃ e : StatementError, (evalText "größe").run ∅ = .error e ∅ ∧ ¬e.Located "größe" ∧
      (e.report "größe").render "größe" = "Error: Undefined variable `größe`\n" := by
  constructor
  · have parsed : parse "é $" = .error (.lexical "unexpected '$' at 3" ⟨3, 4⟩) := by
      decide +kernel
    have cut : Text.Cut "é $".toList ⟨3, 4⟩ ['é', ' '] ['$'] [] :=
      ⟨by decide, by decide, by decide⟩
    refine ⟨_, evalText_of_error parsed ∅, ?_, ?_, ?_⟩
    · rw [located_iff_of_cut cut]
      decide
    · exact (names_report_iff cut).2 ⟨by decide, by decide, [], "é $".toList, [], by decide⟩
    · exact ⟨[], "é $".toList, [], by decide⟩
  · have parsed : parse "größe" = .ok (.var "größe" ⟨0, 7⟩) := by decide +kernel
    have cut : Text.Cut "größe".toList ⟨0, 7⟩ [] "größe".toList [] :=
      ⟨by decide, by decide, by decide⟩
    refine ⟨.eval ⟨"größe", ⟨0, 7⟩⟩, ?_, ?_, ?_⟩
    · rw [evalText_of_ok parsed]
      rfl
    · rw [located_iff_of_cut cut]
      decide
    · exact Report.render_eq_of_not_inText (by decide)

end Bitwise
