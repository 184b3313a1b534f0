import Bitwise.Proofs.SessionNames

/-!
# What a line asks for

A session looks at a line without the blanks at its ends, and the signs by which it knows a command
are no part of a statement: no text that can be tokenized has a colon. So no statement is taken for
a command, words for leaving apart, and a statement is handed on as it stands in the line
(`Session.Command.keeps_statements`).

The blanks themselves make no difference to what is evaluated. A text that can be tokenized has the
same tokens without them. If something in a text is illegal, it stays illegal without the blanks
(`legal_of_trimmed`), though the words of the report can be others: a sign may be followed by a
blank in one of the texts and by nothing in the other (`trimming_changes_report`).
-/

namespace Bitwise

open Text (byteLength trim)
open Unicode (isBlank)

/-! ## Trimmed texts -/

namespace Text

/-- A text without the blanks at its ends. -/
def trimmed (text : String) : String :=
  String.ofList (trim text.toList)

@[simp] theorem toList_trimmed (text : String) : (trimmed text).toList = trim text.toList :=
  String.toList_ofList

variable {cs gap : List Char}

/-- Blanks before a text are trimmed with those of the text. -/
theorem trim_blank_append (hgap : ∀ c ∈ gap, isBlank c = true) (cs : List Char) :
    trim (gap ++ cs) = trim cs := by
  rw [trim, List.dropWhile_append_of_pos hgap, ← trim]

/-- A trimmed text has nothing more to be trimmed. -/
@[simp] theorem trim_trim (cs : List Char) : trim (trim cs) = trim cs := by
  obtain ⟨-, -, -, -, -, hhead, hlast⟩ := exists_eq_trim cs
  have alone : trim ([] ++ (trim cs ++ [])) = trim cs :=
    trim_append (List.forall_mem_nil _) (List.forall_mem_nil _) hhead hlast
  rwa [List.nil_append, List.append_nil] at alone

/-- A trimmed text does not end with a blank. -/
theorem isBlank_getLast_trim (cs : List Char) : ∀ c ∈ (trim cs).getLast?, isBlank c = false := by
  obtain ⟨-, -, -, -, -, -, hlast⟩ := exists_eq_trim cs
  exact hlast

end Text

open Text (trimmed)

section

variable {source : String}

/-- What is legal without the blanks at its ends is legal with them. -/
theorem legal_of_trimmed (h : ∀ t ∈ tokenize (trimmed source), t.kind ≠ .illegal) :
    ∀ t ∈ tokenize source, t.kind ≠ .illegal := by
  obtain ⟨gap, gap', hsource, hgap, hgap', -, -⟩ := Text.exists_eq_trim source.toList
  obtain ⟨ts, text, rest, htext, hrest, hspell, -⟩ := exists_spelling_of_legal h
  rw [Text.toList_trimmed] at htext
  rw [htext, List.append_assoc] at hsource
  have blank : ∀ c ∈ rest ++ gap', isBlank c = true := fun c hc =>
    (List.mem_append.1 hc).elim (hrest c) (hgap' c)
  -- the tokens move behind the first blanks, and nothing goes on with the last ones
  have moved : Spelling (rest ++ gap') (0 + byteLength gap) text _ :=
    (hspell.map_raise (byteLength gap)).congr_rest fun c hc =>
      .inr (TokenKind.goesOn_eq_false (isIdentifierPart_of_isBlank
        (blank c (List.mem_of_mem_head? hc))))
  have scanned := tokensAt_of_spelling moved blank
  rw [← tokensAt_blank_append hgap, ← hsource] at scanned
  intro t ht hk
  change t ∈ tokensAt 0 source.toList at ht
  rw [scanned, List.mem_append, List.mem_singleton] at ht
  rcases ht with ht | rfl
  · have legal := moved.isLast_eq_false t ht
    rw [hk] at legal
    exact Bool.noConfusion legal
  · exact TokenKind.noConfusion hk

end

/-! ## Evaluation without blanks at the ends -/

/-- Two evaluations come to the same: they have the same value, or none of them has one, and they
    leave the same bindings behind. -/
inductive ComeToSame : EStateM.Result StatementError Environment Int64 →
    EStateM.Result StatementError Environment Int64 → Prop
  | ok {v : Int64} {env : Environment} : ComeToSame (.ok v env) (.ok v env)
  | error {e e' : StatementError} {env : Environment} : ComeToSame (.error e env) (.error e' env)

theorem EvaluatedAlike.comeToSame {r r' : EStateM.Result StatementError Environment Int64}
    (h : EvaluatedAlike r r') : ComeToSame r r' := by
  cases h with
  | ok => exact .ok
  | parse _ => exact .error
  | undefined => exact .error

/-- A text is evaluated to the same with and without the blanks at its ends. -/
theorem comeToSame_trimmed (source : String) (env : Environment) :
    ComeToSame ((evalText source).run env) ((evalText (trimmed source)).run env) := by
  by_cases hlegal : ∀ t ∈ tokenize source, t.kind ≠ .illegal
  · exact ((sameMeaning_of_content (content_trim hlegal).symm).eval env).comeToSame
  · -- neither of the two can be parsed
    have unparsed : ∀ text, ¬(∀ t ∈ tokenize text, t.kind ≠ .illegal) →
        ∃ e, parse text = .error e := by
      intro text htext
      cases hparse : parse text with
      | error e => exact ⟨e, rfl⟩
      | ok node => exact absurd (legal_of_parse hparse) htext
    obtain ⟨e, he⟩ := unparsed source hlegal
    obtain ⟨e', he'⟩ := unparsed (trimmed source) fun h => hlegal (legal_of_trimmed h)
    rw [evalText_of_error he, evalText_of_error he']
    exact .error

/-! ## Commands -/

namespace Session.Command

variable {cs : List Char} {line source : String}

/-- A statement is the line that it stands in. -/
theorem eq_of_ofTrimmed_eq_eval (h : ofTrimmed cs = .eval source) : source = String.ofList cs := by
  rw [ofTrimmed.eq_def] at h
  split at h
  · cases h
  split at h
  · cases h
  split at h
  case h_4 =>
    split at h
    · cases h
    · exact (Command.eval.inj h).symm
  case h_5 => exact (Command.eval.inj h).symm
  all_goals cases h

theorem isWord_colon_cons {word : String} (h : ':' ∉ word.toList) (cs : List Char) :
    isWord word (':' :: cs) = false := by
  rw [isWord, beq_eq_false_iff_ne]
  intro heq
  exact h (heq ▸ List.mem_map_of_mem (f := Char.toLower) List.mem_cons_self)

/-- A tree is asked for by a word that stands alone, or that is followed by a blank. -/
theorem ofTrimmed_eq_tree_iff : ofTrimmed cs = .tree source ↔
    (cs = ":ast".toList ∧ source = "") ∨ ∃ c rest, isBlank c = true ∧
      cs = ":ast".toList ++ c :: rest ∧ source = String.ofList (trim rest) := by
  constructor
  · intro h
    rw [ofTrimmed.eq_def] at h
    split at h
    · cases h
    split at h
    · cases h
    split at h
    case h_3 => exact .inl ⟨rfl, (Command.tree.inj h).symm⟩
    case h_4 c rest _ _ =>
      split at h
      · next hc => exact .inr ⟨c, rest, hc, rfl, (Command.tree.inj h).symm⟩
      · cases h
    all_goals cases h
  · have noWord : ∀ cs, (isWord "exit" (':' :: cs) || isWord "quit" (':' :: cs)) = false := by
      intro cs
      rw [isWord_colon_cons (by decide), isWord_colon_cons (by decide), Bool.or_false]
    rintro (⟨rfl, rfl⟩ | ⟨c, rest, hc, rfl, rfl⟩)
    · rfl
    · show ofTrimmed (':' :: 'a' :: 's' :: 't' :: c :: rest) = _
      simp [ofTrimmed, noWord, hc]

theorem parse_eq (line : String) : Command.parse line = ofTrimmed (trimmed line).toList := by
  rw [Text.toList_trimmed, Command.parse]

/-- Only the blanks at its ends are taken off a statement. -/
theorem eq_trimmed_of_parse (h : Command.parse line = .eval source) : source = trimmed line :=
  eq_of_ofTrimmed_eq_eval h

/-- A line and the line without the blanks at its ends are the same command. -/
theorem parse_trimmed (line : String) : Command.parse (trimmed line) = Command.parse line := by
  rw [Command.parse, Command.parse, Text.toList_trimmed, Text.trim_trim]

/-- What can be parsed is a statement, unless it is a word for leaving. -/
theorem parse_eq_eval_of_ok {node : Node} (h : Bitwise.parse (trimmed line) = .ok node)
    (hstays : ¬LeavesSession (trimmed line)) : Command.parse line = .eval (trimmed line) := by
  have hcolon : ':' ∉ (trimmed line).toList :=
    notMem_of_legal (legal_of_parse h) (by decide) (by decide) (by decide +kernel)
  have hne : (trimmed line).toList ≠ [] := by
    intro hnil
    have nothing : Bitwise.parse "" = .error (.unexpectedEnd .statement) := by decide +kernel
    rw [String.toList_eq_nil_iff.1 hnil, nothing] at h
    cases h
  have stays : ¬(isWord "exit" (trimmed line).toList || isWord "quit" (trimmed line).toList) =
      true := by
    rwa [Bool.or_eq_true, isWord_iff, isWord_iff]
  rw [parse_eq, ofTrimmed_of_notMem hne hcolon, if_neg stays, String.ofList_toList]

/-- The command of a line keeps the statement that stands in it. -/
structure KeepsStatement (line : String) : Prop where
  /-- Blanks before and behind a line make no difference to its command. -/
  blanks : ∀ gap gap' : List Char, (∀ c ∈ gap, isBlank c = true) → (∀ c ∈ gap', isBlank c = true) →
    Command.parse (String.ofList (gap ++ (line.toList ++ gap'))) = Command.parse line
  /-- What can be parsed is a statement, unless it is a word for leaving. -/
  statement : ∀ node, Bitwise.parse (trimmed line) = .ok node → ¬LeavesSession (trimmed line) →
    Command.parse line = .eval (trimmed line)
  /-- A tree is asked for by a word that stands alone, or that is followed by a blank and what the
      tree is asked of. -/
  tree_iff : ∀ source, Command.parse line = .tree source ↔
    (trimmed line = ":ast" ∧ source = "") ∨ ∃ c rest, isBlank c = true ∧ rest ≠ [] ∧
      (trimmed line).toList = ":ast".toList ++ c :: rest ∧
      source = String.ofList (trim (c :: rest))
  /-- A statement that stands alone in a line is the same statement. -/
  again : ∀ source, Command.parse line = .eval source → Command.parse source = .eval source
  /-- With and without blanks at its ends a line is evaluated to the same. -/
  eval : ∀ env, ComeToSame ((evalText line).run env) ((evalText (trimmed line)).run env)

/-- Whatever stands in a line, a session neither takes a statement for something else nor changes
    it. -/
theorem keeps_statements (line : String) : KeepsStatement line where
  blanks gap gap' hgap hgap' := by
    rw [Command.parse, Command.parse, String.toList_ofList, Text.trim_blank_append hgap,
      Text.trim_append_of_blank hgap']
  statement _ := parse_eq_eval_of_ok
  tree_iff source := by
    rw [parse_eq, ofTrimmed_eq_tree_iff, String.toList_inj]
    refine or_congr_right (exists_congr fun c => exists_congr fun rest => ?_)
    constructor
    · rintro ⟨hc, hline, rfl⟩
      have single : ∀ d ∈ [c], isBlank d = true := List.forall_mem_singleton.2 hc
      refine ⟨hc, ?_, hline, congrArg _ (Text.trim_blank_append single rest).symm⟩
      -- a trimmed line does not end with the blank
      rintro rfl
      have last := Text.isBlank_getLast_trim line.toList c
      rw [← Text.toList_trimmed, hline, List.getLast?_concat] at last
      exact Bool.noConfusion (hc.symm.trans (last rfl))
    · rintro ⟨hc, -, hline, rfl⟩
      have single : ∀ d ∈ [c], isBlank d = true := List.forall_mem_singleton.2 hc
      exact ⟨hc, hline, congrArg _ (Text.trim_blank_append single rest)⟩
  again source h := by
    obtain rfl := eq_trimmed_of_parse h
    rw [parse_trimmed, h]
  eval := comeToSame_trimmed line

/-- A sign that is incomplete. With blanks around it the report is about the blank behind it, and
    without them about the end of the text. -/
theorem trimming_changes_report :
    KeepsStatement " < " ∧ Command.parse " < " = .eval "<" ∧
      ¬EvaluatedAlike ((evalText " < ").run ∅) ((evalText (trimmed " < ")).run ∅) := by
  refine ⟨keeps_statements " < ", by decide +kernel, ?_⟩
  have withBlank : Bitwise.parse " < " = .error (.lexical "unexpected ' '" ⟨1, 3⟩) := by
    decide +kernel
  have alone : Bitwise.parse (trimmed " < ") =
      .error (.lexical "unexpected end of input" ⟨0, 1⟩) := by
    decide +kernel
  have sameWords : ∀ {words words' : String} {a b : Span}, EvaluatedAlike
      (.error (.parse (.lexical words a)) ∅) (.error (.parse (.lexical words' b)) ∅) →
        words = words' := by
    rintro words words' a b (_ | ⟨⟨⟩⟩)
    rfl
  rw [evalText_of_error withBlank, evalText_of_error alone]
  exact fun h => absurd (sameWords h) (by decide)

end Session.Command

end Bitwise
