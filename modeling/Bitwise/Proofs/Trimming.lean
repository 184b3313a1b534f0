import Bitwise.Proofs.Spacing
import Bitwise.Session.Command
import Mathlib.Data.List.TakeWhile

/-!
# Lines without blanks at their ends

What a line of a session asks for is decided after the blanks at its ends are taken off. A text that
can be tokenized has the same tokens without them, up to their spans (`content_trim`). If it has a
parenthesis, it is always a statement to be evaluated (`Session.Command.parse_eq_eval`): it is no
word, and there is no colon in any text that can be tokenized.
-/

namespace Bitwise

open Text (byteLength trim trimEnd)
open Unicode (isBlank)

/-! ## Trimming -/

namespace Text

variable {cs gap gap' : List Char}

/-- Blanks at the ends go, and nothing else if there are no more. -/
theorem trim_append (hgap : ∀ c ∈ gap, isBlank c = true) (hgap' : ∀ c ∈ gap', isBlank c = true)
    (hhead : ∀ c ∈ cs.head?, isBlank c = false) (hlast : ∀ c ∈ cs.getLast?, isBlank c = false) :
    trim (gap ++ (cs ++ gap')) = cs := by
  have hend : trimEnd (cs ++ gap') = cs := by
    rw [← List.head?_reverse] at hlast
    rw [trimEnd, List.reverse_append, dropWhile_append_of_head (by simpa using hgap') hlast,
      List.reverse_reverse]
  cases cs with
  | nil =>
    have blank : ∀ c ∈ gap ++ gap', isBlank c = true := fun c hc =>
      (List.mem_append.1 hc).elim (hgap c) (hgap' c)
    rw [List.nil_append, trim, List.dropWhile_eq_nil_iff.2 blank]
    rfl
  | cons c cs =>
    have first : ∀ d ∈ (c :: cs ++ gap').head?, isBlank d = false := hhead
    rw [trim, dropWhile_append_of_head hgap first, hend]

/-- A text is what is left of it, with the blanks that it began and ended with. -/
theorem exists_eq_trim (cs : List Char) : ∃ gap gap', cs = gap ++ (trim cs ++ gap') ∧
    (∀ c ∈ gap, isBlank c = true) ∧ (∀ c ∈ gap', isBlank c = true) ∧
    (∀ c ∈ (trim cs).head?, isBlank c = false) ∧ (∀ c ∈ (trim cs).getLast?, isBlank c = false) := by
  have hparts : cs = cs.takeWhile isBlank ++ cs.dropWhile isBlank :=
    List.takeWhile_append_dropWhile.symm
  have hhead := head?_dropWhile_eq_false isBlank cs
  rw [trim]
  generalize cs.dropWhile isBlank = ds at hparts hhead
  have hds : ds = trimEnd ds ++ (ds.reverse.takeWhile isBlank).reverse := by
    rw [trimEnd, ← List.reverse_append, List.takeWhile_append_dropWhile, List.reverse_reverse]
  refine ⟨cs.takeWhile isBlank, (ds.reverse.takeWhile isBlank).reverse, ?_, ?_, ?_, ?_, ?_⟩
  · rw [← hds, ← hparts]
  · exact fun c => mem_takeWhile_eq_true
  · exact fun c hc => mem_takeWhile_eq_true (List.mem_reverse.1 hc)
  · intro c hc
    refine hhead c ?_
    rw [Option.mem_def] at hc ⊢
    rw [hds, List.head?_append, hc, Option.some_or]
  · rw [trimEnd, List.getLast?_reverse]
    exact head?_dropWhile_eq_false isBlank ds.reverse

/-- A text without blanks stays as it is. -/
theorem trim_of_forall (h : ∀ c ∈ cs, isBlank c = false) : trim cs = cs := by
  have trimmed : trim ([] ++ (cs ++ [])) = cs :=
    trim_append (List.forall_mem_nil _) (List.forall_mem_nil _)
      (fun c hc => h c (List.mem_of_mem_head? hc)) fun c hc => h c (List.mem_of_mem_getLast? hc)
  rwa [List.nil_append, List.append_nil] at trimmed

/-- Blanks behind a text are trimmed with those of the text. -/
theorem trim_append_of_blank (hgap : ∀ c ∈ gap, isBlank c = true) (cs : List Char) :
    trim (cs ++ gap) = trim cs := by
  obtain ⟨before, after, hcs, hbefore, hafter, hhead, hlast⟩ := exists_eq_trim cs
  have blank : ∀ c ∈ after ++ gap, isBlank c = true := fun c hc =>
    (List.mem_append.1 hc).elim (hafter c) (hgap c)
  rw [← trim_append hbefore blank hhead hlast, ← List.append_assoc (trim cs),
    ← List.append_assoc before, ← hcs]

/-- Only blanks are trimmed. -/
theorem mem_trim {c : Char} (hc : c ∈ cs) (hblank : isBlank c = false) : c ∈ trim cs := by
  obtain ⟨before, after, hcs, hbefore, hafter, -, -⟩ := exists_eq_trim cs
  rw [hcs, List.mem_append, List.mem_append] at hc
  have others : ∀ gap : List Char, (∀ c ∈ gap, isBlank c = true) → c ∉ gap := by
    intro gap hgap hc
    rw [hgap c hc] at hblank
    exact Bool.noConfusion hblank
  exact (hc.resolve_left (others _ hbefore)).resolve_right (others _ hafter)

end Text

/-! ## What stands in a text -/

/-- The characters of a lexeme are signs or parts of identifiers. -/
theorem Lexeme.mem_cases {kind : TokenKind} {lexeme : List Char} (h : Lexeme kind lexeme) :
    ∀ c ∈ lexeme, c ∈ signs ∨ isIdentifierPart c = true := by
  cases h with
  | sign h => exact List.forall_mem_singleton.2 (.inl (mem_signs_of_signKind? h))
  | shift h =>
    have sign := mem_signs_of_shift? h
    exact List.forall_mem_cons.2 ⟨.inl sign, List.forall_mem_singleton.2 (.inl sign)⟩
  | identifier hc hcs =>
    exact List.forall_mem_cons.2 ⟨.inr (isIdentifierPart_of_isIdentifierStart hc),
      fun d hd => .inr (hcs d hd)⟩
  | number hc hcs _ =>
    have digit := isIdentifierPart_of_isNumberPart (isNumberPart_of_isDigit hc)
    exact List.forall_mem_cons.2
      ⟨.inr digit, fun d hd => .inr (isIdentifierPart_of_isNumberPart (hcs d hd))⟩

/-- No character of a lexeme is a blank. -/
theorem Lexeme.isBlank_of_mem {kind : TokenKind} {lexeme : List Char} (h : Lexeme kind lexeme) :
    ∀ c ∈ lexeme, isBlank c = false := fun c hc =>
  (h.mem_cases c hc).elim isBlank_of_mem_signs isBlank_of_isIdentifierPart

namespace Spelling

variable {rest text gap : List Char} {offset : Nat} {ts : List Token}

/-- Blanks, signs and parts of identifiers are all that stands in a text without illegal tokens. -/
theorem mem_cases (h : Spelling rest offset text ts) :
    ∀ c ∈ text, isBlank c = true ∨ c ∈ signs ∨ isIdentifierPart c = true := by
  induction h with
  | nil => exact List.forall_mem_nil _
  | cons hgap hl _ _ ih =>
    intro c hc
    rw [List.mem_append, List.mem_append] at hc
    rcases hc with hc | hc | hc
    · exact .inl (hgap c hc)
    · exact .inr (hl.mem_cases c hc)
    · exact ih c hc

/-- A text ends with its last token. -/
theorem isBlank_getLast (h : Spelling rest offset text ts) :
    ∀ c ∈ text.getLast?, isBlank c = false := by
  induction h with
  | nil => exact fun c hc => nomatch hc
  | @cons _ gap lexeme text _ _ _ hl _ _ ih =>
    intro c hc
    rw [List.getLast?_append, List.getLast?_append, Option.mem_def] at hc
    cases hlast : text.getLast? with
    | some d =>
      rw [hlast, Option.some_or, Option.some_or] at hc
      exact ih c (hlast.trans hc)
    | none =>
      rw [hlast, Option.none_or, List.getLast?_eq_some_getLast hl.ne_nil, Option.some_or] at hc
      cases hc
      exact hl.isBlank_of_mem _ (List.getLast_mem hl.ne_nil)

/-- Without the blanks at its ends a text spells tokens of the same kinds and texts. -/
theorem exists_trim (h : Spelling gap offset text ts) (hgap : ∀ c ∈ gap, isBlank c = true) :
    ∃ us, Spelling [] 0 (trim (text ++ gap)) us ∧ us.map Token.content = ts.map Token.content := by
  cases ts with
  | nil =>
    cases h
    have nothing : trim ([] ++ ([] ++ gap)) = [] :=
      Text.trim_append (List.forall_mem_nil _) hgap (fun c hc => nomatch hc)
        (fun c hc => nomatch hc)
    refine ⟨[], ?_, rfl⟩
    show Spelling [] 0 (trim ([] ++ ([] ++ gap))) []
    rw [nothing]
    exact .nil
  | cons t ts =>
    obtain ⟨before, text, rfl, hbefore, hhead, h⟩ := h.exists_gap
    rw [List.append_assoc, Text.trim_append hbefore hgap hhead h.isBlank_getLast]
    rw [← Nat.zero_add (offset + byteLength before)] at h
    obtain ⟨us, hus, h⟩ := h.exists_map_raise
    refine ⟨us, h.congr_rest (fun c hc => nomatch hc), ?_⟩
    rw [hus, List.map_map]
    rfl

end Spelling

section

variable {source : String}

/-- A text that can be tokenized has tokens of the same kinds and texts without the blanks at its
    ends. -/
theorem content_trim (h : ∀ t ∈ tokenize source, t.kind ≠ .illegal) :
    (tokenize (String.ofList (trim source.toList))).map Token.content =
      (tokenize source).map Token.content := by
  obtain ⟨ts, text, gap, hsource, hgap, hspell, hts⟩ := exists_spelling_of_legal h
  obtain ⟨us, hus, hcontent⟩ := hspell.exists_trim hgap
  have trimmed : (String.ofList (trim source.toList)).toList = trim (text ++ gap) ++ [] := by
    rw [String.toList_ofList, hsource, List.append_nil]
  rw [hts, tokenize_of_spelling trimmed (List.forall_mem_nil _) hus, List.map_append,
    List.map_append, hcontent]
  rfl

/-- What is no blank, no sign and no part of an identifier does not stand in a text that can be
    tokenized. -/
theorem notMem_of_legal (h : ∀ t ∈ tokenize source, t.kind ≠ .illegal) {c : Char}
    (hblank : isBlank c = false) (hsign : c ∉ signs) (hpart : isIdentifierPart c = false) :
    c ∉ source.toList := by
  obtain ⟨ts, text, gap, hsource, hgap, hspell, -⟩ := exists_spelling_of_legal h
  intro hc
  have kinds : isBlank c = true ∨ c ∈ signs ∨ isIdentifierPart c = true := by
    rw [hsource] at hc
    exact (List.mem_append.1 hc).elim (hspell.mem_cases c) fun hc => .inl (hgap c hc)
  simp [hblank, hsign, hpart] at kinds

/-! ## Lines with parentheses -/

namespace Session.Command

/-- What has no colon leaves the session or is a statement. -/
theorem ofTrimmed_of_notMem {cs : List Char} (hne : cs ≠ []) (hcolon : ':' ∉ cs) :
    ofTrimmed cs =
      if isWord "exit" cs || isWord "quit" cs then .exit else .eval (String.ofList cs) := by
  obtain ⟨c, cs, rfl⟩ := List.exists_cons_of_ne_nil hne
  have hhead : ∀ ds, c :: cs ≠ ':' :: ds := fun ds heq =>
    hcolon ((List.cons.inj heq).1 ▸ List.mem_cons_self)
  rw [ofTrimmed.eq_def, if_neg (by simp)]
  split
  · rfl
  · split
    case h_5 => rfl
    all_goals exact absurd ‹_› (hhead _)

/-- What has a parenthesis and no colon is a statement. -/
theorem ofTrimmed_eq_eval {cs : List Char} (hparen : '(' ∈ cs) (hcolon : ':' ∉ cs) :
    ofTrimmed cs = .eval (String.ofList cs) := by
  have noWord : ∀ word : String, '(' ∉ word.toList → isWord word cs = false := by
    intro word hword
    rw [isWord, beq_eq_false_iff_ne]
    intro heq
    exact hword (heq ▸ List.mem_map_of_mem (f := Char.toLower) hparen)
  rw [ofTrimmed_of_notMem (List.ne_nil_of_mem hparen) hcolon, noWord "exit" (by decide),
    noWord "quit" (by decide)]
  rfl

/-- A line that can be tokenized and has a parenthesis is a statement. -/
theorem parse_eq_eval (h : ∀ t ∈ tokenize source, t.kind ≠ .illegal)
    (hparen : '(' ∈ source.toList) :
    Command.parse source = .eval (String.ofList (trim source.toList)) := by
  refine ofTrimmed_eq_eval (Text.mem_trim hparen (by decide)) fun hcolon => ?_
  obtain ⟨before, after, hsource, -⟩ := Text.exists_eq_trim source.toList
  have hmem : ':' ∈ source.toList := by
    rw [hsource]
    exact List.mem_append_right _ (List.mem_append_left _ hcolon)
  exact notMem_of_legal h (by decide) (by decide) (by decide +kernel) hmem

end Session.Command

end

end Bitwise
