import Bitwise.Proofs.Acceptance

/-!
# Errors are found as early as possible

Whatever a parser has read without a fault can still become a statement: from every state there is
a way to the end of the text, its completion (`Parser.exists_runTokens_completion`). A parser that
gives up has thus a reason to, and it has none before.

On the other hand, an error depends on nothing but the text up to one character after the place
where it is reported. That character can matter, since it may go on the token that is at fault.
-/

namespace Bitwise

open Text (byteLength)
open Unicode (isBlank)

/-! ## Completions -/

/-- An operand, if a statement waits for one. -/
def Progress.completion : Progress → List Char
  | .name _ | .chain _ _ => []
  | _ => ['0']

namespace Parser

/-- A text that makes what has been read a statement: an operand if one has to come, and then a
    parenthesis for each group that is open. -/
def completion (p : Parser) : List Char :=
  p.progress.completion ++ List.replicate p.groups.length ')'

/-- The first token of a text is read, and then the others. -/
theorem runTokens_tokensAt {p q : Parser} {kind : TokenKind} {lexeme rest : List Char}
    {offset : Nat} (hl : Lexeme kind lexeme) (he : kind.EndsBefore rest)
    (hstep : Step p (.ofLexeme kind offset lexeme) q) :
    p.runTokens (tokensAt offset (lexeme ++ rest)) =
      q.runTokens (tokensAt (offset + byteLength lexeme) rest) := by
  have spelled : Spelling rest offset lexeme [.ofLexeme kind offset lexeme] := .singleton hl he
  rw [spelled.tokensAt_append]
  exact runTokens_append_of_ok (feedAll_cons_of_step hstep []) _

/-- A chain may end after every operand. -/
theorem exists_settle_fill (pending : Pending) (operand : Node) :
    ∃ target tree, (pending.fill operand).settle = .chain target tree := by
  obtain ⟨target, _ | ⟨left, op⟩⟩ := pending
  · exact ⟨target, operand, rfl⟩
  · exact ⟨target, .combine op left operand, rfl⟩

/-- All groups can be closed after a chain. -/
theorem exists_runTokens_close (groups : List Group) {progress : Progress} {target : Option Target}
    {tree : Node} (hp : progress.settle = .chain target tree) (offset : Nat) :
    ∃ node, runTokens ⟨groups, progress⟩
      (tokensAt offset (List.replicate groups.length ')')) = .ok node := by
  induction groups generalizing progress target tree offset with
  | nil =>
    rw [List.length_nil, List.replicate_zero, tokensAt_nil]
    exact ⟨_, finish_eq_ok_iff.2 ⟨rfl, _, _, hp, rfl⟩⟩
  | cons group groups ih =>
    -- one more parenthesis makes the group the operand of a chain
    have step := Step.closeGroup (p := ⟨group :: groups, progress⟩)
      (t := .ofLexeme .closeParen offset [')']) hp rfl rfl
    have ends : TokenKind.closeParen.EndsBefore (List.replicate groups.length ')') :=
      fun _ _ => rfl
    have closed := runTokens_tokensAt (.sign rfl) ends step
    rw [List.length_cons, List.replicate_succ]
    obtain ⟨_, _, hfill⟩ := exists_settle_fill group.outer
      ((statementTree target tree).withMark (group.paren.cover ⟨offset, offset + 1⟩))
    obtain ⟨node, hnode⟩ := ih hfill (offset + byteLength [')'])
    exact ⟨node, closed.trans hnode⟩

/-- All groups can be closed after an operand that has to come. -/
theorem exists_runTokens_zero {p : Parser} {pending : Pending} {offset : Nat} {operand : Node}
    (hstep : Step p (.ofLexeme .number offset ['0']) ⟨p.groups, pending.fill operand⟩) :
    ∃ node, p.runTokens (tokensAt offset (['0'] ++ List.replicate p.groups.length ')')) =
      .ok node := by
  have ends : TokenKind.number.EndsBefore (List.replicate p.groups.length ')') := by
    intro c hc
    rw [List.eq_of_mem_replicate (List.mem_of_mem_head? hc)]
    decide +kernel
  have zero : Lexeme .number ['0'] := .number rfl (List.forall_mem_nil _) rfl
  obtain ⟨_, _, hfill⟩ := exists_settle_fill pending operand
  obtain ⟨node, hnode⟩ := exists_runTokens_close p.groups hfill (offset + byteLength ['0'])
  exact ⟨node, (runTokens_tokensAt zero ends hstep).trans hnode⟩

/-- Every state has a way to the end of the text. -/
theorem exists_runTokens_completion (p : Parser) (offset : Nat) :
    ∃ node, p.runTokens (tokensAt offset p.completion) = .ok node := by
  obtain ⟨groups, progress⟩ := p
  have value : Numeral.toInt64? (Token.ofLexeme .number offset ['0']).text.toList = some 0 := by
    rw [Token.ofLexeme, String.toList_ofList]
    rfl
  cases progress with
  | start => exact exists_runTokens_zero (.literal rfl rfl value)
  | name held => exact exists_runTokens_close groups rfl offset
  | operand pending => exact exists_runTokens_zero (.literal rfl rfl value)
  | number pending tilde => exact exists_runTokens_zero (.complement rfl value)
  | chain target tree => exact exists_runTokens_close groups rfl offset

end Parser

/-! ## Parts of texts -/

section Parts

variable {source : String} {text rest gap : List Char} {ts : List Token} {p : Parser}
  {e : ParseError}

/-- A text that has been read without a fault, and some blanks, are the beginning of a statement. -/
theorem exists_parse_append (h : Spelling rest 0 text ts) (hgap : ∀ c ∈ gap, isBlank c = true)
    (hfeed : Parser.initial.feedAll ts = .ok p) :
    ∃ u node, parse (String.ofList (text ++ gap) ++ u) = .ok node := by
  -- a blank keeps the completion apart from the last token
  have blank : ∀ c ∈ gap ++ [' '], isBlank c = true := by
    intro c hc
    rcases List.mem_append.1 hc with hc | hc
    · exact hgap c hc
    · rw [List.mem_singleton.1 hc]
      rfl
  have moved : Spelling (gap ++ [' '] ++ p.completion) 0 text ts := by
    refine h.congr_rest fun c hc =>
      .inr (TokenKind.goesOn_eq_false (isIdentifierPart_of_isBlank (blank c ?_)))
    rw [List.head?_append_of_ne_nil _ (List.concat_ne_nil _ _)] at hc
    exact List.mem_of_mem_head? hc
  obtain ⟨node, hnode⟩ := p.exists_runTokens_completion
    (0 + byteLength text + byteLength (gap ++ [' ']))
  refine ⟨" " ++ String.ofList p.completion, node, ?_⟩
  have parts : (String.ofList (text ++ gap) ++ (" " ++ String.ofList p.completion)).toList =
      text ++ (gap ++ [' '] ++ p.completion) := by
    simp
  rw [parse_eq_runTokens, parts, moved.tokensAt_append, tokensAt_blank_append blank,
    Parser.runTokens_append_of_ok hfeed, hnode]

/-- The token at which a parser gives up, with the blanks before it and what follows it. -/
theorem exists_scans_of_error (h : parse source = .error e) :
    (∃ text gap piece after ts t p, source.toList = text ++ (gap ++ (piece ++ after)) ∧
      Spelling (gap ++ (piece ++ after)) 0 text ts ∧ (∀ c ∈ gap, isBlank c = true) ∧
      (∀ c ∈ piece.head?, isBlank c = false) ∧
      Token.Scans (0 + byteLength text + byteLength gap) piece after t ∧
      Parser.initial.feedAll ts = .ok p ∧ p.feed t = .error e) ∨
    ∃ text gap ts p, source.toList = text ++ gap ∧ Spelling gap 0 text ts ∧
      (∀ c ∈ gap, isBlank c = true) ∧ Parser.initial.feedAll ts = .ok p ∧ p.finish = .error e := by
  rw [parse_eq_runTokens] at h
  rcases Parser.exists_of_runTokens h with ⟨ts, t, us, p, e', hts, hp, ht, he, hresult⟩ |
    ⟨ts, us, p, hts, hus, hp, hfinish⟩
  · cases hresult
    obtain ⟨text, rest, hsource, hspell, hrest⟩ :=
      exists_spelling hts (Parser.isLast_eq_false_of_feedAll hp)
    rcases blank_or_exists_scans (0 + byteLength text) rest with
      hblank | ⟨gap, piece, after, t', rfl, hgap, hhead, hs⟩
    · rw [tokensAt_of_blank hblank] at hrest
      cases hrest
      exact absurd rfl ht
    · rw [tokensAt_blank_append hgap, hs.tokensAt_append hhead] at hrest
      cases hrest
      exact .inl ⟨text, gap, piece, after, ts, t, p, hsource, hspell, hgap, hhead, hs, hp, he⟩
  · obtain ⟨text, gap, hsource, hgap, hspell, -⟩ :=
      exists_spelling_of_atEnd hts (Parser.isLast_eq_false_of_feedAll hp) hus
    exact .inr ⟨text, gap, ts, p, hsource, hspell, hgap, hp, hfinish⟩

/-- An error at a token comes up as soon as one more character is known, whatever follows. -/
theorem parse_eq_error_append {piece after : List Char} {c : Char} {t : Token}
    (h : Spelling (gap ++ (piece ++ (c :: after))) 0 text ts) (hgap : ∀ c ∈ gap, isBlank c = true)
    (hhead : ∀ c ∈ piece.head?, isBlank c = false)
    (hs : Token.Scans (0 + byteLength text + byteLength gap) piece (c :: after) t)
    (hfeed : Parser.initial.feedAll ts = .ok p) (he : p.feed t = .error e) (u : String) :
    parse (String.ofList (text ++ gap ++ piece ++ [c]) ++ u) = .error e := by
  have same : (gap ++ (piece ++ (c :: u.toList))).head? =
      (gap ++ (piece ++ (c :: after))).head? := by
    simp only [List.head?_append, List.head?_cons]
  have moved : Spelling (gap ++ (piece ++ (c :: u.toList))) 0 text ts :=
    h.congr_rest fun d hd => .inl (same ▸ hd)
  have parts : (String.ofList (text ++ gap ++ piece ++ [c]) ++ u).toList =
      text ++ (gap ++ (piece ++ (c :: u.toList))) := by
    simp
  -- the token does not change either, since its extent is known from the character after it
  have again : Token.Scans (0 + byteLength text + byteLength gap) piece (c :: u.toList) t :=
    hs.congr_rest
  rw [parse_eq_runTokens, parts, moved.tokensAt_append, tokensAt_blank_append hgap,
    again.tokensAt_append hhead, Parser.runTokens_append_of_ok hfeed, Parser.runTokens,
    if_neg hs.kind_ne_endOfInput, he]

end Parts

/-- An error is reported at the earliest place of a text. -/
structure ParseError.Earliest (e : ParseError) (source : String) : Prop where
  /-- The character after the span of an error is the last that matters for it, and all that stands
      before the span can still become a statement. -/
  at_span : ∀ span ∈ e.span?, ∃ before piece after,
    Text.Cut source.toList span before piece after ∧
    (∀ c rest, after = c :: rest → ∀ u : String,
      parse (String.ofList (before ++ piece ++ [c]) ++ u) = .error e) ∧
    ∃ u node, parse (String.ofList before ++ u) = .ok node
  /-- A text that ends too early can still become a statement. -/
  at_end : ∀ expected, e = .unexpectedEnd expected → ∃ u node, parse (source ++ u) = .ok node

/-- All errors are reported at the earliest place. -/
theorem earliest_of_parse_eq_error {source : String} {e : ParseError}
    (h : parse source = .error e) : e.Earliest source := by
  rcases exists_scans_of_error h with
    ⟨text, gap, piece, after, ts, t, p, hsource, hspell, hgap, hhead, hs, hp, he⟩ |
    ⟨text, gap, ts, p, hsource, hspell, hgap, hp, hfinish⟩
  · have hspan := Parser.span?_of_feed_eq_error he
    rw [hs.span_eq] at hspan
    -- the blanks before the token at fault belong to what can be completed
    constructor
    · intro span hspan'
      rw [hspan, Option.mem_some_iff] at hspan'
      subst hspan'
      refine ⟨text ++ gap, piece, after, ⟨?_, ?_, ?_⟩, ?_, exists_parse_append hspell hgap hp⟩
      · rw [hsource, List.append_assoc, List.append_assoc]
      · rw [Text.byteLength_append, Nat.zero_add]
      · rw [Text.byteLength_append, Nat.zero_add]
      · rintro c rest rfl u
        exact parse_eq_error_append hspell hgap hhead hs hp he u
    · rintro expected rfl
      cases hspan
  · have hspan := Parser.span?_of_finish_eq_error hfinish
    constructor
    · intro span hspan'
      rw [hspan] at hspan'
      cases hspan'
    · rintro expected rfl
      have whole := exists_parse_append hspell hgap hp
      rwa [← hsource, String.ofList_toList] at whole

theorem earliest_malformed_number :
    parse "(x = 0b2) & 1" = .error (.lexical "malformed binary number" ⟨5, 8⟩) ∧
      (ParseError.lexical "malformed binary number" ⟨5, 8⟩).Earliest "(x = 0b2) & 1" :=
  have fails : parse "(x = 0b2) & 1" = .error (.lexical "malformed binary number" ⟨5, 8⟩) := by
    decide +kernel
  ⟨fails, earliest_of_parse_eq_error fails⟩

end Bitwise
