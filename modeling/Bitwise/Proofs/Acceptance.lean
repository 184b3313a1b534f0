import Bitwise.Proofs.Derivation

/-!
# What is accepted

The texts that can be parsed are those whose tokens the grammar derives, with no parenthesis too
deep and no number out of range, and what is made of them is the tree of the derivation
(`parse_eq_ok_iff_derives`). The same is said of texts as they are spelled
(`parse_eq_ok_iff_spelling`), which is how other facts about parsing are proved.
-/

namespace Bitwise

open Grammar (Statement Chain Operand)
open Text (byteLength)
open Unicode (isBlank)

/-- Tokens that are followed by the end of the text are all of it, but for blanks. -/
theorem exists_spelling_of_atEnd {offset : Nat} {text : List Char} {ts us : List Token}
    (h : tokensAt offset text = ts ++ us) (hts : ∀ t ∈ ts, t.kind.isLast = false)
    (hus : ∀ t ∈ us.head?, t.kind = .endOfInput) :
    ∃ text₁ gap, text = text₁ ++ gap ∧ (∀ c ∈ gap, isBlank c = true) ∧
      Spelling gap offset text₁ ts ∧ us = [.atEnd (offset + byteLength text)] := by
  obtain ⟨text₁, rest, rfl, hspell, hrest⟩ := exists_spelling h hts
  rw [Text.add_byteLength_append]
  rcases blank_or_exists_scans (offset + byteLength text₁) rest with
    hblank | ⟨gap, piece, rest', t, rfl, hgap, hhead, hs⟩
  · rw [tokensAt_of_blank hblank] at hrest
    exact ⟨text₁, rest, rfl, hblank, hspell, hrest.symm⟩
  · rw [tokensAt_blank_append hgap, hs.tokensAt_append hhead] at hrest
    rw [← hrest] at hus
    exact absurd (hus t rfl) hs.kind_ne_endOfInput

namespace Grammar

/-- The limits that a parser puts on a statement, besides the grammar. -/
structure Statement.Admissible (s : Statement) : Prop where
  /-- No more groups are open at any token than may be. -/
  nested : NestedWithin maxNesting s.tokens
  /-- All numbers can be held by a signed 64-bit integer. -/
  inRange : InRange s.tokens

/-- A statement derives a text: the text holds nothing illegal, and its tokens before the end are
    those of the statement, within the limits. -/
structure Statement.Derives (s : Statement) (source : String) : Prop where
  legal : ∀ t ∈ tokenize source, t.kind ≠ .illegal
  tokens_eq : s.tokens = (tokenize source).takeWhile fun t => t.kind ≠ .endOfInput
  admissible : s.Admissible

variable {s : Statement} {ts : List Token}

/-! ## Statements are read -/

/-- A statement is read from the start of a text, or to the first parenthesis too deep. -/
theorem Statement.feedAll_initial (h : InRange s.tokens) :
    Parser.Ends (Parser.initial.feedAll s.tokens) (tooDeep? maxNesting s.tokens)
      ⟨[], .chain s.target s.value.tree⟩ := by
  have room : ([] : List Group).length + maxNesting = maxNesting := Nat.zero_add maxNesting
  exact s.feedAll_tokens room h

theorem Statement.Admissible.exists_feedAll (h : s.Admissible) :
    ∃ q, Parser.initial.feedAll s.tokens = .ok q ∧ q.finish = .ok s.tree := by
  have ends := s.feedAll_initial h.inRange
  rw [tooDeep?_eq_none_iff.2 h.nested] at ends
  obtain ⟨q, hq, hsettle⟩ := ends
  obtain ⟨hgroups, hprogress⟩ := Parser.settle_eq_iff.1 hsettle
  exact ⟨q, hq, Parser.finish_eq_ok_iff.2 ⟨hgroups, _, _, hprogress, s.statementTree_eq⟩⟩

theorem Statement.Admissible.runTokens (h : s.Admissible) (offset : Nat) :
    Parser.initial.runTokens (s.tokens ++ [.atEnd offset]) = .ok s.tree := by
  obtain ⟨q, hq, hfinish⟩ := h.exists_feedAll
  rw [Parser.runTokens_append_of_ok hq]
  exact hfinish

theorem Statement.runTokens_tooDeep {paren : Span} (h : InRange s.tokens)
    (hlegal : ∀ t ∈ s.tokens, t.kind.isLast = false)
    (hdeep : tooDeep? maxNesting s.tokens = some paren) (us : List Token) :
    Parser.initial.runTokens (s.tokens ++ us) = .error (.tooDeep paren) := by
  have ends := s.feedAll_initial h
  rw [hdeep] at ends
  exact Parser.runTokens_append_of_error ends hlegal us

end Grammar

/-! ## Spelled statements -/

variable {source : String} {text rest : List Char} {node : Node} {s : Statement}

theorem tokensAt_of_spelling {gap : List Char} {offset : Nat} {ts : List Token}
    (h : Spelling gap offset text ts) (hgap : ∀ c ∈ gap, isBlank c = true) :
    tokensAt offset (text ++ gap) = ts ++ [.atEnd (offset + byteLength (text ++ gap))] := by
  rw [h.tokensAt_append, tokensAt_of_blank hgap, Text.add_byteLength_append]

/-- A text can be parsed exactly if it spells an admissible statement, up to blanks at the end. -/
theorem parse_eq_ok_iff_spelling :
    parse source = .ok node ↔ ∃ (s : Statement) (text gap : List Char),
      source.toList = text ++ gap ∧ (∀ c ∈ gap, isBlank c = true) ∧ Spelling gap 0 text s.tokens ∧
      s.Admissible ∧ s.tree = node := by
  rw [parse_eq_runTokens]
  constructor
  · intro h
    rcases Parser.exists_of_runTokens h with ⟨_, _, _, _, _, _, _, _, _, hresult⟩ |
      ⟨ts, us, q, hts, hus, hq, hfinish⟩
    · simp at hresult
    · obtain ⟨text, gap, hsource, hgap, hspell, -⟩ :=
        exists_spelling_of_atEnd hts (Parser.isLast_eq_false_of_feedAll hq) hus
      -- the invariants of the run give the statement and the limits
      obtain ⟨s, rfl, hnode⟩ :=
        (Parser.read_of_feedAll hspell.plain hq).exists_statement hfinish
      have admissible : s.Admissible :=
        ⟨(Parser.nested_of_feedAll hq).1, Parser.inRange_of_feedAll hq⟩
      exact ⟨s, text, gap, hsource, hgap, hspell, admissible, hnode⟩
  · rintro ⟨s, text, gap, hsource, hgap, hspell, hs, rfl⟩
    rw [hsource, tokensAt_of_spelling hspell hgap]
    exact hs.runTokens _

/-- A statement with a parenthesis too deep is given up there. -/
theorem parse_tooDeep {paren : Span} (hsource : source.toList = text ++ rest)
    (h : Spelling rest 0 text s.tokens) (hrange : InRange s.tokens)
    (hdeep : tooDeep? maxNesting s.tokens = some paren) :
    parse source = .error (.tooDeep paren) := by
  rw [parse_eq_runTokens, hsource, h.tokensAt_append]
  exact s.runTokens_tooDeep hrange h.isLast_eq_false hdeep _

/-- The tokens before the end of a text are those before its last, if that is the end. -/
theorem takeWhile_ne_endOfInput {ts : List Token} {last : Token}
    (hts : ∀ t ∈ ts, t.kind.isLast = false) (hlast : last.kind = .endOfInput) :
    (ts ++ [last]).takeWhile (fun t => t.kind ≠ .endOfInput) = ts := by
  refine takeWhile_append_of_head (fun t ht => ?_) fun t ht => ?_
  · exact decide_eq_true (Parser.kind_ne_endOfInput_of_isLast (hts t ht))
  · obtain rfl := Option.mem_some_iff.1 ht
    exact decide_eq_false (not_not_intro hlast)

/-- A text without anything illegal is a spelling of its tokens before the end. -/
theorem exists_spelling_of_legal (h : ∀ t ∈ tokenize source, t.kind ≠ .illegal) :
    ∃ ts text gap, source.toList = text ++ gap ∧ (∀ c ∈ gap, isBlank c = true) ∧
      Spelling gap 0 text ts ∧
      tokenize source = ts ++ [.atEnd (0 + byteLength (text ++ gap))] := by
  obtain ⟨ts, last, hts, hlegal, hlast⟩ := exists_tokensAt_eq_append 0 source.toList
  have whole : tokenize source = ts ++ [last] := hts
  have atEnd : last.kind = .endOfInput := by
    refine (TokenKind.isLast_eq_true_iff.1 hlast).resolve_left (h last ?_)
    rw [whole]
    exact List.mem_append_right _ List.mem_cons_self
  have first : ∀ t ∈ [last].head?, t.kind = .endOfInput := by
    intro t ht
    obtain rfl := Option.mem_some_iff.1 ht
    exact atEnd
  obtain ⟨text, gap, hsource, hgap, hspell, hrest⟩ := exists_spelling_of_atEnd hts hlegal first
  rw [hrest, hsource] at whole
  exact ⟨ts, text, gap, hsource, hgap, hspell, whole⟩

/-- A text that a statement derives is a spelling of the statement. -/
theorem Grammar.Statement.Derives.exists_spelling (h : s.Derives source) :
    ∃ text gap, source.toList = text ++ gap ∧ (∀ c ∈ gap, isBlank c = true) ∧
      Spelling gap 0 text s.tokens := by
  obtain ⟨ts, text, gap, hsource, hgap, hspell, hts⟩ := exists_spelling_of_legal h.legal
  have tokens := h.tokens_eq
  rw [hts, takeWhile_ne_endOfInput hspell.isLast_eq_false rfl] at tokens
  exact ⟨text, gap, hsource, hgap, tokens ▸ hspell⟩

/-- The tokens of a text that spells some tokens, but for blanks at the end. -/
theorem tokenize_of_spelling {gap : List Char} {ts : List Token}
    (hsource : source.toList = text ++ gap) (hgap : ∀ c ∈ gap, isBlank c = true)
    (h : Spelling gap 0 text ts) :
    tokenize source = ts ++ [.atEnd (0 + byteLength (text ++ gap))] := by
  rw [← tokensAt_of_spelling h hgap, ← hsource]
  rfl

/-- A statement derives the texts that spell it, within the limits. -/
theorem derives_of_spelling {gap : List Char} (hs : s.Admissible)
    (hsource : source.toList = text ++ gap) (hgap : ∀ c ∈ gap, isBlank c = true)
    (hspell : Spelling gap 0 text s.tokens) : s.Derives source := by
  have hts := tokenize_of_spelling hsource hgap hspell
  refine ⟨fun t ht hk => ?_, ?_, hs⟩
  · rw [hts, List.mem_append, List.mem_singleton] at ht
    rcases ht with ht | rfl
    · have legal := hspell.isLast_eq_false t ht
      rw [hk] at legal
      exact Bool.noConfusion legal
    · exact TokenKind.noConfusion hk
  · rw [hts, takeWhile_ne_endOfInput hspell.isLast_eq_false rfl]

/-- A text that a statement derives is parsed as the tree of the statement. -/
theorem Grammar.Statement.Derives.parse (h : s.Derives source) :
    Bitwise.parse source = .ok s.tree := by
  obtain ⟨text, gap, hsource, hgap, hspell⟩ := h.exists_spelling
  exact parse_eq_ok_iff_spelling.2 ⟨s, text, gap, hsource, hgap, hspell, h.admissible, rfl⟩

/-- A text that can be parsed is derived by a statement. -/
theorem exists_derives_of_parse (h : parse source = .ok node) :
    ∃ s : Statement, s.Derives source ∧ s.tree = node := by
  obtain ⟨s, text, gap, hsource, hgap, hspell, hs, hnode⟩ := parse_eq_ok_iff_spelling.1 h
  exact ⟨s, derives_of_spelling hs hsource hgap hspell, hnode⟩

/-- A text that can be parsed can be tokenized. -/
theorem legal_of_parse (h : parse source = .ok node) :
    ∀ t ∈ tokenize source, t.kind ≠ .illegal := by
  obtain ⟨s, derives, -⟩ := exists_derives_of_parse h
  exact derives.legal

/-- The parser accepts exactly the texts that a statement derives, and it builds the tree of the
    statement. No other statement derives the text, and its tree means what it means. Chains, in
    the statement and inside it, are sequences that are folded from the left. -/
theorem parse_eq_ok_iff_derives :
    (∀ (source : String) (node : Node), parse source = .ok node ↔ ∃ s : Statement,
      s.Derives source ∧ (∀ s' : Statement, s'.Derives source → s' = s) ∧ s.tree = node ∧
        node.erase = s.expr) ∧
    ∀ c : Chain, ∃ (first : Operand) (links : List Grammar.Link),
      c.tokens = first.tokens ++ links.flatMap Grammar.Link.tokens ∧
        c.expr = links.foldl (fun e l => .binary l.op e l.operand.expr ()) first.expr := by
  refine ⟨fun source node => ?_, Chain.exists_links⟩
  rw [parse_eq_ok_iff_spelling]
  constructor
  · rintro ⟨s, text, gap, hsource, hgap, hspell, hs, rfl⟩
    have derives : s.Derives source := derives_of_spelling hs hsource hgap hspell
    refine ⟨s, derives, fun s' h => ?_, rfl, s.erase_tree⟩
    exact Statement.tokens_injective (h.tokens_eq.trans derives.tokens_eq.symm)
  · rintro ⟨s, derives, -, rfl, -⟩
    obtain ⟨text, gap, hsource, hgap, hspell⟩ := derives.exists_spelling
    exact ⟨s, text, gap, hsource, hgap, hspell, derives.admissible, rfl⟩

end Bitwise
