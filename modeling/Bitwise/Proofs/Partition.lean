import Bitwise.Proofs.Spelling

/-!
# Texts are divided into tokens

Scanning takes a text apart without a loss: blanks, a piece for a token, blanks again, and so on up
to the last token, which is the end of the text or an illegal piece of it. `Divided` is this
division, step by step, and all that is said here about the tokens of a text is an induction on it.

The result is `tokenize_partition`. The tokens stand at pieces of the text, in order and without
overlap, and each is as long as it can be. Nothing but blanks stands between them, so that they and
the blanks make up the text again if nothing is illegal. And whoever asks the scanner for a token
again and again gets these tokens and then nothing any more.
-/

namespace Bitwise

open Text (byteLength)
open Unicode (isBlank)

/-- A text that stands at an offset is divided into tokens. -/
inductive Divided : Nat → List Char → List Token → Prop
  | atEnd {offset : Nat} {gap : List Char} : (∀ c ∈ gap, isBlank c = true) →
    Divided offset gap [.atEnd (offset + byteLength gap)]
  | illegal {offset : Nat} {gap piece rest : List Char} {t : Token} :
    (∀ c ∈ gap, isBlank c = true) → (∀ c ∈ piece.head?, isBlank c = false) →
      Token.Scans (offset + byteLength gap) piece rest t → t.kind = .illegal →
      Divided offset (gap ++ (piece ++ rest)) [t]
  | legal {offset : Nat} {gap piece rest : List Char} {t : Token} {ts : List Token} :
    (∀ c ∈ gap, isBlank c = true) → (∀ c ∈ piece.head?, isBlank c = false) →
      Token.Scans (offset + byteLength gap) piece rest t → t.kind.isLast = false →
      Divided (offset + byteLength gap + byteLength piece) rest ts →
      Divided offset (gap ++ (piece ++ rest)) (t :: ts)

/-- Scanning divides every text. -/
theorem divided_tokensAt (offset : Nat) (text : List Char) :
    Divided offset text (tokensAt offset text) := by
  rcases blank_or_exists_scans offset text with hblank | ⟨gap, piece, rest, t, rfl, hgap, hhead, hs⟩
  · rw [tokensAt_of_blank hblank]
    exact .atEnd hblank
  · rw [tokensAt_blank_append hgap, hs.tokensAt_append hhead]
    cases hk : t.kind.isLast with
    | true =>
      refine .illegal hgap hhead hs ?_
      exact (TokenKind.isLast_eq_true_iff.1 hk).resolve_right hs.kind_ne_endOfInput
    | false =>
      have shorter : rest.length < (gap ++ (piece ++ rest)).length := by
        have := List.length_pos_of_ne_nil hs.ne_nil
        simp only [List.length_append]
        omega
      exact .legal hgap hhead hs hk (divided_tokensAt _ rest)
termination_by text.length

/-! ## Pieces -/

/-- A piece of text that is no token, before the text that follows it. -/
inductive Misfit : List Char → List Char → Prop
  /-- All that stands together with the first digit of a number, but does not make a number. -/
  | number {c : Char} {cs rest : List Char} : c.isDigit = true →
    (∀ d ∈ cs, isNumberPart d = true) → (∀ d ∈ rest.head?, isNumberPart d = false) →
      Numeral.malformation? (c :: cs) ≠ none → Misfit (c :: cs) rest
  /-- The sign of a shift that is written once, with the character after it. -/
  | sign {c d : Char} {rest : List Char} : c = '<' ∨ c = '>' → d ≠ c → Misfit [c, d] rest
  /-- The sign of a shift that is written once at the end of the text. -/
  | signAtEnd {c : Char} : c = '<' ∨ c = '>' → Misfit [c] []
  /-- One character with which no token begins. -/
  | character {c : Char} {rest : List Char} : isBlank c = false → c ≠ '<' → c ≠ '>' →
    signKind? c = none → isIdentifierStart c = false → c.isDigit = false → Misfit [c] rest

theorem eq_or_eq_of_shift? {c : Char} {op : BinaryOperator} (h : shift? c = some op) :
    c = '<' ∨ c = '>' := by
  rw [shift?.eq_def] at h
  split at h
  · exact .inl rfl
  · exact .inr rfl
  · cases h

namespace Token

/-- What a token tells about the piece of text at its span, before the rest of the text. -/
structure Describes (t : Token) (piece after : List Char) : Prop where
  /-- The end of the text stands there, and spans nothing. -/
  atEnd : t.kind = .endOfInput → piece = [] ∧ after = []
  /-- All other tokens span something. -/
  ne_nil : t.kind ≠ .endOfInput → piece ≠ []
  /-- The text of a token is what it spans, unless that is illegal. -/
  text_eq : t.kind ≠ .illegal → t.text.toList = piece
  /-- Before the last token there are lexemes only. -/
  lexeme : t.kind.isLast = false → Lexeme t.kind piece
  /-- No character goes on an identifier or a number. -/
  maximal : t.kind.EndsBefore after
  /-- An illegal token spans just what is wrong. -/
  misfit : t.kind = .illegal → Misfit piece after

theorem describes_atEnd (offset : Nat) : (atEnd offset).Describes [] [] where
  atEnd _ := ⟨rfl, rfl⟩
  ne_nil h := absurd rfl h
  text_eq _ := rfl
  lexeme h := absurd h Bool.noConfusion
  maximal _ _ := rfl
  misfit h := TokenKind.noConfusion h

variable {offset : Nat} {piece rest : List Char} {t : Token}

/-- An illegal token has been read from a piece that is no token. -/
theorem Scans.misfit (h : Scans offset piece rest t) (ht : t.kind = .illegal)
    (hhead : ∀ c ∈ piece.head?, isBlank c = false) : Misfit piece rest := by
  cases h with
  | @lexeme kind _ _ hl _ =>
    obtain rfl : kind = .illegal := ht
    exact absurd hl.isLast_eq_false Bool.noConfusion
  | malformed hc hcs hm he =>
    exact .number hc hcs he (by rw [hm]; exact Option.some_ne_none _)
  | unpaired hop hd => exact .sign (eq_or_eq_of_shift? hop) hd
  | unexpectedEnd hop => exact .signAtEnd (eq_or_eq_of_shift? hop)
  | @unexpected c _ hk hop hi hd =>
    refine .character (hhead c rfl) ?_ ?_ hk hi hd
    · rintro rfl
      cases hop
    · rintro rfl
      cases hop

theorem Scans.describes (h : Scans offset piece rest t)
    (hhead : ∀ c ∈ piece.head?, isBlank c = false) : t.Describes piece rest where
  atEnd ht := absurd ht h.kind_ne_endOfInput
  ne_nil _ := h.ne_nil
  text_eq ht := by
    cases h with
    | lexeme _ _ => exact String.toList_ofList
    | _ => exact absurd rfl ht
  lexeme ht := (h.of_isLast_eq_false ht).1
  maximal := by
    cases h with
    | lexeme _ he => exact he
    | _ => exact fun _ _ => rfl
  misfit ht := h.misfit ht hhead

end Token

/-! ## The tokens of a divided text -/

/-- A character of two texts, one after the other, stands in one of them. -/
theorem Text.exists_of_append_eq {cs ds before after : List Char} {c : Char}
    (h : cs ++ ds = before ++ c :: after) :
    (∃ rest, cs = before ++ c :: rest) ∨
      ∃ between, before = cs ++ between ∧ ds = between ++ c :: after := by
  rcases List.append_eq_append_iff.1 h with ⟨between, rfl, hds⟩ | ⟨rest, rfl, hrest⟩
  · exact .inr ⟨between, rfl, hds⟩
  · cases rest with
    | nil => exact .inr ⟨[], by simp, hrest.symm⟩
    | cons d rest =>
      obtain ⟨rfl, -⟩ := List.cons.inj hrest
      exact .inl ⟨rest, rfl⟩

theorem Text.byteLength_lt_append_cons (before after : List Char) (c : Char) :
    byteLength before < byteLength (before ++ c :: after) := by
  have := c.utf8Size_pos
  rw [byteLength_append, byteLength_cons]
  omega

/-- A text from an offset on, made of the texts of tokens with blanks before each of them. -/
inductive Joined : Nat → List Token → List Char → Prop
  | nil {offset : Nat} : Joined offset [] []
  | cons {offset : Nat} {gap text : List Char} {t : Token} {ts : List Token} :
    (∀ c ∈ gap, isBlank c = true) → t.span.start = offset + byteLength gap →
      Joined t.span.stop ts text → Joined offset (t :: ts) (gap ++ (t.text.toList ++ text))

namespace Divided

variable {offset : Nat} {text before after : List Char} {t : Token} {ts : List Token} {c : Char}

/-- A token is the end of the text, or it has been read from a piece of it. -/
theorem exists_scans_of_mem (h : Divided offset text ts) (ht : t ∈ ts) :
    t = .atEnd (offset + byteLength text) ∨ ∃ before piece after,
      text = before ++ (piece ++ after) ∧ (∀ c ∈ piece.head?, isBlank c = false) ∧
        Token.Scans (offset + byteLength before) piece after t := by
  induction h with
  | atEnd _ => exact .inl (List.mem_singleton.1 ht)
  | illegal _ hhead hs _ =>
    obtain rfl := List.mem_singleton.1 ht
    exact .inr ⟨_, _, _, rfl, hhead, hs⟩
  | @legal offset gap piece rest _ _ _ hhead hs _ _ ih =>
    rcases List.mem_cons.1 ht with rfl | ht
    · exact .inr ⟨_, _, _, rfl, hhead, hs⟩
    · rcases ih ht with rfl | ⟨before, piece', after, rfl, hhead', hs'⟩
      · left
        rw [Text.add_byteLength_append, Text.add_byteLength_append]
      · refine .inr ⟨gap ++ piece ++ before, piece', after, by simp, hhead', ?_⟩
        rwa [Text.add_byteLength_append, Text.add_byteLength_append]

/-- No token stands before the text. -/
theorem le_start (h : Divided offset text ts) : ∀ t ∈ ts, offset ≤ t.span.start := by
  intro t ht
  rcases h.exists_scans_of_mem ht with rfl | ⟨before, piece, after, -, -, hs⟩
  · exact Nat.le_add_right _ _
  · rw [hs.span_eq]
    exact Nat.le_add_right _ _

/-- Tokens stand in order and do not overlap. -/
theorem pairwise (h : Divided offset text ts) :
    ts.Pairwise fun t u => t.span.start < u.span.start ∧ t.span.stop ≤ u.span.start := by
  induction h with
  | atEnd _ => exact List.pairwise_singleton _ _
  | illegal _ _ _ _ => exact List.pairwise_singleton _ _
  | @legal offset gap piece rest t ts _ _ hs _ htail ih =>
    refine List.pairwise_cons.2 ⟨fun u hu => ?_, ih⟩
    have behind := htail.le_start u hu
    obtain ⟨c, cs, hpiece⟩ := List.exists_cons_of_ne_nil hs.ne_nil
    have positive : 0 < byteLength piece := by
      rw [hpiece]
      exact Text.byteLength_pos cs
    rw [hs.span_eq]
    refine ⟨Nat.lt_of_lt_of_le ?_ behind, behind⟩
    exact Nat.lt_add_of_pos_right positive

/-- What stands before the last token and in no token is blank. -/
theorem isBlank_of_uncovered (h : Divided offset text ts) (htext : text = before ++ c :: after)
    (hlast : ∃ last ∈ ts, last.kind.isLast = true ∧ offset + byteLength before < last.span.start)
    (hcover : ∀ t ∈ ts, offset + byteLength before < t.span.start ∨
      t.span.stop ≤ offset + byteLength before) : isBlank c = true := by
  induction h generalizing before with
  | atEnd hgap => exact hgap c (htext ▸ List.mem_append_right _ List.mem_cons_self)
  | @illegal offset gap piece rest t hgap _ hs _ =>
    rcases Text.exists_of_append_eq htext with ⟨_, rfl⟩ | ⟨between, rfl, -⟩
    · exact hgap c (List.mem_append_right _ List.mem_cons_self)
    · -- the illegal piece is the last token, and the character does not stand before it
      obtain ⟨last, hmem, -, hbefore⟩ := hlast
      rw [List.mem_singleton.1 hmem, hs.span_eq, Text.byteLength_append] at hbefore
      dsimp only at hbefore
      omega
  | @legal offset gap piece rest t ts hgap _ hs ht _ ih =>
    rcases Text.exists_of_append_eq htext with ⟨_, rfl⟩ | ⟨between, rfl, hrest⟩
    · exact hgap c (List.mem_append_right _ List.mem_cons_self)
    obtain ⟨hfirst, hothers⟩ := List.forall_mem_cons.1 hcover
    rw [hs.span_eq, Text.byteLength_append] at hfirst
    dsimp only at hfirst
    rcases Text.exists_of_append_eq hrest with ⟨inside, rfl⟩ | ⟨behind, rfl, hbehind⟩
    · -- a character of the piece is covered by its token
      have := Text.byteLength_lt_append_cons between inside c
      omega
    · simp only [Text.add_byteLength_append] at hlast hothers
      obtain ⟨last, hmem, hkind, hbefore⟩ := hlast
      refine ih hbehind ⟨last, ?_, hkind, hbefore⟩ hothers
      refine (List.mem_cons.1 hmem).resolve_left fun heq => ?_
      rw [heq, ht] at hkind
      cases hkind

/-- The tokens and the blanks before them make up the text, if nothing is illegal. -/
theorem joined (h : Divided offset text ts) (hts : ∀ t ∈ ts, t.kind ≠ .illegal) :
    Joined offset ts text := by
  induction h with
  | @atEnd offset gap hgap =>
    have alone : Joined offset [.atEnd (offset + byteLength gap)] (gap ++ ([] ++ [])) :=
      .cons hgap rfl .nil
    rwa [List.append_nil, List.append_nil] at alone
  | illegal _ _ _ ht => exact absurd ht (hts _ List.mem_cons_self)
  | @legal offset gap piece rest t ts hgap hhead hs _ _ ih =>
    obtain ⟨hfirst, hothers⟩ := List.forall_mem_cons.1 hts
    have joined := ih hothers
    rw [← (hs.describes hhead).text_eq hfirst]
    refine .cons hgap ?_ ?_
    · rw [hs.span_eq]
    · rw [hs.span_eq]
      exact joined

end Divided

/-! ## Asking for tokens -/

/-- The answers of a scanner that is asked for the next token a number of times. -/
def Scanner.answers : Nat → Scanner → List (Option Token)
  | 0, _ => []
  | n + 1, s =>
    match s.next? with
    | none => none :: s.answers n
    | some (t, s') => some t :: s'.answers n

/-- The answers are the tokens, one after the other, and nothing after the last of them. -/
theorem Scanner.answers_eq (n : Nat) (s : Scanner) :
    s.answers n = (List.range n).map fun i => s.tokens[i]? := by
  induction n generalizing s with
  | zero => rfl
  | succ n ih =>
    rw [List.range_succ_eq_map, List.map_cons, List.map_map, answers]
    cases h : s.next? with
    | none =>
      simp only [ih, tokens_of_next?_eq_none h]
      rfl
    | some r =>
      obtain ⟨t, s'⟩ := r
      simp only [ih, tokens_of_next?_eq_some h]
      rfl

/-! ## The division of a text -/

/-- How a text is divided into its tokens. -/
structure Partition (source : String) : Prop where
  /-- The last token is the end or illegal, and no other is. -/
  last : ∃ ts last, tokenize source = ts ++ [last] ∧ (∀ t ∈ ts, t.kind.isLast = false) ∧
    last.kind.isLast = true
  /-- Every token spans a piece of the text and tells what it is. -/
  placed : ∀ t ∈ tokenize source, ∃ before piece after,
    Text.Cut source.toList t.span before piece after ∧ t.Describes piece after
  /-- Tokens stand in order and do not overlap. -/
  ordered : (tokenize source).Pairwise fun t u =>
    t.span.start < u.span.start ∧ t.span.stop ≤ u.span.start
  /-- A character before the last token is blank if it lies in no span. -/
  gaps : ∀ before c after, source.toList = before ++ c :: after →
    (∃ last ∈ tokenize source, last.kind.isLast = true ∧
      byteLength before < last.span.start) →
    (∀ t ∈ tokenize source, byteLength before < t.span.start ∨
      t.span.stop ≤ byteLength before) → isBlank c = true
  /-- If nothing is illegal, the texts of the tokens and the blanks between them make up the
      text. -/
  joined : (∀ t ∈ tokenize source, t.kind ≠ .illegal) →
    Joined 0 (tokenize source) source.toList
  /-- A scanner that is asked again and again answers with the tokens, in order, and then with
      nothing. -/
  answers : ∀ n, (Scanner.ofString source).answers n =
    (List.range n).map fun i => (tokenize source)[i]?

/-- Every text is divided into its tokens without a loss, and each of them is as long as it can
    be. -/
theorem tokenize_partition (source : String) : Partition source := by
  have divided : Divided 0 source.toList (tokenize source) := divided_tokensAt 0 source.toList
  constructor
  case last => exact exists_tokensAt_eq_append 0 source.toList
  case placed =>
    intro t ht
    rcases divided.exists_scans_of_mem ht with rfl | ⟨before, piece, after, hsource, hhead, hs⟩
    · exact ⟨source.toList, [], [], ⟨by simp, Nat.zero_add _, Nat.zero_add _⟩,
        Token.describes_atEnd _⟩
    · refine ⟨before, piece, after, ⟨?_, ?_, ?_⟩, hs.describes hhead⟩
      · rw [hsource, List.append_assoc]
      · rw [hs.span_eq, Nat.zero_add]
      · rw [hs.span_eq, Nat.zero_add]
  case ordered => exact divided.pairwise
  case gaps =>
    intro before c after hsource hlast hcover
    rw [← Nat.zero_add (byteLength before)] at hlast
    exact divided.isBlank_of_uncovered hsource hlast (by simpa only [Nat.zero_add] using hcover)
  case joined => exact divided.joined
  case answers => exact fun n => Scanner.answers_eq n _

end Bitwise
