import Bitwise.Proofs.ExpectedTokens
import Bitwise.Proofs.SessionNames
import Mathlib.Order.Bounds.Defs

/-!
# The word at the cursor

The word before a cursor is the longest piece of the line that ends there and has characters of
words only. Completion offers the names that begin with it, and no others
(`Session.CompletesWord`).

Where names begin is decided twice: the completer goes back from the cursor, and the scanner goes
forth from the start of the line, each with characters of its own. They agree about the names of a
line that can be parsed (`Session.completes_word_at_cursor`). The completer stops at the start of a
name, since the token before it is never a name or a number: no operand follows another. It would
not stop there in `7_a`, which are two tokens, but no statement.
-/

namespace Bitwise

open Text (byteLength)
open Unicode (isBlank)

/-- Of two beginnings of a text, the one with fewer bytes is the beginning of the other. -/
theorem Text.prefix_of_byteLength_le {text cs ds : List Char} (hcs : cs <+: text)
    (hds : ds <+: text) (hle : byteLength cs ≤ byteLength ds) : cs <+: ds := by
  rcases List.prefix_or_prefix_of_prefix hcs hds with h | ⟨excess, rfl⟩
  · exact h
  · cases excess with
    | nil => simp
    | cons c excess =>
      -- what the first has more than the second would take bytes
      have : 0 < byteLength (c :: excess) := byteLength_pos excess
      rw [byteLength_append] at hle
      omega

/-! ## Characters of words -/

section

open Session (isWordChar)

theorem isWordChar_eq_false {c : Char} (hpart : isIdentifierPart c = false)
    (hother : Unicode.otherAlphanumerics.contains c.toNat = false) : isWordChar c = false := by
  rw [isIdentifierPart, Bool.or_eq_false_iff] at hpart
  rw [isWordChar, Unicode.isAlphanumeric, hother, Bool.or_false, hpart.1, hpart.2]
  rfl

theorem isWordChar_of_isBlank {c : Char} (h : isBlank c = true) : isWordChar c = false :=
  isWordChar_eq_false (isIdentifierPart_of_isBlank h)
    (Unicode.Ranges.contains_eq_false_of_disjoint (a := Unicode.blanks) (by decide +kernel) h)

theorem isWordChar_of_mem_signs {c : Char} (h : c ∈ signs) : isWordChar c = false := by
  have all : (signs.all fun c => isWordChar c == false) = true := by decide +kernel
  exact beq_iff_eq.1 (List.all_eq_true.1 all c h)

end

theorem Environment.mem_names_iff {env : Environment} {x : String} :
    x ∈ env.names ↔ env.Binds x := by
  rw [names, List.mem_map]
  constructor
  · rintro ⟨⟨x, v⟩, hmem, rfl⟩
    exact ⟨v, mem_bindings_iff.1 hmem⟩
  · rintro ⟨v, hv⟩
    exact ⟨(x, v), mem_bindings_iff.2 hv, rfl⟩

namespace Session

variable {env : Environment} {line : String} {before after pre word : List Char}

/-! ## The last word of a text -/

/-- Characters of words go on the last word of the text before them. -/
theorem lastWord_append_of_forall (h : ∀ c ∈ word, isWordChar c = true) (pre : List Char) :
    lastWord (pre ++ word) = lastWord pre ++ word := by
  have reversed : ∀ c ∈ word.reverse, isWordChar c = true := fun c hc => h c (List.mem_reverse.1 hc)
  rw [lastWord, List.reverse_append, List.takeWhile_append_of_pos reversed, List.reverse_append,
    List.reverse_reverse, lastWord]

/-- A word is the last one of a text if it cannot be made longer to the left. -/
theorem lastWord_append (hpre : ∀ c ∈ pre.getLast?, isWordChar c = false)
    (hword : ∀ c ∈ word, isWordChar c = true) : lastWord (pre ++ word) = word := by
  rw [← List.head?_reverse] at hpre
  have none := takeWhile_append_of_head (l := []) (List.forall_mem_nil _) hpre
  rw [List.nil_append] at none
  rw [lastWord_append_of_forall hword, lastWord, none, List.reverse_nil, List.nil_append]

/-- A text ends with its last word. -/
theorem exists_eq_append_lastWord (cs : List Char) : ∃ pre word, cs = pre ++ word ∧
    lastWord (pre ++ word) = word ∧ ∀ c ∈ word, isWordChar c = true := by
  have parts : cs = (cs.reverse.dropWhile isWordChar).reverse ++ lastWord cs := by
    rw [lastWord, ← List.reverse_append, List.takeWhile_append_dropWhile, List.reverse_reverse]
  refine ⟨_, lastWord cs, parts, by rw [← parts], fun c hc => ?_⟩
  exact mem_takeWhile_eq_true (List.mem_reverse.1 hc)

/-- From some place of a text on, all its characters are those of words. -/
def WordFrom (cs : List Char) (place : Nat) : Prop :=
  ∃ pre word, cs = pre ++ word ∧ place = byteLength pre ∧ ∀ c ∈ word, isWordChar c = true

/-- The last word begins at the first such place. -/
theorem isLeast_wordFrom (h : lastWord (pre ++ word) = word)
    (hword : ∀ c ∈ word, isWordChar c = true) :
    IsLeast {place | WordFrom (pre ++ word) place} (byteLength pre) := by
  refine ⟨⟨pre, word, rfl, rfl, hword⟩, ?_⟩
  rintro place ⟨pre', word', heq, rfl, hword'⟩
  -- a word that the text ends with is the end of the last word
  have last : word = lastWord pre' ++ word' := by
    rw [← lastWord_append_of_forall hword', ← heq, h]
  rw [last, ← List.append_assoc] at heq
  rw [← List.append_cancel_right heq, Text.byteLength_append]
  exact Nat.le_add_right _ _

theorem wordStart?_eq (hline : line.toList = pre ++ word ++ after)
    (h : lastWord (pre ++ word) = word) :
    wordStart? line (byteLength (pre ++ word)) = some (byteLength pre) := by
  rw [wordStart?, hline, Text.cutAt?_byteLength_append, Option.map_some]
  simp only [h, Text.byteLength_append, Nat.add_sub_cancel]

/-! ## The names that are offered -/

/-- What completion does at the end of a word, with some text before it on the line. -/
structure CompletesWord (env : Environment) (line : String) (pre word : List Char) : Prop where
  /-- The word is found. -/
  start_eq : wordStart? line (byteLength (pre ++ word)) = some (byteLength pre)
  /-- It begins as far to the left as any. -/
  isLeast : IsLeast {place | WordFrom (pre ++ word) place} (byteLength pre)
  /-- An empty word is not completed. -/
  of_nil : word = [] →
    complete? env line (byteLength (pre ++ word)) = some (byteLength (pre ++ word), [])
  /-- The bound names that begin with the word are offered in its place, and no others, in the
      order of their code points and each of them once. -/
  of_ne_nil : word ≠ [] → ∃ names,
    complete? env line (byteLength (pre ++ word)) = some (byteLength pre, names) ∧
      names.Pairwise (· < ·) ∧ ∀ x, x ∈ names ↔ env.Binds x ∧ word <+: x.toList

theorem complete?_eq (hline : line.toList = pre ++ word ++ after)
    (h : lastWord (pre ++ word) = word) (env : Environment) :
    complete? env line (byteLength (pre ++ word)) =
      if word = [] then some (byteLength (pre ++ word), [])
      else some (byteLength pre, env.names.filter fun x => word.isPrefixOf x.toList) := by
  rw [complete?, hline, Text.cutAt?_byteLength_append, Option.map_some]
  simp only [h, Text.byteLength_append, Nat.add_sub_cancel, List.isEmpty_iff]
  split <;> rfl

theorem exists_completesWord (hline : line.toList = before ++ after) (env : Environment) :
    ∃ pre word, before = pre ++ word ∧ CompletesWord env line pre word := by
  obtain ⟨pre, word, rfl, hlast, hword⟩ := exists_eq_append_lastWord before
  have answer := complete?_eq hline hlast env
  have increasing : env.names.Pairwise (· < ·) := List.pairwise_map.2 env.increasing
  refine ⟨pre, word, rfl, wordStart?_eq hline hlast, isLeast_wordFrom hlast hword,
    fun hnil => answer.trans (if_pos hnil), fun hne => ?_⟩
  refine ⟨_, answer.trans (if_neg hne), increasing.filter _, fun x => ?_⟩
  rw [List.mem_filter, Environment.mem_names_iff, List.isPrefixOf_iff_prefix]

end Session

/-! ## Names in a text -/

section Names

variable {source : String} {root : Node} {ts : List Token} {t u : Token}

/-- A name comes after no operand. -/
theorem Parser.Step.not_endsOperand {p q : Parser} (h : Step p t q) (ht : t.kind = .identifier)
    (hp : After ts p) : ¬EndsOperand ts := by
  rw [← hp.expected_iff.1]
  cases h with
  | name | var => exact Expected.noConfusion
  | target hk | openGroup _ hk _ | tilde _ hk | literal _ hk _ | complement hk _ | operator _ hk
  | closeGroup _ hk _ =>
    rw [ht] at hk
    cases hk

/-- What stands right before a name in a statement is no part of a word. -/
theorem isWordChar_before_name {s : Grammar.Statement} {us : List Token} {rest text : List Char}
    (hs : s.Admissible) (hts : s.tokens = ts ++ t :: us) (ht : t.kind = .identifier)
    (h : Spelling rest 0 text ts) : ∀ c ∈ text.getLast?, Session.isWordChar c = false := by
  obtain ⟨q, hq, -⟩ := hs.exists_feedAll
  rw [hts, List.append_cons] at hq
  obtain ⟨r, hr, -⟩ := Parser.exists_feedAll_of_append hq
  obtain ⟨p, hp, step⟩ := Parser.exists_step_of_feedAll_concat hr
  have noOperand := step.not_endsOperand ht (Parser.after_of_feedAll hp)
  rcases List.eq_nil_or_concat' ts with rfl | ⟨ts, u, rfl⟩
  · cases h
    exact fun c hc => nomatch hc
  rw [endsOperand_concat] at noOperand
  obtain ⟨text₁, text₂, rfl, -, hlast⟩ := h.exists_append
  cases hlast with
  | @cons _ gap lexeme text kind _ _ hl _ hnil =>
    cases hnil
    intro c hc
    rw [List.append_nil, List.getLast?_append, List.getLast?_append,
      List.getLast?_eq_some_getLast hl.ne_nil, Option.some_or, Option.some_or] at hc
    obtain rfl := Option.mem_some_iff.1 hc
    refine isWordChar_of_mem_signs ?_
    -- neither a name nor a number is left, so the lexeme is made of signs
    cases hl with
    | sign hk => exact mem_signs_of_signKind? hk
    | shift hop => exact mem_signs_of_shift? hop
    | identifier => exact absurd (.inl rfl) noOperand
    | number => exact absurd (.inr (.inl rfl)) noOperand

/-- A name of a text that can be parsed stands behind a text that does not end with a part of a
    word. -/
theorem exists_cut_of_name (h : parse source = .ok root) (ht : t ∈ tokenize source)
    (hkind : t.kind = .identifier) : ∃ before lexeme after,
      Text.Cut source.toList t.span before lexeme after ∧ Lexeme .identifier lexeme ∧
        ∀ c ∈ before.getLast?, Session.isWordChar c = false := by
  obtain ⟨s, text, gap, hsource, hgap, hspell, hs, -⟩ := parse_eq_ok_iff_spelling.1 h
  rw [tokenize_of_spelling hsource hgap hspell, List.mem_append, List.mem_singleton] at ht
  have hmem : t ∈ s.tokens := by
    refine ht.resolve_right fun heq => ?_
    rw [heq] at hkind
    cases hkind
  obtain ⟨ts, us, hts⟩ := List.append_of_mem hmem
  rw [hts] at hspell
  obtain ⟨text₁, text₂, rfl, hfirst, hname⟩ := hspell.exists_append
  have noWord := isWordChar_before_name hs hts hkind hfirst
  cases hname with
  | @cons _ blanks lexeme text₃ kind _ hblanks hl _ _ =>
    obtain rfl : kind = .identifier := hkind
    refine ⟨text₁ ++ blanks, lexeme, text₃ ++ gap, ⟨?_, ?_, ?_⟩, hl, fun c hc => ?_⟩
    · rw [hsource]
      simp only [List.append_assoc]
    · rw [Text.byteLength_append]
      exact congrArg (· + _) (Nat.zero_add _)
    · rw [Text.byteLength_append]
      exact congrArg (· + _ + _) (Nat.zero_add _)
    · rw [List.getLast?_append] at hc
      cases hlast : blanks.getLast? with
      | none =>
        rw [hlast, Option.none_or] at hc
        exact noWord c hc
      | some d =>
        rw [hlast, Option.some_or] at hc
        obtain rfl := Option.mem_some_iff.1 hc
        exact isWordChar_of_isBlank (hblanks d (List.mem_of_mem_getLast? hlast))

end Names

namespace Session

/-- In a text that can be parsed, the word before a cursor in a name or behind it begins where the
    name does. -/
theorem wordStart?_of_name {source : String} {root : Node} {t : Token} {before after : List Char}
    (hsource : source.toList = before ++ after) (h : parse source = .ok root)
    (ht : t ∈ tokenize source) (hkind : t.kind = .identifier)
    (hstart : t.span.start < byteLength before) (hstop : byteLength before ≤ t.span.stop) :
    wordStart? source (byteLength before) = some t.span.start := by
  obtain ⟨pre, lexeme, rest, hcut, hl, hpre⟩ := exists_cut_of_name h ht hkind
  rw [hcut.start] at hstart ⊢
  rw [hcut.stop] at hstop
  have whole : pre ++ (lexeme ++ rest) = before ++ after := by
    rw [← hsource, hcut.eq, List.append_assoc]
  -- the cursor is behind a part of the name
  have first : pre <+: before ++ after := whole ▸ List.prefix_append pre _
  obtain ⟨word, rfl⟩ := Text.prefix_of_byteLength_le first (List.prefix_append before _) hstart.le
  rw [List.append_assoc] at whole
  have second : lexeme <+: word ++ after := List.append_cancel_left whole ▸ List.prefix_append _ _
  have hword : word <+: lexeme := by
    refine Text.prefix_of_byteLength_le (List.prefix_append word _) second ?_
    rw [Text.byteLength_append] at hstop
    exact Nat.le_of_add_le_add_left hstop
  have parts : ∀ c ∈ word, isWordChar c = true := fun c hc =>
    isWordChar_of_isIdentifierPart (hl.isIdentifierPart_of_mem c (hword.subset hc))
  exact wordStart?_eq hsource (lastWord_append hpre parts)

/-- At every cursor, completion finds the word before it and offers the bound names that begin with
    the word. If the line can be parsed and the cursor is in a name or behind it, the word begins
    where the token of the name does. -/
theorem completes_word_at_cursor {line : String} {before after : List Char}
    (hline : line.toList = before ++ after) (env : Environment) :
    (∃ pre word, before = pre ++ word ∧ CompletesWord env line pre word) ∧
      ∀ root, parse line = .ok root → ∀ t ∈ tokenize line, t.kind = .identifier →
        t.span.start < byteLength before → byteLength before ≤ t.span.stop →
          wordStart? line (byteLength before) = some t.span.start :=
  ⟨exists_completesWord hline env, fun _ hparse _ ht hkind =>
    wordStart?_of_name hline hparse ht hkind⟩

/-- A cursor in the middle of a name, of which two of the bound names have the beginning. -/
theorem completes_word_at_cursor_in_name :
    let line := "1|größe&1"
    let env := Environment.ofList [("größe", 3), ("grün", 5), ("maß", 7), ("grö", 9)]
    line.toList = "1|grö".toList ++ "ße&1".toList ∧ wordStart? line 6 = some 2 ∧
      ∃ names, complete? env line 6 = some (2, names) ∧
        "grö" ∈ names ∧ "größe" ∈ names ∧ "grün" ∉ names := by
  intro line env
  have hline : line.toList = "1|grö".toList ++ "ße&1".toList := by decide
  have parsed : parse line = .ok (.binary .and (.binary .or (.literal 1 ⟨0, 1⟩)
      (.var "größe" ⟨2, 9⟩) ⟨0, 9⟩) (.literal 1 ⟨10, 11⟩) ⟨0, 11⟩) := by
    decide +kernel
  have token : ⟨.identifier, "größe", ⟨2, 9⟩⟩ ∈ tokenize line := by decide +kernel
  obtain ⟨⟨pre, word, hbefore, completes⟩, found⟩ := completes_word_at_cursor hline env
  have start : wordStart? line 6 = some 2 :=
    found _ parsed _ token rfl (by decide) (by decide)
  have found' := completes.start_eq
  rw [← hbefore] at found'
  have place : 2 = byteLength pre := Option.some.inj (start.symm.trans found')
  have cut : "1|".toList ++ "grö".toList = pre ++ word := hbefore
  obtain ⟨rfl, rfl⟩ := Text.append_inj_byteLength cut place
  obtain ⟨names, hanswer, -, hnames⟩ := completes.of_ne_nil (by decide)
  refine ⟨hline, start, names, hanswer, ?_, ?_, ?_⟩
  · exact (hnames _).2 ⟨⟨9, by decide⟩, by decide⟩
  · exact (hnames _).2 ⟨⟨3, by decide⟩, by decide⟩
  · exact fun h => absurd ((hnames _).1 h).2 (by decide)

end Session

end Bitwise
