import Bitwise.Proofs.Lexeme
import Mathlib.Data.List.Basic

/-!
# Spellings

How tokens stand in a text: each as its lexeme, after some blanks, and ended by what follows it.
`Spelling rest offset text ts` says that `text`, at an offset and before `rest`, is such a spelling
of the tokens `ts`, up to the end of the last of them. Scanning undoes spelling
(`Spelling.tokensAt_append`), and what is scanned was spelled (`exists_spelling`).

Spellings can be joined, cut between two tokens (`Spelling.exists_append`) and moved to another
offset, and what follows one can be exchanged. All that is said about a text by way of its tokens
rests on these four.
-/

namespace Bitwise

open Text (byteLength)
open Unicode (isBlank)

/-- The tokens of a text that stands at an offset. -/
def tokensAt (offset : Nat) (text : List Char) : List Token :=
  (Scanner.mk text offset false).tokens

/-- The token for the end of a text. -/
def Token.atEnd (offset : Nat) : Token :=
  ⟨.endOfInput, "", .point offset⟩

/-- The spellings of tokens, each with some blanks before it. -/
inductive Spelling (rest : List Char) : Nat → List Char → List Token → Prop
  | nil {offset : Nat} : Spelling rest offset [] []
  | cons {offset : Nat} {gap lexeme text : List Char} {kind : TokenKind} {ts : List Token} :
    (∀ c ∈ gap, isBlank c = true) → Lexeme kind lexeme → kind.EndsBefore (text ++ rest) →
      Spelling rest (offset + byteLength gap + byteLength lexeme) text ts →
      Spelling rest offset (gap ++ (lexeme ++ text))
        (.ofLexeme kind (offset + byteLength gap) lexeme :: ts)

/-- The parts of a text that a span tells apart: what stands before it, what it spans, and what
    stands after it. -/
structure Text.Cut (cs : List Char) (span : Span) (before piece after : List Char) : Prop where
  eq : cs = before ++ piece ++ after
  start : span.start = byteLength before
  stop : span.stop = byteLength before + byteLength piece

/-- A text has one cut at every offset. -/
theorem Text.append_inj_byteLength {cs ds before after : List Char}
    (h : cs ++ ds = before ++ after) (hlength : byteLength cs = byteLength before) :
    cs = before ∧ ds = after := by
  induction cs generalizing before with
  | nil =>
    cases before with
    | nil => exact ⟨rfl, h⟩
    | cons c before =>
      have : 0 < byteLength (c :: before) := Text.byteLength_pos before
      exact absurd hlength (Nat.ne_of_lt this)
  | cons c cs ih =>
    cases before with
    | nil =>
      have : 0 < byteLength (c :: cs) := Text.byteLength_pos cs
      exact absurd hlength.symm (Nat.ne_of_lt this)
    | cons d before =>
      obtain ⟨rfl, htail⟩ := List.cons.inj h
      obtain ⟨rfl, hafter⟩ := ih htail (Nat.add_left_cancel hlength)
      exact ⟨rfl, hafter⟩

/-! ## Scanning -/

theorem Scanner.tokens_of_next?_eq_some {s s' : Scanner} {t : Token} (h : s.next? = some (t, s')) :
    s.tokens = t :: s'.tokens := by
  rw [Scanner.tokens]
  split
  · next h' => rw [h] at h'; exact absurd h' (Option.some_ne_none _)
  · next t' s'' h' => rw [h] at h'; cases h'; rfl

theorem Scanner.tokens_of_next?_eq_none {s : Scanner} (h : s.next? = none) : s.tokens = [] := by
  rw [Scanner.tokens]
  split
  · rfl
  · next h' => rw [h] at h'; exact absurd h'.symm (Option.some_ne_none _)

theorem Scanner.tokens_of_finished {s : Scanner} (h : s.finished = true) : s.tokens = [] :=
  tokens_of_next?_eq_none (if_pos h)

/-- A text has a first token. It is the only one if no token comes after its kind. -/
theorem tokensAt_eq_cons {offset offset' : Nat} {text rest : List Char} {t : Token}
    (h : (Scanner.mk text offset false).lexeme = (t, rest)) (hstop : t.span.stop = offset') :
    tokensAt offset text = t :: if t.kind.isLast then [] else tokensAt offset' rest := by
  have next : (Scanner.mk text offset false).next? =
      some (t, ⟨rest, offset', t.kind.isLast⟩) := by
    rw [Scanner.next?, if_neg Bool.false_ne_true, h, hstop]
  rw [tokensAt, Scanner.tokens_of_next?_eq_some next]
  cases hk : t.kind.isLast with
  | true => rw [Scanner.tokens_of_finished rfl, if_pos rfl]
  | false => rw [if_neg Bool.false_ne_true, tokensAt]

/-- Blanks before a text only move its tokens. -/
theorem tokensAt_blank_append {gap : List Char} (hgap : ∀ c ∈ gap, isBlank c = true)
    (offset : Nat) (text : List Char) :
    tokensAt offset (gap ++ text) = tokensAt (offset + byteLength gap) text := by
  have same : (Scanner.mk (gap ++ text) offset false).lexeme =
      (Scanner.mk text (offset + byteLength gap) false).lexeme := by
    simp only [Scanner.lexeme, List.takeWhile_append_of_pos hgap,
      List.dropWhile_append_of_pos hgap, Text.byteLength_append, Nat.add_assoc]
  exact (tokensAt_eq_cons same rfl).trans (tokensAt_eq_cons rfl rfl).symm

@[simp] theorem tokensAt_nil (offset : Nat) : tokensAt offset [] = [.atEnd offset] := by
  exact tokensAt_eq_cons (t := .atEnd offset) rfl rfl

/-- A blank text has no token but its end. -/
theorem tokensAt_of_blank {text : List Char} (h : ∀ c ∈ text, isBlank c = true) (offset : Nat) :
    tokensAt offset text = [.atEnd (offset + byteLength text)] := by
  rw [← List.append_nil text, tokensAt_blank_append h, tokensAt_nil, List.append_nil]

/-- A piece that does not begin with a blank is the first token of the text. -/
theorem Token.Scans.tokensAt_append {offset : Nat} {piece rest : List Char} {t : Token}
    (h : Token.Scans offset piece rest t) (hblank : ∀ c ∈ piece.head?, isBlank c = false) :
    tokensAt offset (piece ++ rest) =
      t :: if t.kind.isLast then [] else tokensAt (offset + byteLength piece) rest := by
  refine tokensAt_eq_cons ?_ (by rw [h.span_eq])
  have hhead : ∀ c ∈ (piece ++ rest).head?, isBlank c = false := by
    rwa [List.head?_append_of_ne_nil _ h.ne_nil]
  have none := takeWhile_append_of_head (l := []) (List.forall_mem_nil _) hhead
  have all := dropWhile_append_of_head (l := []) (List.forall_mem_nil _) hhead
  rw [List.nil_append] at none all
  -- there are no blanks to skip
  rw [Scanner.lexeme, none, all]
  exact h.scan_append

/-- A text is blank, or begins with a token after some blanks. -/
theorem blank_or_exists_scans (offset : Nat) (text : List Char) :
    (∀ c ∈ text, isBlank c = true) ∨ ∃ gap piece rest t, text = gap ++ (piece ++ rest) ∧
      (∀ c ∈ gap, isBlank c = true) ∧ (∀ c ∈ piece.head?, isBlank c = false) ∧
      Token.Scans (offset + byteLength gap) piece rest t := by
  have parts : text = text.takeWhile isBlank ++ text.dropWhile isBlank :=
    List.takeWhile_append_dropWhile.symm
  have hgap : ∀ c ∈ text.takeWhile isBlank, isBlank c = true := fun c => mem_takeWhile_eq_true
  by_cases h : text.dropWhile isBlank = []
  · rw [h, List.append_nil] at parts
    rw [parts]
    exact .inl hgap
  · obtain ⟨piece, rest, t, hp, hs⟩ :=
      Token.exists_scans (offset + byteLength (text.takeWhile isBlank)) h
    refine .inr ⟨_, piece, rest, t, hp ▸ parts, hgap, ?_, hs⟩
    have hhead := head?_dropWhile_eq_false isBlank text
    rwa [hp, List.head?_append_of_ne_nil _ hs.ne_nil] at hhead

/-- The tokens of a text are its legal tokens and one more, which is the end or illegal. -/
theorem exists_tokensAt_eq_append (offset : Nat) (text : List Char) :
    ∃ ts last, tokensAt offset text = ts ++ [last] ∧ (∀ t ∈ ts, t.kind.isLast = false) ∧
      last.kind.isLast = true := by
  rcases blank_or_exists_scans offset text with hblank | ⟨gap, piece, rest, t, rfl, hgap, hhead, hs⟩
  · exact ⟨[], _, tokensAt_of_blank hblank offset, List.forall_mem_nil _, rfl⟩
  · rw [tokensAt_blank_append hgap, hs.tokensAt_append hhead]
    cases hk : t.kind.isLast with
    | true => exact ⟨[], t, rfl, List.forall_mem_nil _, hk⟩
    | false =>
      have shorter : rest.length < (gap ++ (piece ++ rest)).length := by
        have := List.length_pos_of_ne_nil hs.ne_nil
        simp only [List.length_append]
        omega
      obtain ⟨ts, last, hts, hlegal, hlast⟩ :=
        exists_tokensAt_eq_append (offset + byteLength gap + byteLength piece) rest
      refine ⟨t :: ts, last, ?_, List.forall_mem_cons.2 ⟨hk, hlegal⟩, hlast⟩
      rw [hts, if_neg Bool.false_ne_true, List.cons_append]
termination_by text.length

/-! ## Spelled tokens -/

namespace Spelling

variable {rest text : List Char} {offset : Nat} {t : Token} {ts us : List Token}

/-- The text of a token is a lexeme of its kind. -/
theorem lexeme_of_mem (h : Spelling rest offset text ts) :
    ∀ t ∈ ts, Lexeme t.kind t.text.toList := by
  induction h with
  | nil => exact List.forall_mem_nil _
  | cons _ hl _ _ ih =>
    refine List.forall_mem_cons.2 ⟨?_, ih⟩
    rwa [Token.ofLexeme, String.toList_ofList]

theorem isLast_eq_false (h : Spelling rest offset text ts) : ∀ t ∈ ts, t.kind.isLast = false :=
  fun t ht => (h.lexeme_of_mem t ht).isLast_eq_false

/-- A lexeme spells its token. -/
theorem singleton {kind : TokenKind} {lexeme : List Char} (hl : Lexeme kind lexeme)
    (he : kind.EndsBefore rest) : Spelling rest offset lexeme [.ofLexeme kind offset lexeme] := by
  have spelled : Spelling rest offset ([] ++ (lexeme ++ [])) [.ofLexeme kind offset lexeme] :=
    .cons (List.forall_mem_nil _) hl he .nil
  rwa [List.nil_append, List.append_nil] at spelled

/-- Scanning undoes spelling. -/
theorem tokensAt_append (h : Spelling rest offset text ts) :
    tokensAt offset (text ++ rest) = ts ++ tokensAt (offset + byteLength text) rest := by
  induction h with
  | nil => rfl
  | @cons offset gap lexeme text kind ts hgap hl he _ ih =>
    have scans : Token.Scans (offset + byteLength gap) lexeme (text ++ rest) _ := .lexeme hl he
    have scanned := scans.tokensAt_append hl.isBlank_head
    have legal : (Token.ofLexeme kind (offset + byteLength gap) lexeme).kind.isLast = false :=
      hl.isLast_eq_false
    rw [List.append_assoc, List.append_assoc, tokensAt_blank_append hgap, scanned, legal,
      if_neg Bool.false_ne_true, ih, List.cons_append, Text.add_byteLength_append,
      Text.add_byteLength_append]

/-- The rest matters only by the character that comes first in it, and only if that goes on
    something. -/
theorem congr_rest {rest' : List Char} (h : Spelling rest offset text ts)
    (hrest : ∀ c ∈ rest'.head?, c ∈ rest.head? ∨ ∀ kind : TokenKind, kind.goesOn c = false) :
    Spelling rest' offset text ts := by
  induction h with
  | nil => exact .nil
  | @cons offset gap lexeme text kind ts hgap hl he _ ih =>
    -- only the last lexeme is followed by the rest
    refine .cons hgap hl (fun c hc => ?_) ih
    cases text with
    | nil => exact (hrest c hc).elim (he c) fun all => all kind
    | cons d text => exact he c hc

/-- Spellings are joined. -/
theorem append {text' : List Char} (h : Spelling (text' ++ rest) offset text ts)
    (h' : Spelling rest (offset + byteLength text) text' us) :
    Spelling rest offset (text ++ text') (ts ++ us) := by
  generalize hr : text' ++ rest = r at h
  induction h with
  | nil => exact h'
  | @cons offset gap lexeme text kind ts hgap hl he _ ih =>
    subst hr
    rw [List.append_assoc, List.append_assoc]
    refine .cons hgap hl (by rwa [List.append_assoc]) (ih ?_)
    rwa [← Text.add_byteLength_append, ← Text.add_byteLength_append]

/-- A spelling is cut between two tokens. -/
theorem exists_append (h : Spelling rest offset text (ts ++ us)) :
    ∃ text₁ text₂, text = text₁ ++ text₂ ∧ Spelling (text₂ ++ rest) offset text₁ ts ∧
      Spelling rest (offset + byteLength text₁) text₂ us := by
  induction ts generalizing offset text with
  | nil => exact ⟨[], text, rfl, .nil, h⟩
  | cons t ts ih =>
    rw [List.cons_append] at h
    cases h with
    | @cons _ gap lexeme text kind _ hgap hl he h =>
      obtain ⟨text₁, text₂, rfl, h₁, h₂⟩ := ih h
      refine ⟨gap ++ (lexeme ++ text₁), text₂, by simp, ?_, ?_⟩
      · exact .cons hgap hl (by rwa [← List.append_assoc]) h₁
      · rwa [Text.add_byteLength_append, Text.add_byteLength_append]

/-- The blanks before the first token can be told from what spells the tokens. -/
theorem exists_gap (h : Spelling rest offset text (t :: ts)) :
    ∃ gap text', text = gap ++ text' ∧ (∀ c ∈ gap, isBlank c = true) ∧
      (∀ c ∈ text'.head?, isBlank c = false) ∧
      Spelling rest (offset + byteLength gap) text' (t :: ts) := by
  cases h with
  | @cons _ gap lexeme text kind _ hgap hl he h =>
    refine ⟨gap, lexeme ++ text, rfl, hgap, ?_, ?_⟩
    · rw [List.head?_append_of_ne_nil _ hl.ne_nil]
      exact hl.isBlank_head
    · show Spelling rest _ ([] ++ (lexeme ++ text)) _
      exact .cons (List.forall_mem_nil _) hl he h

/-- Blanks can be put before the first token. -/
theorem blank_append {gap : List Char} (hgap : ∀ c ∈ gap, isBlank c = true) (hts : ts ≠ [])
    (h : Spelling rest (offset + byteLength gap) text ts) :
    Spelling rest offset (gap ++ text) ts := by
  cases h with
  | nil => exact absurd rfl hts
  | @cons _ gap' lexeme text kind _ hgap' hl he h =>
    have joined : ∀ c ∈ gap ++ gap', isBlank c = true := fun c hc =>
      (List.mem_append.1 hc).elim (hgap c) (hgap' c)
    have moved : Spelling rest offset ((gap ++ gap') ++ (lexeme ++ text)) _ :=
      .cons joined hl he (by rwa [Text.add_byteLength_append])
    rwa [List.append_assoc, Text.add_byteLength_append] at moved

theorem ne_nil_of_cons (h : Spelling rest offset text (t :: ts)) : text ≠ [] := by
  cases h with
  | cons _ hl _ _ => simp [hl.ne_nil]

end Spelling

/-- What is scanned was spelled: the first legal tokens of a text are spelled at its head. -/
theorem exists_spelling {offset : Nat} {text : List Char} {ts us : List Token}
    (h : tokensAt offset text = ts ++ us) (hts : ∀ t ∈ ts, t.kind.isLast = false) :
    ∃ text₁ rest, text = text₁ ++ rest ∧ Spelling rest offset text₁ ts ∧
      tokensAt (offset + byteLength text₁) rest = us := by
  induction ts generalizing offset text with
  | nil => exact ⟨[], text, rfl, .nil, h⟩
  | cons t ts ih =>
    obtain ⟨ht, htail⟩ := List.forall_mem_cons.1 hts
    rcases blank_or_exists_scans offset text with hb | ⟨gap, piece, rest, t', rfl, hgap, hhead, hs⟩
    · rw [tokensAt_of_blank hb, List.cons_append, List.cons.injEq] at h
      rw [← h.1] at ht
      exact absurd ht Bool.noConfusion
    · rw [tokensAt_blank_append hgap, hs.tokensAt_append hhead, List.cons_append,
        List.cons.injEq] at h
      obtain ⟨rfl, h⟩ := h
      rw [ht, if_neg Bool.false_ne_true] at h
      obtain ⟨text₁, rest, rfl, h₁, h₂⟩ := ih h htail
      obtain ⟨hl, he, htok⟩ := hs.of_isLast_eq_false ht
      rw [htok]
      refine ⟨gap ++ (piece ++ text₁), rest, by simp, .cons hgap hl he h₁, ?_⟩
      rwa [Text.add_byteLength_append, Text.add_byteLength_append]

/-! ## Moving spellings -/

/-- The span of the same piece of a text when it stands further on. -/
def Span.raise (distance : Nat) (span : Span) : Span :=
  ⟨span.start + distance, span.stop + distance⟩

/-- The token with another span. -/
def Token.mapSpan (f : Span → Span) (t : Token) : Token :=
  { t with span := f t.span }

@[simp] theorem Token.mapSpan_kind (f : Span → Span) (t : Token) :
    (t.mapSpan f).kind = t.kind := rfl

@[simp] theorem Token.mapSpan_text (f : Span → Span) (t : Token) :
    (t.mapSpan f).text = t.text := rfl

@[simp] theorem Token.mapSpan_span (f : Span → Span) (t : Token) :
    (t.mapSpan f).span = f t.span := rfl

theorem Token.mapSpan_ofLexeme (distance : Nat) (kind : TokenKind) (offset : Nat)
    (lexeme : List Char) :
    (Token.ofLexeme kind offset lexeme).mapSpan (Span.raise distance) =
      .ofLexeme kind (offset + distance) lexeme := by
  simp only [Token.mapSpan, Token.ofLexeme, Span.raise, Token.mk.injEq, Span.mk.injEq, true_and]
  omega

/-- What is spelled further on in a text is spelled the same way anywhere before. -/
theorem Spelling.exists_map_raise {rest text : List Char} {offset distance : Nat} {ts : List Token}
    (h : Spelling rest (offset + distance) text ts) :
    ∃ us, ts = us.map (Token.mapSpan (Span.raise distance)) ∧ Spelling rest offset text us := by
  generalize ho : offset + distance = o at h
  induction h generalizing offset with
  | nil => exact ⟨[], rfl, .nil⟩
  | @cons o gap lexeme text kind ts hgap hl he _ ih =>
    subst ho
    obtain ⟨us, rfl, hus⟩ := @ih (offset + byteLength gap + byteLength lexeme) (by omega)
    refine ⟨_, ?_, .cons hgap hl he hus⟩
    rw [List.map_cons, Token.mapSpan_ofLexeme, Nat.add_right_comm]

/-- What is spelled somewhere in a text is spelled the same way anywhere behind. -/
theorem Spelling.map_raise {rest text : List Char} {offset : Nat} {ts : List Token}
    (h : Spelling rest offset text ts) (distance : Nat) :
    Spelling rest (offset + distance) text (ts.map (Token.mapSpan (Span.raise distance))) := by
  induction h with
  | nil => exact .nil
  | @cons offset gap lexeme text kind ts hgap hl he _ ih =>
    rw [List.map_cons, Token.mapSpan_ofLexeme, Nat.add_right_comm]
    refine .cons hgap hl he ?_
    rwa [Nat.add_right_comm offset, Nat.add_right_comm]

end Bitwise
