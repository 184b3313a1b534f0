import Bitwise.Proofs.Acceptance
import Bitwise.Proofs.Partition

/-!
# Texts one after the other

The tokens of a text that is put together are those of its parts, provided that the first part has
no illegal token and that nothing grows together where the parts meet (`tokenize_append`). A blank
between them is enough for that, and without one it depends on a single character: the first of the
second part must not go on the last token of the first (`GrowsTogether`).

The second part may be anything. Its tokens only move, and so do its diagnostics, of which there is
one kind that tells where it has been found: the offset in its words moves as well
(`Token.Raised`).
-/

namespace Bitwise

open Text (byteLength)
open Unicode (isBlank)

/-! ## Diagnostics further on -/

/-- Whether the last character of a text is a digit. -/
def Text.endsInDigit (text : String) : Bool :=
  text.toList.getLast?.any Char.isDigit

theorem Text.endsInDigit_append_toString (words : String) (n : Nat) :
    endsInDigit (words ++ toString n) = true := by
  have digits : (toString n).toList ≠ [] := by
    rw [Nat.toString_eq_repr, Nat.toList_repr]
    exact Nat.toDigits_ne_nil
  rw [endsInDigit, String.toList_append, List.getLast?_append,
    List.getLast?_eq_some_getLast digits]
  exact isDigit_of_mem_toString n _ (List.getLast_mem digits)

/-- A number behind a blank can be told from the words before it. -/
theorem Text.append_toString_inj {words words' : List Char} {m n : Nat}
    (h : String.ofList (words ++ [' ']) ++ toString m =
      String.ofList (words' ++ [' ']) ++ toString n) : words = words' ∧ m = n := by
  have reversed := congrArg (fun text => text.toList.reverse) h
  simp only [String.toList_append, String.toList_ofList, List.reverse_append,
    List.reverse_singleton, List.singleton_append] at reversed
  have digits : ∀ n : Nat, ∀ c ∈ (toString n).toList.reverse, c.isDigit = true := fun n c hc =>
    isDigit_of_mem_toString n c (List.mem_reverse.1 hc)
  obtain ⟨hdigits, hwords⟩ := append_cons_inj_of_run (digits m) (digits n) rfl rfl reversed
  exact ⟨List.reverse_inj.1 hwords, eq_of_toList_toString_eq (List.reverse_inj.1 hdigits)⟩

namespace LexicalFault

variable {fault : LexicalFault} {c : Char} {offset : Nat}

/-- The fault of the same piece when it stands further on in a text. -/
def raise (distance : Nat) : LexicalFault → LexicalFault
  | .unexpected c offset => .unexpected c (offset + distance)
  | fault => fault

/-- The diagnostic of an unexpected character ends with its offset, after a blank. -/
theorem exists_message_unexpected (c : Char) : ∃ words : List Char, ∀ offset,
    (unexpected c offset).message = String.ofList (words ++ [' ']) ++ toString offset := by
  refine ⟨("unexpected " ++ Text.quotedChar c ++ " at").toList, fun offset => ?_⟩
  rw [message, ← String.toList_inj]
  simp [String.toList_append]

/-- It is the only one that ends in a digit. -/
theorem endsInDigit_message_iff :
    Text.endsInDigit fault.message = true ↔ ∃ c offset, fault = .unexpected c offset := by
  constructor
  · intro h
    rcases fault with reason | next | _ | ⟨c, offset⟩
    · rcases reason with radix | _
      · rcases radix <;> exact absurd h (by decide)
      · exact absurd h (by decide)
    · simp only [message, Text.quotedChar, Text.endsInDigit, String.toList_append,
        String.toList_ofList, List.getLast?_append] at h
      exact absurd h Bool.false_ne_true
    · exact absurd h (by decide)
    · exact ⟨c, offset, rfl⟩
  · rintro ⟨c, offset, rfl⟩
    exact Text.endsInDigit_append_toString _ offset

/-- A diagnostic that reads like that of an unexpected character moves like it. -/
theorem message_raise (h : fault.message = (unexpected c offset).message) (distance : Nat) :
    (fault.raise distance).message = (unexpected c (offset + distance)).message := by
  obtain ⟨c', offset', rfl⟩ : ∃ c' offset', fault = .unexpected c' offset' := by
    rw [← endsInDigit_message_iff, h, endsInDigit_message_iff]
    exact ⟨c, offset, rfl⟩
  obtain ⟨words, hwords⟩ := exists_message_unexpected c
  obtain ⟨words', hwords'⟩ := exists_message_unexpected c'
  rw [hwords, hwords'] at h
  obtain ⟨rfl, rfl⟩ := Text.append_toString_inj h
  rw [raise, hwords, hwords']

/-- All other diagnostics stay as they are. -/
theorem message_raise_of_ne (h : ∀ c offset, fault.message ≠ (unexpected c offset).message)
    (distance : Nat) : (fault.raise distance).message = fault.message := by
  rcases fault with _ | _ | _ | ⟨c, offset⟩
  case unexpected => exact absurd rfl (h c offset)
  all_goals rfl

end LexicalFault

/-! ## Tokens further on -/

namespace Token

/-- A token, and the same when its text stands further on by some distance. -/
structure Raised (distance : Nat) (t u : Token) : Prop where
  kind_eq : u.kind = t.kind
  span_eq : u.span = t.span.raise distance
  /-- The diagnostic of an unexpected character tells its offset, which moves with the token. -/
  told : ∀ c offset, t.kind = .illegal → t.text = (LexicalFault.unexpected c offset).message →
    u.text = (LexicalFault.unexpected c (offset + distance)).message
  /-- All other texts and diagnostics stay as they are. -/
  other : (∀ c offset, t.kind = .illegal →
    t.text ≠ (LexicalFault.unexpected c offset).message) → u.text = t.text

variable {distance offset : Nat} {piece rest text : List Char} {t : Token}

theorem raised_mapSpan (ht : t.kind ≠ .illegal) (distance : Nat) :
    t.Raised distance (t.mapSpan (Span.raise distance)) where
  kind_eq := rfl
  span_eq := rfl
  told _ _ hk := absurd hk ht
  other _ := rfl

theorem raised_illegal (fault : LexicalFault) (offset : Nat) (piece : List Char) (distance : Nat) :
    Raised distance (illegal fault offset piece)
      (illegal (fault.raise distance) (offset + distance) piece) where
  kind_eq := rfl
  span_eq := by
    simp only [illegal, Span.raise, Span.mk.injEq, true_and]
    omega
  told _ _ _ h := LexicalFault.message_raise h distance
  other h := LexicalFault.message_raise_of_ne (fun c offset => h c offset rfl) distance

/-- The same piece is read further on, as the token further on. -/
theorem Scans.exists_raised (h : Scans offset piece rest t) (distance : Nat) :
    ∃ u, Scans (offset + distance) piece rest u ∧ t.Raised distance u := by
  cases h with
  | @lexeme kind _ _ hl he =>
    have legal : (ofLexeme kind offset piece).kind ≠ .illegal := by
      rintro rfl
      exact Bool.noConfusion hl.isLast_eq_false
    exact ⟨_, .lexeme hl he, mapSpan_ofLexeme distance _ _ _ ▸ raised_mapSpan legal distance⟩
  | malformed hc hcs hm he => exact ⟨_, .malformed hc hcs hm he, raised_illegal _ _ _ distance⟩
  | unpaired hop hd => exact ⟨_, .unpaired hop hd, raised_illegal _ _ _ distance⟩
  | unexpectedEnd hop => exact ⟨_, .unexpectedEnd hop, raised_illegal _ _ _ distance⟩
  | unexpected hk hop hi hd => exact ⟨_, .unexpected hk hop hi hd, raised_illegal _ _ _ distance⟩

end Token

open Token (Raised)

/-- A text that stands further on has the tokens further on. -/
theorem forall₂_raised_tokensAt (offset distance : Nat) (text : List Char) :
    List.Forall₂ (Raised distance) (tokensAt offset text) (tokensAt (offset + distance) text) := by
  rcases blank_or_exists_scans offset text with hblank | ⟨gap, piece, rest, t, rfl, hgap, hhead, hs⟩
  · have moved : Raised distance (.atEnd (offset + byteLength text))
        (.atEnd (offset + byteLength text + distance)) :=
      Token.raised_mapSpan TokenKind.noConfusion distance
    rw [tokensAt_of_blank hblank, tokensAt_of_blank hblank, Nat.add_right_comm]
    exact .cons moved .nil
  · obtain ⟨u, hu, moved⟩ := hs.exists_raised distance
    rw [tokensAt_blank_append hgap, tokensAt_blank_append hgap, Nat.add_right_comm,
      hs.tokensAt_append hhead, hu.tokensAt_append hhead, moved.kind_eq]
    refine .cons moved ?_
    split
    · exact .nil
    · have shorter : rest.length < (gap ++ (piece ++ rest)).length := by
        have := List.length_pos_of_ne_nil hs.ne_nil
        simp only [List.length_append]
        omega
      rw [Nat.add_right_comm _ distance]
      exact forall₂_raised_tokensAt _ distance rest
termination_by text.length

/-! ## Where texts meet -/

/-- The last token of a text goes on in another: it ends where the text ends, and the first
    character of the other is one that goes on it. -/
def GrowsTogether (source source' : String) : Prop :=
  ∃ t ∈ tokenize source, t.span.stop = byteLength source.toList ∧
    ∃ c ∈ source'.toList.head?, t.kind.goesOn c = true

/-- The tokens of three texts, one after the other, are those of the first without its end, and
    those of the last, further on. -/
def ReadInTurn (source gap source' : String) : Prop :=
  ∃ ts, (tokenize source').Forall₂
      (Raised (byteLength source.toList + byteLength gap.toList)) ts ∧
    tokenize (source ++ gap ++ source') = (tokenize source).dropLast ++ ts

/-- What follows a spelling can be exchanged if no token that reaches to it goes on in it. -/
theorem Spelling.of_endsBefore {rest rest' text : List Char} {offset : Nat} {ts : List Token}
    (h : Spelling rest offset text ts)
    (hends : ∀ t ∈ ts, t.span.stop = offset + byteLength text → t.kind.EndsBefore rest') :
    Spelling rest' offset text ts := by
  induction h with
  | nil => exact .nil
  | @cons offset gap lexeme text kind ts hgap hl he _ ih =>
    rw [Text.add_byteLength_append, Text.add_byteLength_append] at hends
    obtain ⟨hfirst, hothers⟩ := List.forall_mem_cons.1 hends
    refine .cons hgap hl ?_ (ih hothers)
    -- only the last lexeme reaches to what follows
    cases text with
    | nil => exact hfirst rfl
    | cons c text => exact he

/-- A blank ends everything. -/
theorem TokenKind.endsBefore_of_blank {gap : List Char} (hgap : ∀ c ∈ gap, isBlank c = true)
    (hne : gap ≠ []) (rest : List Char) (kind : TokenKind) : kind.EndsBefore (gap ++ rest) := by
  intro c hc
  rw [List.head?_append_of_ne_nil _ hne] at hc
  exact goesOn_eq_false (isIdentifierPart_of_isBlank (hgap c (List.mem_of_mem_head? hc))) kind

theorem TokenKind.isLast_of_goesOn {kind : TokenKind} {c : Char} (h : kind.goesOn c = true) :
    kind.isLast = false := by
  cases kind <;> first | rfl | exact Bool.noConfusion h

/-- A lexeme that can be longer has no signs in it. -/
theorem Lexeme.isIdentifierPart_of_goesOn {kind : TokenKind} {lexeme : List Char} {c : Char}
    (h : Lexeme kind lexeme) (hc : kind.goesOn c = true) :
    ∀ d ∈ lexeme, isIdentifierPart d = true := by
  cases h with
  | sign hk =>
    rw [goesOn_of_signKind? hk] at hc
    exact absurd hc Bool.noConfusion
  | shift _ => exact absurd hc Bool.noConfusion
  | identifier hstart hparts =>
    exact List.forall_mem_cons.2 ⟨isIdentifierPart_of_isIdentifierStart hstart, hparts⟩
  | number hdigit hparts _ =>
    exact List.forall_mem_cons.2 ⟨isIdentifierPart_of_isNumberPart (isNumberPart_of_isDigit hdigit),
      fun d hd => isIdentifierPart_of_isNumberPart (hparts d hd)⟩

section Joined

variable {source gap source' : String}

/-- A token that reaches to an offset, in any text that begins with what stands before. -/
theorem exists_scans_of_stop {before after : List Char} {t : Token} {text : String}
    (htext : text.toList = before ++ after) (ht : t ∈ tokenize text) (hlast : t.kind.isLast = false)
    (hstop : t.span.stop = byteLength before) : ∃ start piece, before = start ++ piece ∧
      (∀ c ∈ piece.head?, isBlank c = false) ∧ Token.Scans (byteLength start) piece after t := by
  have divided : Divided 0 text.toList (tokenize text) := divided_tokensAt 0 text.toList
  rcases divided.exists_scans_of_mem ht with rfl | ⟨start, piece, rest, hparts, hhead, hs⟩
  · exact absurd hlast Bool.noConfusion
  · rw [Nat.zero_add] at hs
    rw [hs.span_eq, ← Text.byteLength_append] at hstop
    rw [htext, ← List.append_assoc] at hparts
    obtain ⟨rfl, rfl⟩ := Text.append_inj_byteLength hparts hstop.symm
    exact ⟨start, piece, rfl, hhead, hs⟩

/-- Nothing grows together with a text that ends in a sign or a blank. -/
theorem not_growsTogether_of_getLast
    (h : ∃ c ∈ source.toList.getLast?, c ∈ signs ∨ isBlank c = true) :
    ¬GrowsTogether source source' := by
  rintro ⟨t, ht, hstop, d, -, hd⟩
  obtain ⟨c, hc, hclass⟩ := h
  have hlast := TokenKind.isLast_of_goesOn hd
  obtain ⟨start, piece, hsource, hhead, hs⟩ :=
    exists_scans_of_stop (List.append_nil _).symm ht hlast hstop
  obtain ⟨hl, -, -⟩ := hs.of_isLast_eq_false hlast
  rw [hsource, List.getLast?_append, List.getLast?_eq_some_getLast hl.ne_nil] at hc
  cases hc
  have part := hl.isIdentifierPart_of_goesOn hd _ (List.getLast_mem hl.ne_nil)
  rcases hclass with hsign | hblank
  · rw [isIdentifierPart_of_mem_signs hsign] at part
    exact Bool.noConfusion part
  · rw [isIdentifierPart_of_isBlank hblank] at part
    exact Bool.noConfusion part

/-- Nothing grows together with a text that begins with a sign or a blank. -/
theorem not_growsTogether_of_head
    (h : ∃ c ∈ source'.toList.head?, c ∈ signs ∨ isBlank c = true) :
    ¬GrowsTogether source source' := by
  rintro ⟨t, -, -, d, hd, hgoes⟩
  obtain ⟨c, hc, hclass⟩ := h
  obtain rfl : c = d := Option.some.inj (hc.symm.trans hd)
  have none : isIdentifierPart c = false :=
    hclass.elim isIdentifierPart_of_mem_signs isIdentifierPart_of_isBlank
  rw [TokenKind.goesOn_eq_false none] at hgoes
  exact Bool.noConfusion hgoes

theorem dropLast_tokenize {ts : List Token} {last : Token} (h : tokenize source = ts ++ [last]) :
    (tokenize source).dropLast = ts := by
  rw [h, List.dropLast_concat]

/-- Texts are read in turn if there is a blank between them, or nothing grows together. -/
theorem readInTurn (hlegal : ∀ t ∈ tokenize source, t.kind ≠ .illegal)
    (hgap : ∀ c ∈ gap.toList, isBlank c = true)
    (h : gap ≠ "" ∨ ¬GrowsTogether source source') : ReadInTurn source gap source' := by
  obtain ⟨ts, text, gap₁, hsource, hgap₁, hspell, hts⟩ := exists_spelling_of_legal hlegal
  have blank : ∀ c ∈ gap₁ ++ gap.toList, isBlank c = true := fun c hc =>
    (List.mem_append.1 hc).elim (hgap₁ c) (hgap c)
  have ends : ∀ t ∈ ts, t.span.stop = 0 + byteLength text →
      t.kind.EndsBefore (gap₁ ++ gap.toList ++ source'.toList) := by
    intro t ht hstop
    by_cases hne : gap₁ ++ gap.toList = []
    · -- the texts meet where the token ends
      obtain ⟨rfl, hnil⟩ := List.append_eq_nil_iff.1 hne
      have apart := h.resolve_left (not_not_intro (String.toList_eq_nil_iff.1 hnil))
      rw [hnil]
      refine fun c hc => eq_false_of_ne_true fun hgoes => apart ⟨t, ?_, ?_, c, hc, hgoes⟩
      · rw [hts]
        exact List.mem_append_left _ ht
      · rw [hsource, List.append_nil, hstop, Nat.zero_add]
    · exact TokenKind.endsBefore_of_blank blank hne _ _
  have whole : (source ++ gap ++ source').toList =
      text ++ (gap₁ ++ gap.toList ++ source'.toList) := by
    rw [String.toList_append, String.toList_append, hsource]
    simp only [List.append_assoc]
  refine ⟨_, forall₂_raised_tokensAt 0 _ source'.toList, ?_⟩
  show tokensAt 0 (source ++ gap ++ source').toList = _
  rw [dropLast_tokenize hts, whole, (hspell.of_endsBefore ends).tokensAt_append,
    tokensAt_blank_append blank, hsource]
  simp only [Text.byteLength_append, Nat.add_assoc]

/-- Texts that grow together are not read in turn: a token of the first becomes longer. -/
theorem not_growsTogether_of_readInTurn (h : ReadInTurn source "" source') :
    ¬GrowsTogether source source' := by
  rintro ⟨t, ht, hstop, c, hc, hgoes⟩
  obtain ⟨ts, -, hts⟩ := h
  obtain ⟨legal, last, htokens, -, hlast⟩ := exists_tokensAt_eq_append 0 source.toList
  change tokenize source = legal ++ [last] at htokens
  rw [htokens] at ht
  have htlast := TokenKind.isLast_of_goesOn hgoes
  have among : t ∈ tokenize (source ++ "" ++ source') := by
    rw [hts, dropLast_tokenize htokens]
    refine List.mem_append_left _ ((List.mem_append.1 ht).resolve_right fun hmem => ?_)
    rw [List.mem_singleton.1 hmem, hlast] at htlast
    cases htlast
  have whole : (source ++ "" ++ source').toList = source.toList ++ source'.toList := by
    rw [String.append_empty, String.toList_append]
  obtain ⟨_, _, -, -, hs⟩ := exists_scans_of_stop whole among htlast hstop
  -- but no character goes on a token of a text
  rw [(hs.of_isLast_eq_false htlast).2.1 c hc] at hgoes
  cases hgoes

end Joined

/-- The tokens of texts that are put together are those of the first, which has no illegal token,
    and those of the last, which may be anything. This is so if there is a blank between them, and
    without one exactly if nothing grows together where they meet. So it is if one of them has a
    sign or a blank there. -/
theorem tokenize_append {source gap source' : String}
    (hlegal : ∀ t ∈ tokenize source, t.kind ≠ .illegal)
    (hgap : ∀ c ∈ gap.toList, isBlank c = true) :
    (ReadInTurn source gap source' ↔ gap ≠ "" ∨ ¬GrowsTogether source source') ∧
    ((∃ c ∈ source.toList.getLast?, c ∈ signs ∨ isBlank c = true) ∨
      (∃ c ∈ source'.toList.head?, c ∈ signs ∨ isBlank c = true) →
        ¬GrowsTogether source source') := by
  refine ⟨⟨fun h => ?_, readInTurn hlegal hgap⟩, fun h =>
    h.elim not_growsTogether_of_getLast not_growsTogether_of_head⟩
  by_cases hne : gap = ""
  · subst hne
    exact .inr (not_growsTogether_of_readInTurn h)
  · exact .inl hne

/-- An underscore goes on names and not on numbers. What is unexpected behind it is reported where
    it stands in the whole text. -/
theorem tokenize_append_underscore : (∀ t ∈ tokenize "é|1", t.kind ≠ .illegal) ∧
    ReadInTurn "é|1" "" "_$" ∧
    tokenize "_$" = [⟨.identifier, "_", ⟨0, 1⟩⟩, ⟨.illegal, "unexpected '$' at 1", ⟨1, 2⟩⟩] ∧
    tokenize "é|1_$" = [⟨.identifier, "é", ⟨0, 2⟩⟩, ⟨.binary .or, "|", ⟨2, 3⟩⟩,
      ⟨.number, "1", ⟨3, 4⟩⟩, ⟨.identifier, "_", ⟨4, 5⟩⟩,
      ⟨.illegal, "unexpected '$' at 5", ⟨5, 6⟩⟩] := by
  have legal : ∀ t ∈ tokenize "é|1", t.kind ≠ .illegal := by decide +kernel
  have apart : ¬GrowsTogether "é|1" "_$" := by
    have all : ∀ t ∈ tokenize "é|1", t.span.stop = 4 → t.kind.goesOn '_' = false := by
      decide +kernel
    rintro ⟨t, ht, hstop, c, hc, hgoes⟩
    obtain rfl : '_' = c := Option.some.inj hc
    rw [all t ht hstop] at hgoes
    cases hgoes
  exact ⟨legal, (tokenize_append legal (List.forall_mem_nil _)).1.2 (.inr apart),
    by decide +kernel, by decide +kernel⟩

end Bitwise
