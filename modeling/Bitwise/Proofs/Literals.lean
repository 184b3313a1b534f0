import Bitwise.Proofs.DescentRun
import Bitwise.Proofs.DigitByDigit
import Bitwise.Proofs.Partition
import Bitwise.Proofs.Printing
import Mathlib.Data.List.Forall2

/-!
# What number literals mean

A token for a number is written in a radix: the lead that announces the radix, and one or more of
its digits, as many as one likes and with any number of zeros in front (`Numeral.Written`). All
texts that are written so are tokens. What a token stands for is the positional value of its digits.

Where the parser has to read an operand or the number after the sign `~`, it reads the literal of
this value if a signed 64-bit integer can hold it, and gives up at the token if not. Nothing else
can be wrong with the digits: their conversion finds them too great or succeeds
(`numbers_mean_their_value`).
-/

namespace Bitwise

open Grammar (Statement Chain Operand literalValue)
open Text (byteLength)

/-! ## How numbers are written -/

/-- What stands before the digits of a literal. -/
def Radix.lead : Radix → List Char
  | .decimal => []
  | .binary => ['0', 'b']
  | .hexadecimal => ['0', 'x']

namespace Numeral

/-- The positional value of digits of a radix: each of them times a power of the base. -/
def positional (radix : Radix) (digits : List Char) : Nat :=
  Nat.ofDigits radix.base (digits.reverse.map digitValue)

/-- A text is written in a radix with some digits. -/
structure Written (text : List Char) (radix : Radix) (digits : List Char) : Prop where
  eq : text = radix.lead ++ digits
  ne_nil : digits ≠ []
  isDigit : ∀ c ∈ digits, radix.isDigit c = true

variable {text digits : List Char} {radix : Radix}

theorem lead_append_split (text : List Char) : (split text).1.lead ++ (split text).2 = text := by
  rw [split.eq_def]
  split <;> rfl

theorem written_of_malformation?_eq_none (h : malformation? text = none) :
    Written text (split text).1 (split text).2 :=
  ⟨(lead_append_split text).symm, (digits_of_malformation?_eq_none h).1,
    (digits_of_malformation?_eq_none h).2⟩

namespace Written

/-- A text that is written in a radix is split into its lead and its digits. -/
theorem split_eq (h : Written text radix digits) : split text = (radix, digits) := by
  rw [h.eq]
  cases radix with
  | decimal => exact split_of_isDigit h.isDigit
  | binary | hexadecimal => rfl

theorem value_eq (h : Written text radix digits) : value text = positional radix digits := by
  rw [value, h.split_eq]
  exact ofDigits_eq radix.base digits

theorem malformation?_eq_none (h : Written text radix digits) : malformation? text = none :=
  malformation?_of_split h.split_eq h.ne_nil h.isDigit

/-- What is written in a radix is a token. -/
theorem lexeme (h : Written text radix digits) : Lexeme .number text := by
  have parts : ∀ c ∈ digits, isNumberPart c = true := fun c hc =>
    isNumberPart_of_radix (h.isDigit c hc)
  have wellFormed := h.malformation?_eq_none
  obtain ⟨rfl, hne, hdigits⟩ := h
  cases radix with
  | decimal =>
    obtain ⟨c, cs, rfl⟩ := List.exists_cons_of_ne_nil hne
    exact .number (hdigits c List.mem_cons_self)
      (fun d hd => parts d (List.mem_cons_of_mem c hd)) wellFormed
  | binary =>
    exact .number rfl (List.forall_mem_cons.2 ⟨by decide +kernel, parts⟩) wellFormed
  | hexadecimal =>
    exact .number rfl (List.forall_mem_cons.2 ⟨by decide +kernel, parts⟩) wellFormed

/-- A value that is in range is the one that is held. -/
theorem exists_toInt64?_eq_some (h : Written text radix digits)
    (hvalue : positional radix digits ≤ 2 ^ 63 - 1) :
    ∃ value, toInt64? text = some value ∧ value.toInt = positional radix digits := by
  have inRange : positional radix digits < 2 ^ 63 := by omega
  refine ⟨Int64.ofNat (positional radix digits), ?_, Int64.toInt_ofNat_of_lt inRange⟩
  rw [toInt64?, h.value_eq]
  exact if_pos inRange

theorem toInt64?_eq_none (h : Written text radix digits)
    (hvalue : 2 ^ 63 - 1 < positional radix digits) : toInt64? text = none := by
  have outOfRange : ¬positional radix digits < 2 ^ 63 := by omega
  rw [toInt64?, h.value_eq]
  exact if_neg outOfRange

/-- The digits are converted to their value, or found too great. -/
theorem ofText_eq (h : Written text radix digits) :
    Conversion.ofText radix.base digits =
      if positional radix digits ≤ 2 ^ 63 - 1 then .ok (Int64.ofNat (positional radix digits))
      else .error .positiveOverflow := by
  have bound : positional radix digits < 2 ^ 63 ↔ positional radix digits ≤ 2 ^ 63 - 1 := by omega
  rw [Conversion.ofText_eq h.ne_nil h.isDigit, ofDigits_eq]
  exact if_congr bound rfl rfl

end Written

end Numeral

/-! ## Numbers of a text -/

section Tokens

variable {source : String} {before after : List Token} {t : Token} {radix : Radix}
  {digits : List Char} {p : Parser} {pending : Pending} {tilde : Span}

/-- The text of a number among the tokens is a lexeme. -/
theorem lexeme_of_mem_tokenize (ht : t ∈ tokenize source) (hk : t.kind = .number) :
    Lexeme .number t.text.toList := by
  rcases (divided_tokensAt 0 source.toList).exists_scans_of_mem ht with
    rfl | ⟨_, piece, _, -, -, hs⟩
  · cases hk
  · obtain ⟨hl, -, heq⟩ := hs.of_isLast_eq_false (by rw [hk]; rfl)
    rw [hk] at hl
    rwa [heq, Token.ofLexeme, String.toList_ofList]

/-- A text that is written in a radix has no token but the number. -/
theorem tokenize_of_written (h : Numeral.Written source.toList radix digits) :
    tokenize source = [⟨.number, source, ⟨0, byteLength source.toList⟩⟩,
      .atEnd (byteLength source.toList)] := by
  have ends : TokenKind.number.EndsBefore [] := fun _ hc => absurd hc (Option.not_mem_none _)
  have spelled : Spelling [] 0 source.toList _ := .singleton h.lexeme ends
  have whole : source.toList = source.toList ++ [] := (List.append_nil _).symm
  rw [tokenize_of_spelling whole (List.forall_mem_nil _) spelled]
  simp [Token.ofLexeme]

/-- A number that is in range is read where an operand may begin. -/
theorem exists_feed_operand (h : Numeral.Written t.text.toList radix digits)
    (hk : t.kind = .number) (hp : p.progress.pending? = some pending)
    (hvalue : Numeral.positional radix digits ≤ 2 ^ 63 - 1) :
    ∃ value : Int64, value.toInt = Numeral.positional radix digits ∧
      p.feed t = .ok ⟨p.groups, pending.fill (.literal value t.span)⟩ := by
  obtain ⟨value, hread, heq⟩ := h.exists_toInt64?_eq_some hvalue
  exact ⟨value, heq, (Parser.Step.literal hp hk hread).feed_eq⟩

/-- A number that is in range is read after the sign `~`. -/
theorem exists_feed_number (h : Numeral.Written t.text.toList radix digits)
    (hk : t.kind = .number) (hp : p.progress = .number pending tilde)
    (hvalue : Numeral.positional radix digits ≤ 2 ^ 63 - 1) :
    ∃ value : Int64, value.toInt = Numeral.positional radix digits ∧
      p.feed t = .ok ⟨p.groups,
        pending.fill (.complement (.literal value t.span) (tilde.cover t.span))⟩ := by
  obtain ⟨groups, progress⟩ := p
  subst hp
  obtain ⟨value, hread, heq⟩ := h.exists_toInt64?_eq_some hvalue
  exact ⟨value, heq, (Parser.Step.complement hk hread).feed_eq⟩

/-- A number that is not in range is at fault wherever it could be read. -/
theorem feed_numberTooLarge (h : Numeral.Written t.text.toList radix digits)
    (hk : t.kind = .number) (hp : p.progress.expected = .number)
    (hvalue : 2 ^ 63 - 1 < Numeral.positional radix digits) :
    p.feed t = .error (.numberTooLarge t.text t.span) := by
  have literal : t.literal = .error (.numberTooLarge t.text t.span) := by
    rw [Token.literal, h.toInt64?_eq_none hvalue]
  have operand (groups : List Group) (pending : Pending) :
      Parser.feedOperand groups pending t = .error (.numberTooLarge t.text t.span) := by
    rw [Parser.feedOperand.eq_def, hk]
    simp only [literal, Except.map]
  obtain ⟨groups, progress⟩ := p
  cases progress with
  | start =>
    rw [Parser.feed_eq_feedOperand rfl (by rw [hk]; exact TokenKind.noConfusion)]
    exact operand groups .fresh
  | operand pending => exact operand groups pending
  | number pending tilde =>
    show Parser.feedNumber groups pending tilde t = _
    rw [Parser.feedNumber.eq_def, hk]
    simp only [literal, Except.map]
  | name _ | chain _ _ => cases hp

end Tokens

/-! ## Numbers of a tree -/

/-- The literals of a tree from left to right. -/
def Tree.literals {α : Type} : Tree α → List Int64
  | .literal value _ => [value]
  | .var _ _ => []
  | .complement operand _ => operand.literals
  | .binary _ left right _ => left.literals ++ right.literals
  | .assign _ value _ => value.literals

theorem Tree.literals_withMark {α : Type} (t : Tree α) (m : α) :
    (t.withMark m).literals = t.literals := by
  cases t <;> rfl

/-- The numbers among some tokens. -/
def numbers (ts : List Token) : List Token :=
  ts.filter fun t => t.kind = .number

theorem numbers_append (ts us : List Token) : numbers (ts ++ us) = numbers ts ++ numbers us :=
  List.filter_append ts us

theorem numbers_cons_of_ne {t : Token} (ht : t.kind ≠ .number) (ts : List Token) :
    numbers (t :: ts) = numbers ts :=
  List.filter_cons_of_neg (by simpa using ht)

namespace Grammar

mutual

/-- The literals of a tree are the numbers that are read, in their order. -/
theorem Statement.literals_tree : (s : Statement) →
    s.tree.literals = (numbers s.tokens).map fun t => literalValue t.text
  | .assign name place equal value => by
    rw [Statement.tokens, numbers_cons_of_ne TokenKind.noConfusion,
      numbers_cons_of_ne TokenKind.noConfusion]
    exact value.literals_tree
  | .chain value => value.literals_tree

theorem Chain.literals_tree : (c : Chain) →
    c.tree.literals = (numbers c.tokens).map fun t => literalValue t.text
  | .single operand => operand.literals_tree
  | .link left op place right => by
    rw [Chain.tokens, numbers_append, numbers_cons_of_ne TokenKind.noConfusion, List.map_append,
      ← left.literals_tree, ← right.literals_tree]
    rfl

theorem Operand.literals_tree : (o : Operand) →
    o.tree.literals = (numbers o.tokens).map fun t => literalValue t.text
  | .group paren body close => by
    rw [Operand.tree, Tree.literals_withMark, Operand.tokens,
      numbers_cons_of_ne TokenKind.noConfusion, numbers_append,
      numbers_cons_of_ne TokenKind.noConfusion, body.literals_tree]
    simp [numbers]
  | .complement _ _ _ => rfl
  | .name _ _ => rfl
  | .number _ _ => rfl

end

end Grammar

/-! ## What becomes of numbers -/

/-- What the numbers of a text are, and what becomes of them. -/
structure NumbersMeanTheirValue (source : String) : Prop where
  /-- The text of a number is written in digits of a radix. -/
  written : ∀ t ∈ tokenize source, t.kind = .number →
    ∃ radix digits, Numeral.Written t.text.toList radix digits
  /-- Digits of any radix, of any number, are one token. -/
  token : ∀ radix digits, Numeral.Written source.toList radix digits →
    tokenize source = [⟨.number, source, ⟨0, byteLength source.toList⟩⟩,
      .atEnd (byteLength source.toList)]
  /-- The conversion of the digits succeeds up to the greatest integer, and it fails with an
      overflow from there on. -/
  converted : ∀ t ∈ tokenize source, ∀ radix digits, t.kind = .number →
    Numeral.Written t.text.toList radix digits → Conversion.ofText radix.base digits =
      if Numeral.positional radix digits ≤ 2 ^ 63 - 1 then
        .ok (Int64.ofNat (Numeral.positional radix digits))
      else .error .positiveOverflow
  /-- Where an operand may begin, the literal of the value becomes the operand. -/
  bare : ∀ before t after radix digits p pending, tokenize source = before ++ t :: after →
    t.kind = .number → Numeral.Written t.text.toList radix digits →
    Parser.initial.feedAll before = .ok p → p.progress.pending? = some pending →
    Numeral.positional radix digits ≤ 2 ^ 63 - 1 →
      ∃ value : Int64, value.toInt = Numeral.positional radix digits ∧
        p.feed t = .ok ⟨p.groups, pending.fill (.literal value t.span)⟩
  /-- After the sign `~`, the complement of the literal becomes the operand. -/
  complement : ∀ before t after radix digits p pending tilde,
    tokenize source = before ++ t :: after → t.kind = .number →
    Numeral.Written t.text.toList radix digits → Parser.initial.feedAll before = .ok p →
    p.progress = .number pending tilde → Numeral.positional radix digits ≤ 2 ^ 63 - 1 →
      ∃ value : Int64, value.toInt = Numeral.positional radix digits ∧
        p.feed t = .ok ⟨p.groups,
          pending.fill (.complement (.literal value t.span) (tilde.cover t.span))⟩
  /-- At both places, a greater value is the error of the text. -/
  tooLarge : ∀ before t after radix digits p, tokenize source = before ++ t :: after →
    t.kind = .number → Numeral.Written t.text.toList radix digits →
    Parser.initial.feedAll before = .ok p → p.progress.expected = .number →
    2 ^ 63 - 1 < Numeral.positional radix digits →
      parse source = .error (.numberTooLarge t.text t.span) ∧
        Descent.parse source = some (.error (.invalidNumber t.text t.span .positiveOverflow))
  /-- The literals of a tree have the values of all numbers of the text, in their order. -/
  accepted : ∀ node, parse source = .ok node → List.Forall₂ (fun t (value : Int64) =>
    ∃ radix digits, Numeral.Written t.text.toList radix digits ∧
      value.toInt = Numeral.positional radix digits) (numbers (tokenize source)) node.literals
  /-- No number is at fault but for its value, and no conversion fails but by an overflow. -/
  rejected : ∀ text span reason,
    Descent.parse source = some (.error (.invalidNumber text span reason)) →
      reason = .positiveOverflow ∧ ∃ t ∈ tokenize source, t.kind = .number ∧ t.text = text ∧
        t.span = span ∧ ∀ radix digits, Numeral.Written t.text.toList radix digits →
          2 ^ 63 - 1 < Numeral.positional radix digits

variable {source : String} {node : Node}

/-- The literals of a tree have the values of the numbers of the text. -/
theorem forall₂_literals (h : parse source = .ok node) :
    List.Forall₂ (fun t (value : Int64) => ∃ radix digits,
      Numeral.Written t.text.toList radix digits ∧
        value.toInt = Numeral.positional radix digits)
      (numbers (tokenize source)) node.literals := by
  obtain ⟨s, derives, rfl⟩ := exists_derives_of_parse h
  obtain ⟨text, gap, hsource, hgap, spelled⟩ := derives.exists_spelling
  have noEnd : numbers (tokenize source) = numbers s.tokens := by
    rw [tokenize_of_spelling hsource hgap spelled, numbers_append]
    exact List.append_nil _
  rw [noEnd, s.literals_tree, List.forall₂_map_right_iff, List.forall₂_same]
  intro t ht
  obtain ⟨hmem, hk⟩ := List.mem_filter.1 ht
  have hnumber : t.kind = .number := by simpa using hk
  have lexeme := spelled.lexeme_of_mem t hmem
  rw [hnumber] at lexeme
  have written := Numeral.written_of_malformation?_eq_none lexeme.malformation?_eq_none
  refine ⟨_, _, written, ?_⟩
  have inRange := derives.admissible.inRange t hmem hnumber
  rw [literalValue, Int64.toInt_ofNat_of_lt inRange, written.value_eq]

/-- A number that is too great is a number of the text, and its value is. -/
theorem exists_of_numberTooLarge {text : String} {span : Span}
    (h : parse source = .error (.numberTooLarge text span)) :
    ∃ t ∈ tokenize source, t.kind = .number ∧ t.text = text ∧ t.span = span ∧
      ∀ radix digits, Numeral.Written t.text.toList radix digits →
        2 ^ 63 - 1 < Numeral.positional radix digits := by
  rcases exists_of_parse_eq_error h with ⟨before, after, t, p, hts, hp, he⟩ |
    ⟨before, p, hts, hp, hfinish⟩
  · rcases Parser.feed_error_cases he with he | ⟨-, -, he⟩ | ⟨-, hk, he⟩
    · rw [ParseError.unexpected] at he
      split at he <;> cases he
    · cases he
    · rw [Token.literal] at he
      split at he
      · cases he
      · next hnone =>
        cases he
        refine ⟨t, hts ▸ List.mem_append_right _ List.mem_cons_self, hk, rfl, rfl, ?_⟩
        intro radix digits written
        by_contra hvalue
        obtain ⟨value, hsome, -⟩ := written.exists_toInt64?_eq_some (Nat.not_lt.1 hvalue)
        rw [hsome] at hnone
        cases hnone
  · obtain ⟨_, he⟩ := Parser.exists_of_finish_eq_error hfinish
    cases he

/-- Every number of a text stands for the positional value of its digits, and it is rejected for
    nothing but being too great. -/
theorem numbers_mean_their_value (source : String) : NumbersMeanTheirValue source where
  written t ht hk :=
    ⟨_, _, Numeral.written_of_malformation?_eq_none
      (lexeme_of_mem_tokenize ht hk).malformation?_eq_none⟩
  token _ _ h := tokenize_of_written h
  converted _ _ _ _ _ h := h.ofText_eq
  bare _ _ _ _ _ _ _ _ hk h _ hp hvalue := exists_feed_operand h hk hp hvalue
  complement _ _ _ _ _ _ _ _ _ hk h _ hp hvalue := exists_feed_number h hk hp hvalue
  tooLarge before t after radix digits p hts hk h hp hexpected hvalue := by
    have hend : t.kind ≠ .endOfInput := by
      rw [hk]
      exact TokenKind.noConfusion
    have fails := parse_eq_error_of_feed hts hp hend (feed_numberTooLarge h hk hexpected hvalue)
    refine ⟨fails, ?_⟩
    rw [Descent.parse_eq, fails]
    rfl
  accepted _ h := forall₂_literals h
  rejected text span reason h := by
    obtain ⟨e, fails, hfailure⟩ := Descent.exists_of_parse_eq_error h
    cases e <;> cases hfailure
    exact ⟨rfl, exists_of_numberTooLarge fails⟩

/-- The least number that no integer can hold, with a zero in front, and the greatest that one can,
    after the sign `~`. -/
theorem numbers_mean_their_value_at_bound :
    parse "0x08000000000000000" = .error (.numberTooLarge "0x08000000000000000" ⟨0, 19⟩) ∧
      ∃ value : Int64, value.toInt = 2 ^ 63 - 1 ∧
        Parser.feed ⟨[], .number .fresh ⟨0, 1⟩⟩ ⟨.number, "0x7fffffffffffffff", ⟨1, 19⟩⟩ =
          .ok ⟨[], .chain none (.complement (.literal value ⟨1, 19⟩) ⟨0, 19⟩)⟩ := by
  constructor
  · have written : Numeral.Written "0x08000000000000000".toList .hexadecimal
        ('0' :: '8' :: List.replicate 15 '0') := ⟨rfl, List.cons_ne_nil _ _, by simp; decide⟩
    exact ((numbers_mean_their_value "0x08000000000000000").tooLarge []
      ⟨.number, "0x08000000000000000", ⟨0, 19⟩⟩ [.atEnd 19] _ _ .initial (by decide +kernel) rfl
      written rfl rfl (by decide +kernel)).1
  · have written : Numeral.Written "0x7fffffffffffffff".toList .hexadecimal
        ('7' :: List.replicate 15 'f') := ⟨rfl, List.cons_ne_nil _ _, by simp; decide⟩
    obtain ⟨value, hvalue, hfeed⟩ := (numbers_mean_their_value "~0x7fffffffffffffff").complement
      [⟨.tilde, "~", ⟨0, 1⟩⟩] ⟨.number, "0x7fffffffffffffff", ⟨1, 19⟩⟩ [.atEnd 19] _ _
      ⟨[], .number .fresh ⟨0, 1⟩⟩ _ _ (by decide +kernel) rfl written rfl rfl (by decide +kernel)
    exact ⟨value, hvalue.trans (by decide +kernel), hfeed⟩

end Bitwise
