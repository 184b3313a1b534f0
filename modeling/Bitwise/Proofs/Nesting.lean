import Bitwise.Proofs.Grammar
import Bitwise.Proofs.Spelling

/-!
# Nesting

How many parentheses are open at a point of a text: as many as have been opened before it and not
closed. Tokens are *nested within* a limit if no more are open at any token (`NestedWithin`). If
they are not, `tooDeep?` finds the first parenthesis that opens while as many are open as may be.

What a phrase of the grammar opens it also closes, so that phrases side by side do not add up. The
parentheses of a spelling are those of its tokens (`Spelling.filter_isParen`), so that nesting can
be seen from the characters of a text as well.
-/

namespace Bitwise

open Text (byteLength)
open Unicode (isBlank)

/-- How many parentheses are opened among some tokens. -/
def opened (ts : List Token) : Nat :=
  ts.countP fun t => t.kind = .openParen

/-- How many parentheses are closed among some tokens. -/
def closed (ts : List Token) : Nat :=
  ts.countP fun t => t.kind = .closeParen

/-- At no point are more parentheses open than the limit. -/
def NestedWithin (limit : Nat) (ts : List Token) : Prop :=
  ∀ read, read <+: ts → opened read ≤ closed read + limit

/-- The first parenthesis that opens when there is no room for one more group, given the room there
    is in the beginning. -/
def tooDeep? (room : Nat) : List Token → Option Span
  | [] => none
  | t :: ts =>
    if t.kind = .openParen then
      match room with
      | 0 => some t.span
      | room + 1 => tooDeep? room ts
    else if t.kind = .closeParen then tooDeep? (room + 1) ts
    else tooDeep? room ts

section Counts

variable {t : Token} {ts us : List Token} {room limit : Nat}

@[simp] theorem opened_append (ts us : List Token) : opened (ts ++ us) = opened ts + opened us :=
  List.countP_append

@[simp] theorem closed_append (ts us : List Token) : closed (ts ++ us) = closed ts + closed us :=
  List.countP_append

theorem opened_cons (t : Token) (ts : List Token) : opened (t :: ts) = opened [t] + opened ts :=
  opened_append [t] ts

theorem closed_cons (t : Token) (ts : List Token) : closed (t :: ts) = closed [t] + closed ts :=
  closed_append [t] ts

theorem opened_singleton (t : Token) : opened [t] = if t.kind = .openParen then 1 else 0 := by
  simp [opened, List.countP_cons]

theorem closed_singleton (t : Token) : closed [t] = if t.kind = .closeParen then 1 else 0 := by
  simp [closed, List.countP_cons]

/-- A token that is no parenthesis opens and closes nothing. -/
theorem opened_singleton_of_ne (h : t.kind ≠ .openParen) : opened [t] = 0 := by
  rw [opened_singleton, if_neg h]

theorem closed_singleton_of_ne (h : t.kind ≠ .closeParen) : closed [t] = 0 := by
  rw [closed_singleton, if_neg h]

@[simp] theorem opened_openParen (span : Span) : opened [.sign .openParen span] = 1 := rfl

@[simp] theorem closed_openParen (span : Span) : closed [.sign .openParen span] = 0 := rfl

@[simp] theorem opened_closeParen (span : Span) : opened [.sign .closeParen span] = 0 := rfl

@[simp] theorem closed_closeParen (span : Span) : closed [.sign .closeParen span] = 1 := rfl

/-! ## The first parenthesis too deep -/

theorem tooDeep?_zero (h : t.kind = .openParen) (ts : List Token) :
    tooDeep? 0 (t :: ts) = some t.span :=
  if_pos h

theorem tooDeep?_succ (h : t.kind = .openParen) (room : Nat) (ts : List Token) :
    tooDeep? (room + 1) (t :: ts) = tooDeep? room ts :=
  if_pos h

theorem tooDeep?_other (h : t.kind ≠ .openParen) (h' : t.kind ≠ .closeParen) (room : Nat)
    (ts : List Token) : tooDeep? room (t :: ts) = tooDeep? room ts :=
  (if_neg h).trans (if_neg h')

/-- A token opens one group too many, or it leaves the room that its parentheses make. -/
theorem tooDeep?_cons (room : Nat) (t : Token) :
    (t.kind = .openParen ∧ room = 0) ∨ ∃ room', room' + opened [t] = room + closed [t] ∧
      ∀ ts, tooDeep? room (t :: ts) = tooDeep? room' ts := by
  by_cases ho : t.kind = .openParen
  · have hc : t.kind ≠ .closeParen := by rw [ho]; exact TokenKind.noConfusion
    rw [opened_singleton, if_pos ho, closed_singleton_of_ne hc]
    cases room with
    | zero => exact .inl ⟨ho, rfl⟩
    | succ room => exact .inr ⟨room, rfl, tooDeep?_succ ho room⟩
  · rw [opened_singleton_of_ne ho, closed_singleton]
    by_cases hc : t.kind = .closeParen
    · exact .inr ⟨room + 1, by rw [if_pos hc], fun ts => (if_neg ho).trans (if_pos hc)⟩
    · exact .inr ⟨room, by rw [if_neg hc], tooDeep?_other ho hc room⟩

/-- Of two lists one after the other, the second has the room that the first leaves. -/
theorem tooDeep?_append {room' : Nat} (h : room' + opened ts = room + closed ts) :
    tooDeep? room (ts ++ us) = (tooDeep? room ts).or (tooDeep? room' us) := by
  induction ts generalizing room with
  | nil =>
    obtain rfl : room' = room := h
    rfl
  | cons t ts ih =>
    rw [List.cons_append]
    rcases tooDeep?_cons room t with ⟨ho, rfl⟩ | ⟨left, hleft, hcons⟩
    · rw [tooDeep?_zero ho, tooDeep?_zero ho, Option.some_or]
    · rw [opened_cons, closed_cons] at h
      rw [hcons, hcons]
      exact ih (by omega)

theorem nestedWithin_cons :
    NestedWithin room (t :: ts) ↔
      ∀ read, read <+: ts → opened [t] + opened read ≤ closed [t] + closed read + room := by
  constructor
  · intro h read hread
    have := h _ (List.cons_prefix_cons.2 ⟨rfl, hread⟩)
    rwa [opened_cons, closed_cons] at this
  · intro h read hread
    cases read with
    | nil => exact Nat.zero_le _
    | cons u read =>
      obtain ⟨rfl, htail⟩ := List.cons_prefix_cons.1 hread
      rw [opened_cons, closed_cons]
      exact h read htail

/-- No parenthesis is too deep exactly if the tokens are nested within the room there is. -/
theorem tooDeep?_eq_none_iff : tooDeep? room ts = none ↔ NestedWithin room ts := by
  induction ts generalizing room with
  | nil =>
    refine iff_of_true rfl fun read hread => ?_
    rw [List.prefix_nil.1 hread]
    exact Nat.zero_le _
  | cons t ts ih =>
    rw [nestedWithin_cons]
    rcases tooDeep?_cons room t with ⟨ho, rfl⟩ | ⟨left, hleft, hcons⟩
    · refine iff_of_false (by rw [tooDeep?_zero ho]; exact Option.some_ne_none _) fun h => ?_
      have := h [] List.nil_prefix
      rw [opened_singleton, if_pos ho,
        closed_singleton_of_ne (by rw [ho]; exact TokenKind.noConfusion)] at this
      exact absurd this (by decide)
    · rw [hcons, ih]
      refine forall₂_congr fun read _ => ?_
      omega

/-- The parenthesis that is found opens when all the room is taken, and no one before it does. -/
theorem exists_of_tooDeep?_eq_some {span : Span} (h : tooDeep? room ts = some span) :
    ∃ before t after, ts = before ++ t :: after ∧ t.kind = .openParen ∧ t.span = span ∧
      opened before = closed before + room ∧ NestedWithin room before := by
  induction ts generalizing room with
  | nil => cases h
  | cons t ts ih =>
    rcases tooDeep?_cons room t with ⟨ho, rfl⟩ | ⟨left, hleft, hcons⟩
    -- the first token is the one, or the room it leaves is that of the others
    · rw [tooDeep?_zero ho, Option.some.injEq] at h
      exact ⟨[], t, ts, rfl, ho, h, rfl, tooDeep?_eq_none_iff.1 rfl⟩
    · rw [hcons] at h
      obtain ⟨before, u, after, rfl, hu, hspan, hfull, hnested⟩ := ih h
      refine ⟨t :: before, u, after, rfl, hu, hspan, ?_, ?_⟩
      · rw [opened_cons, closed_cons]
        omega
      · rwa [← tooDeep?_eq_none_iff, hcons, tooDeep?_eq_none_iff]

/-- Nesting is decided token by token. -/
theorem nestedWithin_concat :
    NestedWithin limit (ts ++ [t]) ↔
      NestedWithin limit ts ∧ opened (ts ++ [t]) ≤ closed (ts ++ [t]) + limit := by
  simp only [NestedWithin, List.prefix_concat_iff, forall_eq_or_imp]
  exact and_comm

end Counts

/-! ## Phrases of the grammar -/

namespace Grammar

mutual

/-- A statement closes as many parentheses as it opens. -/
theorem Statement.opened_eq_closed : (s : Statement) → opened s.tokens = closed s.tokens
  | .assign name place equal value => by
    rw [Statement.tokens, opened_cons, closed_cons, opened_cons (.sign .equal equal),
      closed_cons (.sign .equal equal), value.opened_eq_closed]
    rfl
  | .chain value => value.opened_eq_closed

theorem Chain.opened_eq_closed : (c : Chain) → opened c.tokens = closed c.tokens
  | .single operand => operand.opened_eq_closed
  | .link left op place right => by
    rw [Chain.tokens, opened_append, closed_append, opened_cons, closed_cons,
      left.opened_eq_closed, right.opened_eq_closed]
    rfl

theorem Operand.opened_eq_closed : (o : Operand) → opened o.tokens = closed o.tokens
  | .group paren body close => by
    rw [Operand.tokens, opened_cons, closed_cons, opened_append, closed_append,
      body.opened_eq_closed, opened_openParen, closed_openParen, opened_closeParen,
      closed_closeParen]
    omega
  | .complement _ _ _ => rfl
  | .name _ _ => rfl
  | .number _ _ => rfl

end

end Grammar

/-! ## Parentheses as characters -/

/-- Whether a character is a parenthesis. -/
def isParen (c : Char) : Bool :=
  c == '(' || c == ')'

/-- The parenthesis that a token is. -/
def Token.paren? (t : Token) : Option Char :=
  match t.kind with
  | .openParen => some '('
  | .closeParen => some ')'
  | _ => none

/-- At no point of a text are more parentheses open than the limit. -/
def Text.NestedWithin (limit : Nat) (cs : List Char) : Prop :=
  ∀ read, read <+: cs → read.count '(' ≤ read.count ')' + limit

/-- A text closes as many parentheses as it opens. -/
def Text.Balanced (cs : List Char) : Prop :=
  cs.count '(' = cs.count ')'

theorem count_filter_isParen (cs : List Char) :
    (cs.filter isParen).count '(' = cs.count '(' ∧ (cs.filter isParen).count ')' = cs.count ')' :=
  ⟨List.count_filter rfl, List.count_filter rfl⟩

theorem count_filterMap_paren? (ts : List Token) :
    (ts.filterMap Token.paren?).count '(' = opened ts ∧
      (ts.filterMap Token.paren?).count ')' = closed ts := by
  induction ts with
  | nil => exact ⟨rfl, rfl⟩
  | cons t ts ih =>
    rw [opened_cons, closed_cons, opened_singleton, closed_singleton, ← ih.1, ← ih.2,
      List.filterMap_cons]
    obtain ⟨kind, text, span⟩ := t
    cases kind <;> simp [Token.paren?, Nat.add_comm]

/-- What holds of the parentheses opened and closed at every point of a text can be told from its
    parentheses alone. -/
theorem Text.forall_prefix_filter {p : Nat → Nat → Prop} {cs : List Char} :
    (∀ read, read <+: cs.filter isParen → p (read.count '(') (read.count ')')) ↔
      ∀ read, read <+: cs → p (read.count '(') (read.count ')') := by
  constructor
  · intro h read hread
    have := h _ (hread.filter isParen)
    rwa [(count_filter_isParen read).1, (count_filter_isParen read).2] at this
  · intro h read hread
    obtain ⟨cs', hcs', rfl⟩ := List.prefix_filter_iff.1 hread
    rw [(count_filter_isParen cs').1, (count_filter_isParen cs').2]
    exact h cs' hcs'

/-- Only the parentheses of a text matter for its nesting. -/
theorem Text.nestedWithin_filter {limit : Nat} {cs : List Char} :
    Text.NestedWithin limit (cs.filter isParen) ↔ Text.NestedWithin limit cs :=
  forall_prefix_filter (p := fun o c => o ≤ c + limit)

/-- Texts with the same parentheses are nested alike. -/
theorem Text.nestedWithin_congr {limit : Nat} {cs ds : List Char}
    (h : cs.filter isParen = ds.filter isParen) :
    Text.NestedWithin limit cs ↔ Text.NestedWithin limit ds := by
  rw [← nestedWithin_filter, h, nestedWithin_filter]

/-- A text is not nested more deeply than it has parentheses. -/
theorem Text.nestedWithin_of_count_le {limit : Nat} {cs : List Char} (h : cs.count '(' ≤ limit) :
    Text.NestedWithin limit cs := by
  intro read hread
  have fewer : read.count '(' ≤ cs.count '(' := hread.sublist.count_le '('
  omega

/-- A text without parentheses is not nested at all. -/
theorem Text.nestedWithin_of_filter_eq_nil {limit : Nat} {cs : List Char}
    (h : cs.filter isParen = []) : Text.NestedWithin limit cs := by
  rw [← nestedWithin_filter, h]
  exact nestedWithin_of_count_le (Nat.zero_le limit)

/-- Of two texts one after the other, the second is nested as it is alone, if the first closes what
    it opens. -/
theorem Text.nestedWithin_append {limit : Nat} {cs : List Char} (h : Text.Balanced cs)
    (ds : List Char) : Text.NestedWithin limit (cs ++ ds) ↔
      Text.NestedWithin limit cs ∧ Text.NestedWithin limit ds := by
  rw [Balanced] at h
  constructor
  · intro hall
    refine ⟨fun read hread => hall read (hread.trans (List.prefix_append cs ds)),
      fun read hread => ?_⟩
    have := hall (cs ++ read) ((List.prefix_append_right_inj cs).2 hread)
    rw [List.count_append, List.count_append] at this
    omega
  · rintro ⟨hcs, hds⟩ read hread
    rcases List.prefix_or_prefix_of_prefix hread (List.prefix_append cs ds) with
      inside | ⟨tail, rfl⟩
    · exact hcs read inside
    · have := hds tail ((List.prefix_append_right_inj cs).1 hread)
      rw [List.count_append, List.count_append]
      omega

/-- Parentheses around a text take up one level of nesting. -/
theorem Text.nestedWithin_group {limit : Nat} {cs : List Char} :
    Text.NestedWithin (limit + 1) ('(' :: (cs ++ [')'])) ↔ Text.NestedWithin limit cs := by
  have deeper : ∀ read : List Char, ('(' :: read).count '(' = read.count '(' + 1 ∧
      ('(' :: read).count ')' = read.count ')' :=
    fun read => ⟨List.count_cons_self, List.count_cons_of_ne (by decide)⟩
  constructor
  · intro h read hread
    have := h ('(' :: read)
      (List.cons_prefix_cons.2 ⟨rfl, hread.trans (List.prefix_append cs [')'])⟩)
    rw [(deeper read).1, (deeper read).2] at this
    omega
  · intro h read hread
    cases read with
    | nil => exact Nat.zero_le _
    | cons c read =>
      obtain ⟨rfl, htail⟩ := List.cons_prefix_cons.1 hread
      rw [(deeper read).1, (deeper read).2]
      rcases List.prefix_concat_iff.1 htail with rfl | inside
      · -- the last parenthesis opens nothing
        have closes : [')'].count '(' = 0 := rfl
        have := h cs List.prefix_rfl
        rw [List.count_append, List.count_append]
        omega
      · have := h read inside
        omega

theorem forall_prefix_filterMap {p : Nat → Nat → Prop} {ts : List Token} :
    (∀ read, read <+: ts.filterMap Token.paren? → p (read.count '(') (read.count ')')) ↔
      ∀ read, read <+: ts → p (opened read) (closed read) := by
  constructor
  · intro h read hread
    have := h _ (hread.filterMap Token.paren?)
    rwa [(count_filterMap_paren? read).1, (count_filterMap_paren? read).2] at this
  · intro h read hread
    obtain ⟨ts', hts', rfl⟩ := List.prefix_filterMap_iff.1 hread
    rw [(count_filterMap_paren? ts').1, (count_filterMap_paren? ts').2]
    exact h ts' hts'

/-- A text whose parentheses are those of some tokens opens and closes what they open and close, at
    every point. -/
theorem forall_prefix_iff_of_filter {p : Nat → Nat → Prop} {text : List Char} {ts : List Token}
    (h : text.filter isParen = ts.filterMap Token.paren?) :
    (∀ read, read <+: text → p (read.count '(') (read.count ')')) ↔
      ∀ read, read <+: ts → p (opened read) (closed read) := by
  rw [← Text.forall_prefix_filter, h, forall_prefix_filterMap]

/-- Blanks are no parentheses. -/
theorem filter_isParen_of_blank {gap : List Char} (h : ∀ c ∈ gap, isBlank c = true) :
    gap.filter isParen = [] := by
  rw [List.filter_eq_nil_iff]
  intro c hc hp
  rw [isParen, Bool.or_eq_true, beq_iff_eq, beq_iff_eq] at hp
  have blank := h c hc
  rcases hp with rfl | rfl <;> exact absurd blank (by decide)

theorem filter_isParen_symbol (op : BinaryOperator) :
    op.symbol.toList.filter isParen = [] := by
  cases op <;> rfl

theorem filter_isParen_of_identifierPart {cs : List Char}
    (h : ∀ c ∈ cs, isIdentifierPart c = true) : cs.filter isParen = [] := by
  rw [List.filter_eq_nil_iff]
  intro c hc hp
  rw [isParen, Bool.or_eq_true, beq_iff_eq, beq_iff_eq] at hp
  have part := h c hc
  rcases hp with rfl | rfl <;> exact absurd part (by decide +kernel)

/-- Two texts are nested on both sides of an operator as each is alone, if the first closes what it
    opens. -/
theorem Text.nestedWithin_link {limit : Nat} {left gap gap' : List Char} (op : BinaryOperator)
    (hleft : Text.Balanced left) (hgap : ∀ c ∈ gap, isBlank c = true)
    (hgap' : ∀ c ∈ gap', isBlank c = true) (right : List Char) :
    Text.NestedWithin limit (left ++ (gap ++ (op.symbol.toList ++ (gap' ++ right)))) ↔
      Text.NestedWithin limit left ∧ Text.NestedWithin limit right := by
  have parens : (left ++ (gap ++ (op.symbol.toList ++ (gap' ++ right)))).filter isParen =
      (left ++ right).filter isParen := by
    simp only [List.filter_append, filter_isParen_of_blank hgap, filter_isParen_of_blank hgap',
      filter_isParen_symbol, List.nil_append]
  rw [nestedWithin_congr parens, nestedWithin_append hleft]

/-- A parenthesis in a lexeme is all of it. -/
theorem Lexeme.filter_isParen {kind : TokenKind} {lexeme : List Char} (h : Lexeme kind lexeme)
    (offset : Nat) :
    lexeme.filter isParen = (Token.ofLexeme kind offset lexeme).paren?.toList := by
  cases h with
  | @sign c kind h =>
    rw [signKind?.eq_def] at h
    split at h <;> cases h <;> rfl
  | @shift c op h =>
    rw [shift?.eq_def] at h
    split at h <;> cases h <;> rfl
  | identifier hc hcs =>
    exact filter_isParen_of_identifierPart
      (List.forall_mem_cons.2 ⟨isIdentifierPart_of_isIdentifierStart hc, hcs⟩)
  | number hc hcs _ =>
    exact filter_isParen_of_identifierPart (List.forall_mem_cons.2
      ⟨isIdentifierPart_of_isNumberPart (isNumberPart_of_isDigit hc),
        fun d hd => isIdentifierPart_of_isNumberPart (hcs d hd)⟩)

/-- The parentheses of a spelling are those of its tokens. -/
theorem Spelling.filter_isParen {rest text : List Char} {offset : Nat} {ts : List Token}
    (h : Spelling rest offset text ts) : text.filter isParen = ts.filterMap Token.paren? := by
  induction h with
  | nil => rfl
  | @cons offset gap lexeme text kind ts hgap hl _ _ ih =>
    rw [List.filter_append, List.filter_append, filter_isParen_of_blank hgap,
      hl.filter_isParen (offset + byteLength gap), ih, List.nil_append, List.filterMap_cons]
    cases (Token.ofLexeme kind (offset + byteLength gap) lexeme).paren? <;> rfl

/-- Blanks after a spelling add no parentheses. -/
theorem Spelling.filter_isParen_append {rest text gap : List Char} {offset : Nat} {ts : List Token}
    (h : Spelling rest offset text ts) (hgap : ∀ c ∈ gap, isBlank c = true) :
    (text ++ gap).filter isParen = ts.filterMap Token.paren? := by
  rw [List.filter_append, filter_isParen_of_blank hgap, List.append_nil, h.filter_isParen]

theorem nestedWithin_iff_of_filter {limit : Nat} {text : List Char} {ts : List Token}
    (h : text.filter isParen = ts.filterMap Token.paren?) :
    Text.NestedWithin limit text ↔ NestedWithin limit ts :=
  forall_prefix_iff_of_filter h (p := fun o c => o ≤ c + limit)

theorem Spelling.nestedWithin_iff {rest text : List Char} {offset limit : Nat} {ts : List Token}
    (h : Spelling rest offset text ts) : Text.NestedWithin limit text ↔ NestedWithin limit ts :=
  nestedWithin_iff_of_filter h.filter_isParen

/-- A text is balanced if its tokens close what they open. -/
theorem balanced_of_filter {text : List Char} {ts : List Token}
    (h : text.filter isParen = ts.filterMap Token.paren?) (hts : opened ts = closed ts) :
    Text.Balanced text := by
  rw [Text.Balanced, ← (count_filter_isParen text).1, ← (count_filter_isParen text).2, h,
    (count_filterMap_paren? ts).1, (count_filterMap_paren? ts).2, hts]

theorem Lexeme.eq_openParen {kind : TokenKind} {lexeme : List Char} (h : Lexeme kind lexeme)
    (hk : kind = .openParen) : lexeme = ['('] := by
  cases h with
  | @sign c kind h =>
    subst hk
    rw [signKind?.eq_def] at h
    split at h <;> first | rfl | cases h
  | _ => cases hk

/-- Where an opening parenthesis stands in a text, and the parentheses before it. -/
theorem Spelling.exists_openParen {rest text : List Char} {offset : Nat} {before after : List Token}
    {t : Token} (h : Spelling rest offset text (before ++ t :: after)) (ht : t.kind = .openParen) :
    ∃ text₁ text₂, text = text₁ ++ '(' :: text₂ ∧
      t.span = ⟨offset + byteLength text₁, offset + byteLength text₁ + 1⟩ ∧
      text₁.filter isParen = before.filterMap Token.paren? := by
  obtain ⟨text₁, _, rfl, hbefore, h⟩ := h.exists_append
  cases h with
  | @cons _ gap lexeme text₂ kind _ hgap hl _ _ =>
    obtain rfl := hl.eq_openParen ht
    refine ⟨text₁ ++ gap, text₂, by simp, ?_, ?_⟩
    · rw [Text.add_byteLength_append]
      rfl
    · rw [List.filter_append, filter_isParen_of_blank hgap, List.append_nil, hbefore.filter_isParen]

end Bitwise
