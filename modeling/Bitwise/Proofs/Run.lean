import Bitwise.Proofs.Spelling
import Bitwise.Parser

/-!
# Runs of the parser

What one token does to a parser is listed once (`Parser.Step`, `Parser.feed_eq_ok_iff`): which
state takes which token, under which condition, and what comes of it. All invariants of runs are
derived from the list.

A run depends on the tokens of the text only (`Parser.run_eq_runTokens`). It reads some tokens
without a fault (`Parser.feedAll`), and then it ends, by a fault at the next token or by the end of
the text (`Parser.exists_of_runTokens`).
-/

namespace Bitwise

/-! ## One token -/

namespace Progress

/-- What waits for an operand, if the next token may begin one. -/
def pending? : Progress → Option Pending
  | .start => some .fresh
  | .operand pending => some pending
  | _ => none

/-- The progress with a name that is held read as a variable, which it is unless an equals sign
    follows. -/
def settle : Progress → Progress
  | .name held => .chain none (.var held.text held.span)
  | progress => progress

end Progress

namespace Parser

/-- The steps of a parser: its state, the token that it reads, and the state afterwards. -/
inductive Step : Parser → Token → Parser → Prop
  | name {groups : List Group} {t : Token} :
    t.kind = .identifier → Step ⟨groups, .start⟩ t ⟨groups, .name t⟩
  | target {groups : List Group} {held t : Token} : t.kind = .equal →
    Step ⟨groups, .name held⟩ t ⟨groups, .operand ⟨some ⟨held.text, held.span⟩, none⟩⟩
  | openGroup {p : Parser} {pending : Pending} {t : Token} :
    p.progress.pending? = some pending → t.kind = .openParen → p.groups.length ≠ maxNesting →
      Step p t ⟨⟨t.span, pending⟩ :: p.groups, .start⟩
  | tilde {p : Parser} {pending : Pending} {t : Token} :
    p.progress.pending? = some pending → t.kind = .tilde →
      Step p t ⟨p.groups, .number pending t.span⟩
  | var {groups : List Group} {pending : Pending} {t : Token} : t.kind = .identifier →
    Step ⟨groups, .operand pending⟩ t ⟨groups, pending.fill (.var t.text t.span)⟩
  | literal {p : Parser} {pending : Pending} {t : Token} {value : Int64} :
    p.progress.pending? = some pending → t.kind = .number →
      Numeral.toInt64? t.text.toList = some value →
      Step p t ⟨p.groups, pending.fill (.literal value t.span)⟩
  | complement {groups : List Group} {pending : Pending} {tilde : Span} {t : Token}
    {value : Int64} : t.kind = .number → Numeral.toInt64? t.text.toList = some value →
    Step ⟨groups, .number pending tilde⟩ t
      ⟨groups, pending.fill (.complement (.literal value t.span) (tilde.cover t.span))⟩
  | operator {p : Parser} {target : Option Target} {tree : Node} {t : Token}
    {op : BinaryOperator} : p.progress.settle = .chain target tree → t.kind = .binary op →
    Step p t ⟨p.groups, .operand ⟨target, some (tree, op)⟩⟩
  | closeGroup {p : Parser} {group : Group} {groups : List Group} {target : Option Target}
    {tree : Node} {t : Token} : p.progress.settle = .chain target tree → t.kind = .closeParen →
    p.groups = group :: groups →
    Step p t ⟨groups, group.outer.fill
      ((statementTree target tree).withMark (group.paren.cover t.span))⟩

variable {p q : Parser} {t : Token} {ts us : List Token} {e : ParseError}

/-- Where an operand may begin, a token is read as the beginning of one, but a name at the start of
    a statement is held. -/
theorem feed_eq_feedOperand {pending : Pending} (hp : p.progress.pending? = some pending)
    (ht : t.kind ≠ .identifier) : p.feed t = feedOperand p.groups pending t := by
  obtain ⟨groups, progress⟩ := p
  cases progress <;> cases hp
  · exact if_neg ht
  · rfl

/-- Where a chain may end, a token other than the equals sign is read as what follows one. -/
theorem feed_eq_feedChain {target : Option Target} {tree : Node}
    (hp : p.progress.settle = .chain target tree) (ht : t.kind ≠ .equal) :
    p.feed t = feedChain p.groups target tree t := by
  obtain ⟨groups, progress⟩ := p
  cases progress <;> cases hp
  · exact if_neg ht
  · rfl

theorem Step.feed_eq (h : Step p t q) : p.feed t = .ok q := by
  cases h with
  | name ht => exact if_pos ht
  | target ht => exact if_pos ht
  | openGroup hp ht hg =>
    rw [feed_eq_feedOperand hp (by rw [ht]; exact TokenKind.noConfusion), feedOperand.eq_def, ht]
    exact if_neg hg
  | tilde hp ht =>
    rw [feed_eq_feedOperand hp (by rw [ht]; exact TokenKind.noConfusion), feedOperand.eq_def, ht]
  | var ht =>
    show feedOperand _ _ _ = _
    rw [feedOperand.eq_def, ht]
  | literal hp ht hv =>
    rw [feed_eq_feedOperand hp (by rw [ht]; exact TokenKind.noConfusion), feedOperand.eq_def, ht]
    simp only [Token.literal, hv, Except.map]
  | complement ht hv =>
    show feedNumber _ _ _ _ = _
    rw [feedNumber.eq_def, ht]
    simp only [Token.literal, hv, Except.map, Tree.mark]
  | operator hp ht =>
    rw [feed_eq_feedChain hp (by rw [ht]; exact TokenKind.noConfusion), feedChain.eq_def, ht]
  | closeGroup hp ht hg =>
    rw [feed_eq_feedChain hp (by rw [ht]; exact TokenKind.noConfusion), feedChain.eq_def, ht, hg]

theorem step_of_feedOperand {pending : Pending} (hp : p.progress.pending? = some pending)
    (ht : t.kind ≠ .identifier) (h : feedOperand p.groups pending t = .ok q) : Step p t q := by
  rw [feedOperand.eq_def] at h
  split at h
  · next hk =>
    rw [Parser.openGroup] at h
    split at h
    · simp at h
    · next hg =>
      cases h
      exact .openGroup hp hk hg
  · next hk =>
    cases h
    exact .tilde hp hk
  · next hk => exact absurd hk ht
  · next hk =>
    rw [Token.literal] at h
    split at h
    · next hv =>
      cases h
      exact .literal hp hk hv
    · cases h
  · simp at h

theorem step_of_feedChain {target : Option Target} {tree : Node}
    (hp : p.progress.settle = .chain target tree)
    (h : feedChain p.groups target tree t = .ok q) : Step p t q := by
  rw [feedChain.eq_def] at h
  split at h
  · next hk =>
    cases h
    exact .operator hp hk
  · next hk hg =>
    cases h
    exact .closeGroup hp hk hg
  · simp at h

theorem step_of_feedNumber {groups : List Group} {pending : Pending} {tilde : Span}
    (h : feedNumber groups pending tilde t = .ok q) : Step ⟨groups, .number pending tilde⟩ t q := by
  rw [feedNumber.eq_def] at h
  split at h
  · next hk =>
    rw [Token.literal] at h
    split at h
    · next hv =>
      cases h
      exact .complement hk hv
    · cases h
  · simp at h

/-- What a parser does with a token depends on whether an operand may begin, a number has to come,
    or a chain may end, unless the token is a name or assigns to one. -/
theorem feed_cases (p : Parser) (t : Token) :
    (∃ q, Step p t q) ∨
    (∃ pending, p.progress.pending? = some pending ∧ t.kind ≠ .identifier ∧
      p.feed t = feedOperand p.groups pending t) ∨
    (∃ pending tilde, p.progress = .number pending tilde ∧
      p.feed t = feedNumber p.groups pending tilde t) ∨
    ∃ target tree, p.progress.settle = .chain target tree ∧
      p.feed t = feedChain p.groups target tree t := by
  obtain ⟨groups, progress⟩ := p
  cases progress with
  | start =>
    -- a name is held here, although an operand may begin
    by_cases ht : t.kind = .identifier
    · exact .inl ⟨_, .name ht⟩
    · exact .inr (.inl ⟨_, rfl, ht, feed_eq_feedOperand rfl ht⟩)
  | name held =>
    by_cases ht : t.kind = .equal
    · exact .inl ⟨_, .target ht⟩
    · exact .inr (.inr (.inr ⟨_, _, rfl, feed_eq_feedChain rfl ht⟩))
  | operand pending =>
    by_cases ht : t.kind = .identifier
    · exact .inl ⟨_, .var ht⟩
    · exact .inr (.inl ⟨_, rfl, ht, rfl⟩)
  | number pending tilde => exact .inr (.inr (.inl ⟨_, _, rfl, rfl⟩))
  | chain target tree => exact .inr (.inr (.inr ⟨_, _, rfl, rfl⟩))

/-- The steps are exactly what the parser does with a token. -/
theorem feed_eq_ok_iff : p.feed t = .ok q ↔ Step p t q := by
  refine ⟨fun h => ?_, Step.feed_eq⟩
  rcases feed_cases p t with ⟨r, step⟩ | ⟨pending, hp, ht, hfeed⟩ | ⟨pending, tilde, hp, hfeed⟩ |
    ⟨target, tree, hp, hfeed⟩
  · rw [step.feed_eq] at h
    exact Except.ok.inj h ▸ step
  · exact step_of_feedOperand hp ht (hfeed.symm.trans h)
  · obtain ⟨groups, progress⟩ := p
    subst hp
    exact step_of_feedNumber (hfeed.symm.trans h)
  · exact step_of_feedChain hp (hfeed.symm.trans h)

/-- A group is not opened if no more may be open. -/
theorem feed_tooDeep {pending : Pending} (hp : p.progress.pending? = some pending)
    (ht : t.kind = .openParen) (hg : p.groups.length = maxNesting) :
    p.feed t = .error (.tooDeep t.span) := by
  rw [feed_eq_feedOperand hp (by rw [ht]; exact TokenKind.noConfusion), feedOperand.eq_def, ht]
  exact if_pos hg

/-- No token after which nothing comes is ever read without a fault. -/
theorem Step.isLast_eq_false (h : Step p t q) : t.kind.isLast = false := by
  cases h with
  | name ht | target ht | var ht | complement ht _ => rw [ht]; rfl
  | openGroup _ ht _ | tilde _ ht | literal _ ht _ => rw [ht]; rfl
  | operator _ ht | closeGroup _ ht _ => rw [ht]; rfl

/-! ### Faults -/

theorem span?_unexpected (expected : Expected) (t : Token) :
    (ParseError.unexpected expected t).span? = some t.span := by
  rw [ParseError.unexpected]
  split <;> rfl

theorem span?_of_literal (h : t.literal = .error e) : e.span? = some t.span := by
  rw [Token.literal] at h
  split at h
  · simp at h
  · cases h
    rfl

theorem span?_of_literal_map {α : Type} {f : Node → α} (h : t.literal.map f = .error e) :
    e.span? = some t.span := by
  cases hl : t.literal with
  | ok node => rw [hl] at h; cases h
  | error e' =>
    rw [hl] at h
    cases h
    exact span?_of_literal hl

theorem span?_of_feedOperand {groups : List Group} {pending : Pending}
    (h : feedOperand groups pending t = .error e) : e.span? = some t.span := by
  rw [feedOperand.eq_def] at h
  split at h
  · rw [Parser.openGroup] at h
    split at h
    · cases h
      rfl
    · simp at h
  · simp at h
  · simp at h
  · exact span?_of_literal_map h
  · cases h
    exact span?_unexpected _ _

theorem span?_of_feedChain {groups : List Group} {target : Option Target} {tree : Node}
    (h : feedChain groups target tree t = .error e) : e.span? = some t.span := by
  rw [feedChain.eq_def] at h
  split at h
  · simp at h
  · simp at h
  · cases h
    exact span?_unexpected _ _

theorem span?_of_feedNumber {groups : List Group} {pending : Pending} {tilde : Span}
    (h : feedNumber groups pending tilde t = .error e) : e.span? = some t.span := by
  rw [feedNumber.eq_def] at h
  split at h
  · exact span?_of_literal_map h
  · cases h
    exact span?_unexpected _ _

/-- A fault at a token is reported where the token stands. -/
theorem span?_of_feed_eq_error (h : p.feed t = .error e) : e.span? = some t.span := by
  rcases feed_cases p t with ⟨q, step⟩ | ⟨pending, -, -, hfeed⟩ | ⟨pending, tilde, -, hfeed⟩ |
    ⟨target, tree, -, hfeed⟩
  · rw [step.feed_eq] at h
    simp at h
  · exact span?_of_feedOperand (hfeed.symm.trans h)
  · exact span?_of_feedNumber (hfeed.symm.trans h)
  · exact span?_of_feedChain (hfeed.symm.trans h)

/-- A fault at the end of the text has no place. -/
theorem span?_of_finish_eq_error (h : p.finish = .error e) : e.span? = none := by
  rw [finish.eq_def] at h
  split at h <;> cases h <;> rfl

/-! ## Many tokens -/

/-- Reads tokens up to the first fault. -/
def feedAll (p : Parser) : List Token → Except ParseError Parser
  | [] => .ok p
  | t :: ts =>
    match p.feed t with
    | .error e => .error e
    | .ok q => q.feedAll ts

/-- Reads tokens up to the first fault or the end of the text. -/
def runTokens (p : Parser) : List Token → Except ParseError Node
  | [] => p.finish
  | t :: ts =>
    if t.kind = .endOfInput then p.finish
    else
      match p.feed t with
      | .error e => .error e
      | .ok q => q.runTokens ts

theorem feedAll_cons_of_step (h : Step p t q) (ts : List Token) :
    p.feedAll (t :: ts) = q.feedAll ts := by
  rw [feedAll, h.feed_eq]

theorem feedAll_append_of_ok (h : p.feedAll ts = .ok q) (us : List Token) :
    p.feedAll (ts ++ us) = q.feedAll us := by
  induction ts generalizing p with
  | nil =>
    cases h
    rfl
  | cons t ts ih =>
    rw [feedAll] at h
    rw [List.cons_append, feedAll]
    split at h
    · simp at h
    · exact ih h

theorem feedAll_append_of_error (h : p.feedAll ts = .error e) (us : List Token) :
    p.feedAll (ts ++ us) = .error e := by
  induction ts generalizing p with
  | nil => cases h
  | cons t ts ih =>
    rw [feedAll] at h
    rw [List.cons_append, feedAll]
    split at h
    · exact h
    · exact ih h

/-- If tokens are read without a fault, then so are the first of them, and then the others. -/
theorem exists_feedAll_of_append (h : p.feedAll (ts ++ us) = .ok q) :
    ∃ r, p.feedAll ts = .ok r ∧ r.feedAll us = .ok q := by
  cases hr : p.feedAll ts with
  | error e =>
    rw [feedAll_append_of_error hr] at h
    simp at h
  | ok r =>
    rw [feedAll_append_of_ok hr] at h
    exact ⟨r, rfl, h⟩

theorem exists_step_of_feedAll_concat (h : p.feedAll (ts ++ [t]) = .ok q) :
    ∃ r, p.feedAll ts = .ok r ∧ Step r t q := by
  obtain ⟨r, hr, ht⟩ := exists_feedAll_of_append h
  rw [feedAll] at ht
  split at ht
  · simp at ht
  · next hq =>
    cases ht
    exact ⟨r, hr, feed_eq_ok_iff.1 hq⟩

/-- Tokens that are read without a fault are none after which nothing comes. -/
theorem isLast_eq_false_of_feedAll (h : p.feedAll ts = .ok q) :
    ∀ t ∈ ts, t.kind.isLast = false := by
  induction ts generalizing p with
  | nil => exact List.forall_mem_nil _
  | cons t ts ih =>
    rw [feedAll] at h
    split at h
    · simp at h
    · next hq =>
      exact List.forall_mem_cons.2 ⟨(feed_eq_ok_iff.1 hq).isLast_eq_false, ih h⟩

theorem kind_ne_endOfInput_of_isLast {t : Token} (h : t.kind.isLast = false) :
    t.kind ≠ .endOfInput := by
  intro hk
  rw [hk] at h
  cases h

theorem runTokens_append_of_ok (h : p.feedAll ts = .ok q) (us : List Token) :
    p.runTokens (ts ++ us) = q.runTokens us := by
  induction ts generalizing p with
  | nil =>
    cases h
    rfl
  | cons t ts ih =>
    have ht := isLast_eq_false_of_feedAll h t List.mem_cons_self
    rw [feedAll] at h
    rw [List.cons_append, runTokens, if_neg (kind_ne_endOfInput_of_isLast ht)]
    split at h
    · simp at h
    · exact ih h

theorem runTokens_append_of_error (h : p.feedAll ts = .error e)
    (hts : ∀ t ∈ ts, t.kind.isLast = false) (us : List Token) :
    p.runTokens (ts ++ us) = .error e := by
  induction ts generalizing p with
  | nil => cases h
  | cons t ts ih =>
    obtain ⟨ht, htail⟩ := List.forall_mem_cons.1 hts
    rw [feedAll] at h
    rw [List.cons_append, runTokens, if_neg (kind_ne_endOfInput_of_isLast ht)]
    split at h
    · cases h
      rfl
    · exact ih h htail

/-- What has been read when a run ends: some tokens without a fault, and then either a token with
    one, or nothing or the end of the text. -/
theorem exists_of_runTokens {result : Except ParseError Node} (h : p.runTokens ts = result) :
    (∃ us t vs q e, ts = us ++ t :: vs ∧ p.feedAll us = .ok q ∧ t.kind ≠ .endOfInput ∧
      q.feed t = .error e ∧ result = .error e) ∨
    ∃ us vs q, ts = us ++ vs ∧ (∀ t ∈ vs.head?, t.kind = .endOfInput) ∧ p.feedAll us = .ok q ∧
      q.finish = result := by
  -- the induction is on the tokens, from the state that each of them leads to
  induction ts generalizing p with
  | nil => exact .inr ⟨[], [], p, rfl, fun _ h => absurd h (Option.not_mem_none _), rfl, h⟩
  | cons t ts ih =>
    rw [runTokens] at h
    split at h
    · next ht =>
      refine .inr ⟨[], t :: ts, p, rfl, fun u hu => ?_, rfl, h⟩
      cases hu
      exact ht
    · next ht =>
      split at h
      · next e he => exact .inl ⟨[], t, ts, p, e, rfl, rfl, ht, he, h.symm⟩
      · next q hq =>
        have step := feed_eq_ok_iff.1 hq
        rcases ih h with ⟨us, u, vs, r, e, rfl, hr, hu⟩ | ⟨us, vs, r, rfl, hvs, hr, hfin⟩
        · exact .inl ⟨t :: us, u, vs, r, e, rfl, (feedAll_cons_of_step step us).trans hr, hu⟩
        · exact .inr ⟨t :: us, vs, r, rfl, hvs, (feedAll_cons_of_step step us).trans hr, hfin⟩

/-! ## Runs over a text -/

/-- A run depends on the tokens only. -/
theorem run_eq_runTokens (p : Parser) (s : Scanner) : p.run s = p.runTokens s.tokens := by
  rw [run]
  split
  · next h => rw [Scanner.tokens_of_next?_eq_none h, runTokens]
  · next t s' h =>
    rw [Scanner.tokens_of_next?_eq_some h, runTokens]
    split
    · rfl
    · cases p.feed t with
      | error e => rfl
      | ok q => exact run_eq_runTokens q s'
termination_by s.remaining
decreasing_by exact Scanner.remaining_lt_of_next? ‹_›

end Parser

theorem parse_eq_runTokens (source : String) :
    parse source = Parser.initial.runTokens (tokensAt 0 source.toList) :=
  Parser.run_eq_runTokens _ _

end Bitwise
