import Bitwise.Proofs.DescentRun
import Bitwise.Proofs.Partition

/-!
# What is expected, and after what

What has to come at a place of a text is seen from the token before it. After a name, a number or a
closing parenthesis an operand is complete, after an opening parenthesis, an equals sign or an
operator one has to come, and after the sign `~` a number has to. This is so at all depths, since
the last token decides what kind of progress a parser has made (`Parser.Step.after`), whatever it
has read before.

So the token before decides what an error tells (`expectation_of_failure`), both of a token that is
at fault and of a text that ends too early. Nothing else is ever told, although a descent makes
checks for other tokens too: where it does, it has looked at the token already.
-/

namespace Bitwise

open Text (byteLength)

/-! ## The last token -/

section Last

variable {ts : List Token} {t : Token}

/-- An operand ends with the last token. -/
def EndsOperand (ts : List Token) : Prop :=
  ∃ t ∈ ts.getLast?, t.kind = .identifier ∨ t.kind = .number ∨ t.kind = .closeParen

/-- An operand has to come after the last token. -/
def AsksForOperand (ts : List Token) : Prop :=
  ∃ t ∈ ts.getLast?, t.kind = .openParen ∨ t.kind = .equal ∨ ∃ op, t.kind = .binary op

/-- A number has to come after the last token. -/
def AsksForNumber (ts : List Token) : Prop :=
  ∃ t ∈ ts.getLast?, t.kind = .tilde

@[simp] theorem endsOperand_concat : EndsOperand (ts ++ [t]) ↔
    t.kind = .identifier ∨ t.kind = .number ∨ t.kind = .closeParen := by
  simp [EndsOperand]

@[simp] theorem asksForOperand_concat : AsksForOperand (ts ++ [t]) ↔
    t.kind = .openParen ∨ t.kind = .equal ∨ ∃ op, t.kind = .binary op := by
  simp [AsksForOperand]

@[simp] theorem asksForNumber_concat : AsksForNumber (ts ++ [t]) ↔ t.kind = .tilde := by
  simp [AsksForNumber]

end Last

namespace Parser

/-- The states of a parser after some tokens, as far as the last of them tells. -/
inductive After : List Token → Parser → Prop
  | nothing : After [] initial
  | paren {ts : List Token} {group : Group} {groups : List Group} {t : Token} :
    t.kind = .openParen → After (ts ++ [t]) ⟨group :: groups, .start⟩
  | name {ts : List Token} {groups : List Group} {t : Token} :
    t.kind = .identifier → After (ts ++ [t]) ⟨groups, .name t⟩
  | sign {ts : List Token} {groups : List Group} {pending : Pending} {t : Token} :
    t.kind = .equal ∨ (∃ op, t.kind = .binary op) → After (ts ++ [t]) ⟨groups, .operand pending⟩
  | tilde {ts : List Token} {groups : List Group} {pending : Pending} {t : Token} :
    t.kind = .tilde → After (ts ++ [t]) ⟨groups, .number pending t.span⟩
  | operand {ts : List Token} {groups : List Group} {target : Option Target} {tree : Node}
    {t : Token} : t.kind = .identifier ∨ t.kind = .number ∨ t.kind = .closeParen →
    After (ts ++ [t]) ⟨groups, .chain target tree⟩

variable {p q : Parser} {t : Token} {ts : List Token} {expected : Expected}

theorem After.fill {groups : List Group} {pending : Pending} {operand : Node}
    (ht : t.kind = .identifier ∨ t.kind = .number ∨ t.kind = .closeParen) :
    After (ts ++ [t]) ⟨groups, pending.fill operand⟩ := by
  obtain ⟨target, _ | ⟨left, op⟩⟩ := pending <;> exact .operand ht

/-- What a step leads to is seen from its token. -/
theorem Step.after (h : Step p t q) (ts : List Token) : After (ts ++ [t]) q := by
  cases h with
  | name ht => exact .name ht
  | target ht => exact .sign (.inl ht)
  | openGroup _ ht _ => exact .paren ht
  | tilde _ ht => exact .tilde ht
  | var ht => exact .fill (.inl ht)
  | literal _ ht _ => exact .fill (.inr (.inl ht))
  | complement ht _ => exact .fill (.inr (.inl ht))
  | operator _ ht => exact .sign (.inr ⟨_, ht⟩)
  | closeGroup _ ht _ => exact .fill (.inr (.inr ht))

theorem after_of_feedAll (h : initial.feedAll ts = .ok p) : After ts p := by
  rcases List.eq_nil_or_concat ts with rfl | ⟨ts, t, rfl⟩
  · cases h
    exact .nothing
  · rw [List.concat_eq_append] at h ⊢
    obtain ⟨_, -, step⟩ := exists_step_of_feedAll_concat h
    exact step.after ts

/-! ## Faults -/

/-- What has to come at a token is decided by the token before it. -/
theorem After.expected_iff (h : After ts p) :
    (p.progress.expected = .operation ↔ EndsOperand ts) ∧
      (p.progress.expected = .number ↔ ts = [] ∨ AsksForOperand ts ∨ AsksForNumber ts) := by
  cases h with
  | nothing => simp [initial, Progress.expected, EndsOperand]
  | paren ht | name ht | tilde ht => simp [Progress.expected, ht]
  | sign ht => rcases ht with ht | ⟨op, ht⟩ <;> simp [Progress.expected, ht]
  | operand ht => rcases ht with ht | ht | ht <;> simp [Progress.expected, ht]

/-- What has to come where a text ends too early is decided by its last token. -/
theorem After.finish_iff (h : After ts p) (hfinish : p.finish = .error (.unexpectedEnd expected)) :
    (expected = .statement ↔ ts = []) ∧ (expected = .operand ↔ AsksForOperand ts) ∧
      (expected = .number ↔ AsksForNumber ts) ∧ (expected = .closeParen ↔ EndsOperand ts) := by
  cases h with
  | nothing =>
    cases hfinish
    simp [EndsOperand, AsksForOperand, AsksForNumber]
  | paren ht | tilde ht =>
    cases hfinish
    simp [ht]
  | sign ht =>
    cases hfinish
    rcases ht with ht | ⟨op, ht⟩ <;> simp [ht]
  | @name ts groups t ht =>
    -- the text may end after a name or an operand if no group is open
    cases groups <;> cases hfinish
    simp [ht]
  | @operand ts groups target tree t ht =>
    cases groups <;> cases hfinish
    rcases ht with ht | ht | ht <;> simp [ht]

end Parser

/-! ## Errors of a text -/

section Errors

variable {source : String} {before after before' after' : List Token} {t found : Token}
  {expected : Expected}

/-- A token stands at one place among the tokens of a text. -/
theorem eq_of_tokenize_eq_append (h : tokenize source = before ++ t :: after)
    (h' : tokenize source = before' ++ t :: after') : before = before' := by
  have ordered := (divided_tokensAt 0 source.toList).pairwise
  have notMem : ∀ {ts us : List Token}, tokenize source = ts ++ t :: us → t ∉ ts := by
    intro ts us hts ht
    change tokensAt 0 source.toList = _ at hts
    rw [hts, List.pairwise_append] at ordered
    exact Nat.lt_irrefl _ (ordered.2.2 t ht t List.mem_cons_self).1
  exact eq_of_append_cons_eq (notMem h) (notMem h') (h.symm.trans h')

/-- A token at fault is one of the text, and what is expected there is what has to come after the
    tokens before it. -/
theorem exists_of_unexpectedToken
    (h : parse source = .error (.unexpectedToken expected found)) :
    found ∈ tokenize source ∧ ∀ before after, tokenize source = before ++ found :: after →
      ∃ p, Parser.After before p ∧ expected = p.progress.expected := by
  rcases exists_of_parse_eq_error h with ⟨before, after, t, p, hts, hp, he⟩ |
    ⟨before, p, hts, hp, hfinish⟩
  · obtain ⟨rfl, rfl⟩ := Parser.eq_of_feed_eq_unexpectedToken he
    refine ⟨hts ▸ List.mem_append_right _ List.mem_cons_self, fun before' after' hts' => ?_⟩
    rw [← eq_of_tokenize_eq_append hts hts']
    exact ⟨p, Parser.after_of_feedAll hp, rfl⟩
  · obtain ⟨_, hexpected⟩ := Parser.exists_of_finish_eq_error hfinish
    cases hexpected

/-- A text that ends too early has been read to its end. -/
theorem exists_of_unexpectedEnd (h : parse source = .error (.unexpectedEnd expected)) :
    ∃ before p, tokenize source = before ++ [.atEnd (byteLength source.toList)] ∧
      Parser.After before p ∧ p.finish = .error (.unexpectedEnd expected) := by
  rcases exists_of_parse_eq_error h with ⟨before, after, t, p, hts, hp, he⟩ |
    ⟨before, p, hts, hp, hfinish⟩
  · have hspan := Parser.span?_of_feed_eq_error he
    cases hspan
  · exact ⟨before, p, hts, Parser.after_of_feedAll hp, hfinish⟩

end Errors

/-- What the errors of a text tell is decided by the token before them. -/
structure ToldByTokenBefore (source : String) : Prop where
  /-- A token at fault is a token of the text, and what is expected there is an operator if an
      operand is complete, and a number if not. -/
  at_token : ∀ expected found, parse source = .error (.unexpectedToken expected found) →
    found ∈ tokenize source ∧ ∀ before after, tokenize source = before ++ found :: after →
      (expected.label = "OPERATION" ∨ expected.label = "NUMBER") ∧
      (expected.label = "OPERATION" ↔ EndsOperand before) ∧
      (expected.label = "NUMBER" ↔ before = [] ∨ AsksForOperand before ∨ AsksForNumber before)
  /-- A text that ends too early has nothing but the end after the tokens that decide. -/
  at_end : ∀ expected, parse source = .error (.unexpectedEnd expected) →
    ∃ before, tokenize source = before ++ [.atEnd (byteLength source.toList)] ∧
      (expected.label = "assignment or expression" ↔ before = []) ∧
      (expected.label = "NUMBER" ↔ AsksForNumber before) ∧
      (expected.label = "RPAREN" ↔ EndsOperand before) ∧
      (expected.label = "expression, number, identifier or unary" ↔ AsksForOperand before)
  /-- A descent fails with nothing else, although it checks more. -/
  descent : Descent.parse source = some ((parse source).mapError ParseError.failure)
  /-- So it never misses a name, an equals sign, a tilde or a parenthesis at a token. -/
  checks : ∀ label found, Descent.parse source = some (.error (.unexpectedToken label found)) →
    label = "OPERATION" ∨ label = "NUMBER"

/-- What an error tells, of a token at fault or of a text that ends too early, is decided by the
    token before it. -/
theorem expectation_of_failure (source : String) : ToldByTokenBefore source where
  at_token expected found h := by
    obtain ⟨hmem, hbefore⟩ := exists_of_unexpectedToken h
    refine ⟨hmem, fun before after hts => ?_⟩
    obtain ⟨p, hp, rfl⟩ := hbefore before after hts
    obtain ⟨hoperation, hnumber⟩ := hp.expected_iff
    rw [← hoperation, ← hnumber]
    rcases p.progress.expected_eq_or with h | h <;> rw [h] <;> decide
  at_end expected h := by
    obtain ⟨before, p, hts, hp, hfinish⟩ := exists_of_unexpectedEnd h
    obtain ⟨hstatement, hoperand, hnumber, hclose⟩ := hp.finish_iff hfinish
    refine ⟨before, hts, ?_⟩
    rw [← hstatement, ← hoperand, ← hnumber, ← hclose]
    cases expected <;> decide
  descent := Descent.parse_eq source
  checks label found h := by
    -- a descent fails only where a parser does
    obtain ⟨e, hparse, hfailure⟩ := Descent.exists_of_parse_eq_error h
    cases e <;> cases hfailure
    obtain ⟨hmem, hbefore⟩ := exists_of_unexpectedToken hparse
    obtain ⟨before, after, hts⟩ := List.append_of_mem hmem
    obtain ⟨p, -, rfl⟩ := hbefore before after hts
    rcases p.progress.expected_eq_or with h | h <;> rw [h] <;> decide

/-- A name in a group with another one before it. -/
theorem expectation_of_failure_after_name :
    parse "(é b)" = .error (.unexpectedToken .operation ⟨.identifier, "b", ⟨4, 5⟩⟩) ∧
      EndsOperand [⟨.openParen, "(", ⟨0, 1⟩⟩, ⟨.identifier, "é", ⟨1, 3⟩⟩] := by
  have fails : parse "(é b)" =
      .error (.unexpectedToken .operation ⟨.identifier, "b", ⟨4, 5⟩⟩) := by
    decide +kernel
  have tokens : tokenize "(é b)" =
      [⟨.openParen, "(", ⟨0, 1⟩⟩, ⟨.identifier, "é", ⟨1, 3⟩⟩] ++
        ⟨.identifier, "b", ⟨4, 5⟩⟩ :: [⟨.closeParen, ")", ⟨5, 6⟩⟩, .atEnd 6] := by
    decide +kernel
  obtain ⟨-, told⟩ := (expectation_of_failure "(é b)").at_token _ _ fails
  exact ⟨fails, (told _ _ tokens).2.1.1 rfl⟩

end Bitwise
