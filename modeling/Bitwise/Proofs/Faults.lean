import Bitwise.Proofs.Acceptance

/-!
# Faults of a text

A token can be at fault in three ways: it cannot stand where it stands, its parenthesis opens one
group too many, or its number is out of range (`Parser.feed_error_cases`). What is expected instead
of a token that cannot stand where it stands is known from the progress before it
(`Progress.expected`).
-/

namespace Bitwise

open Text (byteLength)

/-- What has to come at a token. -/
def Progress.expected : Progress → Expected
  | .start | .operand _ | .number _ _ => .number
  | .name _ | .chain _ _ => .operation

namespace Progress

variable {progress : Progress}

theorem expected_eq_or (progress : Progress) :
    progress.expected = .operation ∨ progress.expected = .number := by
  cases progress
  case name | chain => exact .inl rfl
  all_goals exact .inr rfl

theorem expected_of_pending? {pending : Pending} (h : progress.pending? = some pending) :
    progress.expected = .number := by
  cases progress <;> cases h <;> rfl

theorem expected_of_settle {target : Option Target} {tree : Node}
    (h : progress.settle = .chain target tree) : progress.expected = .operation := by
  cases progress <;> cases h <;> rfl

end Progress

namespace Parser

variable {p : Parser} {t : Token} {e : ParseError}

theorem literal_error_of_map {α : Type} {f : Node → α} (h : t.literal.map f = .error e) :
    t.literal = .error e := by
  cases hl : t.literal with
  | ok node => rw [hl] at h; cases h
  | error e' => rw [hl] at h; cases h; rfl

theorem feedOperand_error_cases {groups : List Group} {pending : Pending}
    (ht : t.kind ≠ .identifier) (h : feedOperand groups pending t = .error e) :
    e = .unexpected .number t ∨ t.kind = .openParen ∧ e = .tooDeep t.span ∨
      t.kind = .number ∧ t.literal = .error e := by
  rw [feedOperand.eq_def] at h
  split at h
  · next hk =>
    rw [Parser.openGroup] at h
    split at h
    · cases h
      exact .inr (.inl ⟨hk, rfl⟩)
    · cases h
  · cases h
  · next hk => exact absurd hk ht
  · next hk => exact .inr (.inr ⟨hk, literal_error_of_map h⟩)
  · cases h
    exact .inl rfl

theorem feedNumber_error_cases {groups : List Group} {pending : Pending} {tilde : Span}
    (h : feedNumber groups pending tilde t = .error e) :
    e = .unexpected .number t ∨ t.kind = .number ∧ t.literal = .error e := by
  rw [feedNumber.eq_def] at h
  split at h
  · next hk => exact .inr ⟨hk, literal_error_of_map h⟩
  · cases h
    exact .inl rfl

theorem eq_unexpected_of_feedChain {groups : List Group} {target : Option Target} {tree : Node}
    (h : feedChain groups target tree t = .error e) : e = .unexpected .operation t := by
  rw [feedChain.eq_def] at h
  split at h <;> cases h
  rfl

/-- The faults at a token. Only where an operand may begin can a group be opened too many, and only
    there or after the sign `~` can a number be out of range. -/
theorem feed_error_cases (h : p.feed t = .error e) :
    e = .unexpected p.progress.expected t ∨
    (∃ pending, p.progress.pending? = some pending) ∧ t.kind = .openParen ∧ e = .tooDeep t.span ∨
    p.progress.expected = .number ∧ t.kind = .number ∧ t.literal = .error e := by
  rcases feed_cases p t with ⟨q, step⟩ | ⟨pending, hp, ht, hfeed⟩ | ⟨pending, tilde, hp, hfeed⟩ |
    ⟨target, tree, hp, hfeed⟩
  · rw [step.feed_eq] at h
    cases h
  · rw [Progress.expected_of_pending? hp]
    rcases feedOperand_error_cases ht (hfeed.symm.trans h) with he | he | he
    · exact .inl he
    · exact .inr (.inl ⟨⟨pending, hp⟩, he⟩)
    · exact .inr (.inr ⟨rfl, he⟩)
  · rw [hp]
    rcases feedNumber_error_cases (hfeed.symm.trans h) with he | he
    · exact .inl he
    · exact .inr (.inr ⟨rfl, he⟩)
  · rw [Progress.expected_of_settle hp]
    exact .inl (eq_unexpected_of_feedChain (hfeed.symm.trans h))

/-- A token that no step takes cannot stand where it stands, unless it is a parenthesis or a number
    at a place for one. -/
theorem feed_eq_unexpected (hstep : ∀ q, ¬Step p t q)
    (hparen : ∀ pending, p.progress.pending? = some pending → t.kind ≠ .openParen)
    (hnumber : p.progress.expected = .number → t.kind ≠ .number) :
    p.feed t = .error (.unexpected p.progress.expected t) := by
  cases h : p.feed t with
  | ok q => exact absurd (feed_eq_ok_iff.1 h) (hstep q)
  | error e =>
    rcases feed_error_cases h with rfl | ⟨⟨pending, hp⟩, hk, -⟩ | ⟨hp, hk, -⟩
    · rfl
    · exact absurd hk (hparen pending hp)
    · exact absurd hk (hnumber hp)

/-- A token that is not expected is the one that is read, and what is expected is known. -/
theorem eq_of_feed_eq_unexpectedToken {expected : Expected} {found : Token}
    (h : p.feed t = .error (.unexpectedToken expected found)) :
    expected = p.progress.expected ∧ found = t := by
  rcases feed_error_cases h with he | ⟨-, -, he⟩ | ⟨-, -, he⟩
  · rw [ParseError.unexpected] at he
    split at he <;> cases he
    exact ⟨rfl, rfl⟩
  · cases he
  · rw [Token.literal] at he
    split at he <;> cases he

/-- At the end of a text nothing can be wrong but that it comes too early. -/
theorem exists_of_finish_eq_error (h : p.finish = .error e) :
    ∃ expected, e = .unexpectedEnd expected := by
  rw [finish.eq_def] at h
  split at h <;> cases h <;> exact ⟨_, rfl⟩

/-- What is illegal can stand nowhere. -/
theorem feed_of_illegal (ht : t.kind = .illegal) (p : Parser) :
    p.feed t = .error (.lexical t.text t.span) := by
  have none (q : Parser) : ¬Step p t q := fun step => by
    have legal := step.isLast_eq_false
    rw [ht] at legal
    cases legal
  have other : ∀ {kind : TokenKind}, kind.isLast = false → t.kind ≠ kind := by
    rintro kind hkind rfl
    rw [ht] at hkind
    cases hkind
  rw [feed_eq_unexpected none (fun _ _ => other rfl) fun _ => other rfl, ParseError.unexpected,
    if_pos ht]

end Parser

/-! ## Faults of a text -/

section Text

variable {source : String} {before after : List Token} {t : Token} {p : Parser} {e : ParseError}

/-- A parser that fails at a token has read the tokens before it, and one that fails at the end has
    read all of them. -/
theorem exists_of_parse_eq_error (h : parse source = .error e) :
    (∃ before after t p, tokenize source = before ++ t :: after ∧
      Parser.initial.feedAll before = .ok p ∧ p.feed t = .error e) ∨
    ∃ before p, tokenize source = before ++ [.atEnd (byteLength source.toList)] ∧
      Parser.initial.feedAll before = .ok p ∧ p.finish = .error e := by
  rw [parse_eq_runTokens] at h
  rcases Parser.exists_of_runTokens h with ⟨ts, t, us, p, e', hts, hp, -, he, hresult⟩ |
    ⟨ts, us, p, hts, hus, hp, hfinish⟩
  · cases hresult
    exact .inl ⟨ts, us, t, p, hts, hp, he⟩
  · obtain ⟨_, _, -, -, -, rfl⟩ :=
      exists_spelling_of_atEnd hts (Parser.isLast_eq_false_of_feedAll hp) hus
    rw [Nat.zero_add] at hts
    exact .inr ⟨ts, p, hts, hp, hfinish⟩

/-- A fault at a token is the error of the text. -/
theorem parse_eq_error_of_feed (h : tokenize source = before ++ t :: after)
    (hp : Parser.initial.feedAll before = .ok p) (ht : t.kind ≠ .endOfInput)
    (he : p.feed t = .error e) : parse source = .error e := by
  have hts : tokensAt 0 source.toList = before ++ t :: after := h
  rw [parse_eq_runTokens, hts, Parser.runTokens_append_of_ok hp, Parser.runTokens, if_neg ht, he]

end Text

end Bitwise
