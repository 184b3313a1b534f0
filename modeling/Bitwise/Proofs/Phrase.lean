import Bitwise.Proofs.Nesting
import Bitwise.Proofs.Run

/-!
# Reading a phrase

What a parser makes of the tokens of a phrase of the grammar: the tree of the phrase, added to what
waits for it, or a fault at the first parenthesis that opens one group too many. No other fault
comes up if the numbers are in range. The three kinds of phrases are read in one induction on the
derivation.
-/

namespace Bitwise

/-- All numbers among some tokens can be held by a signed 64-bit integer. -/
def InRange (ts : List Token) : Prop :=
  ∀ t ∈ ts, t.kind = .number → Numeral.value t.text.toList < Nat.pow 2 63

theorem InRange.of_append_left {ts us : List Token} (h : InRange (ts ++ us)) : InRange ts :=
  fun t ht => h t (List.mem_append_left us ht)

theorem InRange.of_append_right {ts us : List Token} (h : InRange (ts ++ us)) : InRange us :=
  fun t ht => h t (List.mem_append_right ts ht)

theorem InRange.of_cons {t : Token} {ts : List Token} (h : InRange (t :: ts)) : InRange ts :=
  fun u hu => h u (List.mem_cons_of_mem t hu)

theorem InRange.append {ts us : List Token} (h : InRange ts) (h' : InRange us) :
    InRange (ts ++ us) :=
  List.forall_mem_append.2 ⟨h, h'⟩

/-- Only numbers can be out of range. -/
theorem InRange.cons_of_ne {t : Token} {ts : List Token} (ht : t.kind ≠ .number) (h : InRange ts) :
    InRange (t :: ts) :=
  List.forall_mem_cons.2 ⟨fun hk => absurd hk ht, h⟩

theorem InRange.singleton {t : Token}
    (h : t.kind = .number → Numeral.value t.text.toList < Nat.pow 2 63) : InRange [t] :=
  List.forall_mem_singleton.2 h

/-- The value of a number that is in range. -/
theorem toInt64?_of_inRange {digits : String} {place : Span} {ts : List Token} (h : InRange ts)
    (hmem : ⟨.number, digits, place⟩ ∈ ts) :
    Numeral.toInt64? digits.toList = some (Grammar.literalValue digits) :=
  if_pos (h _ hmem rfl)

namespace Parser

/-- The parser with a name that is held read as a variable. -/
def settle (p : Parser) : Parser :=
  ⟨p.groups, p.progress.settle⟩

theorem settle_eq_iff {p : Parser} {groups : List Group} {progress : Progress} :
    p.settle = ⟨groups, progress⟩ ↔ p.groups = groups ∧ p.progress.settle = progress := by
  rw [settle, Parser.mk.injEq]

/-- What comes of reading some tokens: a parser, as far as what follows can tell, or the fault of a
    parenthesis that is too deep. -/
def Ends (result : Except ParseError Parser) (excess : Option Span) (p : Parser) : Prop :=
  match excess with
  | none => ∃ q, result = .ok q ∧ q.settle = p
  | some paren => result = .error (.tooDeep paren)

/-- An operand that has been read ends a chain. -/
theorem settle_fill (groups : List Group) (pending : Pending) (operand : Node) :
    settle ⟨groups, pending.fill operand⟩ = ⟨groups, pending.fill operand⟩ := by
  obtain ⟨target, _ | ⟨left, op⟩⟩ := pending <;> rfl

variable {p q : Parser} {ts us : List Token} {room : Nat}

/-- A phrase, and then whatever its reader can do. -/
theorem Ends.append (h : Ends (p.feedAll ts) (tooDeep? room ts) q) (hts : opened ts = closed ts)
    {q' : Parser} (h' : ∀ r : Parser, r.settle = q → Ends (r.feedAll us) (tooDeep? room us) q') :
    Ends (p.feedAll (ts ++ us)) (tooDeep? room (ts ++ us)) q' := by
  -- the first phrase leaves as much room as it finds
  have same : room + opened ts = room + closed ts := by rw [hts]
  rw [tooDeep?_append same]
  cases hx : tooDeep? room ts with
  | none =>
    rw [hx] at h
    obtain ⟨r, hr, hs⟩ := h
    rw [feedAll_append_of_ok hr, Option.none_or]
    exact h' r hs
  | some paren =>
    rw [hx] at h
    rw [Option.some_or]
    exact feedAll_append_of_error h us

/-- One token that is no parenthesis, and then some more. -/
theorem Ends.cons {t : Token} {r : Parser} (hstep : Step p t r) (ho : t.kind ≠ .openParen)
    (hc : t.kind ≠ .closeParen) (h : Ends (r.feedAll ts) (tooDeep? room ts) q) :
    Ends (p.feedAll (t :: ts)) (tooDeep? room (t :: ts)) q := by
  rw [feedAll_cons_of_step hstep, tooDeep?_other ho hc]
  exact h

end Parser

/-! ## Phrases -/

namespace Grammar

/-- What a statement assigns to, as a parser knows it. -/
def Statement.target : Statement → Option Target
  | .assign name place _ _ => some ⟨name, place⟩
  | .chain _ => none

/-- The chain of a statement. -/
def Statement.value : Statement → Chain
  | .assign _ _ _ value => value
  | .chain value => value

theorem Statement.statementTree_eq (s : Statement) :
    statementTree s.target s.value.tree = s.tree := by
  cases s <;> rfl

mutual

/-- A statement is read at the start of one. The groups that are open and the room for more make up
    the limit. -/
theorem Statement.feedAll_tokens {groups : List Group} {room : Nat}
    (hroom : groups.length + room = maxNesting) :
    (s : Statement) → InRange s.tokens → Parser.Ends (Parser.feedAll ⟨groups, .start⟩ s.tokens)
      (tooDeep? room s.tokens) ⟨groups, .chain s.target s.value.tree⟩
  | .chain value, h => value.feedAll_tokens (p := ⟨groups, .start⟩) rfl hroom h
  | .assign name place equal value, h => by
    refine Parser.Ends.cons (.name rfl) TokenKind.noConfusion TokenKind.noConfusion ?_
    refine Parser.Ends.cons (.target rfl) TokenKind.noConfusion TokenKind.noConfusion ?_
    exact value.feedAll_tokens (p := ⟨groups, .operand ⟨some ⟨name, place⟩, none⟩⟩) rfl hroom
      h.of_cons.of_cons

theorem Chain.feedAll_tokens {p : Parser} {target : Option Target} {room : Nat}
    (hp : p.progress.pending? = some ⟨target, none⟩)
    (hroom : p.groups.length + room = maxNesting) :
    (c : Chain) → InRange c.tokens → Parser.Ends (p.feedAll c.tokens) (tooDeep? room c.tokens)
      ⟨p.groups, .chain target c.tree⟩
  | .single operand, h => operand.feedAll_tokens hp hroom h
  | .link left op place right, h => by
    refine Parser.Ends.append (left.feedAll_tokens hp hroom h.of_append_left)
      left.opened_eq_closed ?_
    intro q hq
    obtain ⟨hgroups, hsettle⟩ := Parser.settle_eq_iff.1 hq
    refine Parser.Ends.cons (.operator hsettle rfl) TokenKind.noConfusion TokenKind.noConfusion ?_
    rw [hgroups]
    exact right.feedAll_tokens (p := ⟨p.groups, .operand ⟨target, some (left.tree, op)⟩⟩) rfl
      hroom h.of_append_right.of_cons

theorem Operand.feedAll_tokens {p : Parser} {pending : Pending} {room : Nat}
    (hp : p.progress.pending? = some pending) (hroom : p.groups.length + room = maxNesting) :
    (o : Operand) → InRange o.tokens → Parser.Ends (p.feedAll o.tokens) (tooDeep? room o.tokens)
      ⟨p.groups, pending.fill o.tree⟩
  | .group paren body close, h => by
    -- the groups that are open and the room add up to the limit, so no room means no more groups
    cases room with
    | zero =>
      have hfeed := Parser.feed_tooDeep (t := .sign .openParen paren) hp rfl hroom
      rw [Operand.tokens, tooDeep?_zero rfl, Parser.feedAll, hfeed]
      rfl
    | succ room =>
      have hstep := Parser.Step.openGroup (t := .sign .openParen paren) hp rfl (by omega)
      rw [Operand.tokens, Parser.feedAll_cons_of_step hstep, tooDeep?_succ rfl]
      have hopen : (⟨paren, pending⟩ :: p.groups).length + room = maxNesting := by
        rw [List.length_cons]
        omega
      refine Parser.Ends.append (body.feedAll_tokens hopen h.of_cons.of_append_left)
        body.opened_eq_closed fun q hq => ?_
      obtain ⟨hgroups, hsettle⟩ := Parser.settle_eq_iff.1 hq
      have hclose := Parser.Step.closeGroup (t := .sign .closeParen close) hsettle rfl hgroups
      rw [body.statementTree_eq] at hclose
      refine ⟨_, Parser.feedAll_cons_of_step hclose [], ?_⟩
      exact Parser.settle_fill _ _ _
  | .complement tilde digits place, h => by
    have hvalue := toInt64?_of_inRange h (List.mem_cons_of_mem _ List.mem_cons_self)
    refine Parser.Ends.cons (.tilde hp rfl) TokenKind.noConfusion TokenKind.noConfusion ?_
    refine Parser.Ends.cons (.complement rfl hvalue) TokenKind.noConfusion TokenKind.noConfusion ?_
    exact ⟨_, rfl, Parser.settle_fill _ _ _⟩
  | .name text place, h => by
    obtain ⟨groups, progress⟩ := p
    cases progress <;> cases hp
    · exact ⟨_, Parser.feedAll_cons_of_step (.name rfl) [], rfl⟩
    · exact ⟨_, Parser.feedAll_cons_of_step (.var rfl) [], Parser.settle_fill _ _ _⟩
  | .number digits place, h => by
    have hvalue := toInt64?_of_inRange h List.mem_cons_self
    refine Parser.Ends.cons (.literal hp rfl hvalue) TokenKind.noConfusion
      TokenKind.noConfusion ?_
    exact ⟨_, rfl, Parser.settle_fill _ _ _⟩

end

end Grammar

end Bitwise
