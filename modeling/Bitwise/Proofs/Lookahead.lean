import Bitwise.Proofs.TokenBuffer

/-!
# Looking ahead

A routine that parses a text looks at no more than two tokens before it takes one. It looks at the
second only if the first is a name, and then it takes the name, whatever the second is. So between
two of its functions the buffer has one of a few forms (`TokenBuffer.Ready`), and after a function
it holds no more than the next token (`TokenBuffer.Settled`).

With such a buffer every function proceeds (`Routine.proceeding`): it never asks for a token after
the last one, and if it fails, then at the token that it has asked for last. This is shown of all
functions together, by an induction on the calls that may be nested.
-/

namespace Bitwise

/-- Tokens up to the last one, after which nothing comes. -/
def UpToLast (ts : List Token) : Prop :=
  ∃ us last, ts = us ++ [last] ∧ (∀ t ∈ us, t.kind.isLast = false) ∧ last.kind.isLast = true

theorem UpToLast.tail {t : Token} {ts : List Token} (h : UpToLast (t :: ts))
    (ht : t.kind.isLast = false) : UpToLast ts := by
  obtain ⟨us, last, heq, hus, hlast⟩ := h
  rcases us with _ | ⟨u, us⟩
  · cases heq
    exact absurd (hlast.symm.trans ht) Bool.noConfusion
  · cases heq
    exact ⟨us, last, rfl, fun v hv => hus v (List.mem_cons_of_mem _ hv), hlast⟩

/-- The last token stands at the last place. -/
theorem UpToLast.index_eq {t : Token} {ts : List Token} {i : Nat} (h : UpToLast ts)
    (ht : ts[i]? = some t) (hlast : t.kind.isLast = true) : i + 1 = ts.length := by
  obtain ⟨us, last, rfl, hus, -⟩ := h
  have hi := (List.getElem?_eq_some_iff.1 ht).1
  rw [List.length_append, List.length_singleton] at hi ⊢
  rcases Nat.lt_succ_iff_lt_or_eq.1 hi with hlt | rfl
  · rw [List.getElem?_append_left hlt] at ht
    have going := hus t (List.mem_of_getElem? ht)
    rw [hlast] at going
    cases going
  · rfl

namespace TokenBuffer

variable {b b' : TokenBuffer} {t : Token} {s : Scanner}

/-- A buffer as a routine leaves it between two tokens. A second token has been looked at only after
    a name. -/
structure Ready (b : TokenBuffer) : Prop where
  left : UpToLast (b.ahead ++ b.scanner.tokens)
  clean : b.rejected = none
  second : ∀ t u rest, b.ahead = t :: u :: rest → t.kind = .identifier ∧ rest = []

/-- A buffer that may hold the next token, but no other. -/
structure Settled (b : TokenBuffer) : Prop extends b.Ready where
  length_le : b.ahead.length ≤ 1

theorem settled_ofString (source : String) : (ofString source).Settled where
  left := exists_tokensAt_eq_append 0 source.toList
  clean := rfl
  second := nofun
  length_le := Nat.zero_le _

/-- The scanner has another token, unless the last one has been looked at. -/
theorem Ready.exists_next? (h : b.Ready) (hahead : ∀ t ∈ b.ahead, t.kind.isLast = false) :
    ∃ t s, b.scanner.next? = some (t, s) := by
  obtain ⟨us, last, heq, -, hlast⟩ := h.left
  rcases hnext : b.scanner.next? with _ | ⟨t, s⟩
  · rw [Scanner.tokens_of_next?_eq_none hnext, List.append_nil] at heq
    have going := hahead last (heq ▸ List.mem_append_right _ (List.mem_singleton_self last))
    rw [hlast] at going
    cases going
  · exact ⟨t, s, rfl⟩

/-- A buffer after a token has been looked at. -/
theorem Ready.look (h : b.Ready) (hnext : b.scanner.next? = some (t, s))
    (hname : ∀ u ∈ b.ahead, u.kind = .identifier) (hlen : b.ahead.length ≤ 1) :
    Ready { b.answered t s with ahead := b.ahead ++ [t] } where
  left := by
    have left := h.left
    rw [Scanner.tokens_of_next?_eq_some hnext] at left
    simpa [answered] using left
  clean := h.clean
  second := by
    obtain ⟨taken, _ | ⟨v, _ | ⟨w, rest⟩⟩, rejected, scanner, stop, answers⟩ := b
    · rintro _ _ _ ⟨⟩
    · rintro _ _ _ ⟨⟩
      exact ⟨hname v List.mem_cons_self, rfl⟩
    · simp at hlen

/-- Behind the next token no more than one other is kept. -/
theorem Ready.length_tail_le (h : b.Ready) : b.ahead.tail.length ≤ 1 := by
  rcases hahead : b.ahead with _ | ⟨t, _ | ⟨u, rest⟩⟩
  · exact Nat.zero_le _
  · exact Nat.zero_le _
  · rw [(h.second t u rest hahead).2]
    exact Nat.le_refl _

theorem Ready.settled (h : b.Ready) {rest : List Token} (hahead : b.ahead = t :: rest)
    (ht : t.kind ≠ .identifier) : b.Settled where
  toReady := h
  length_le := by
    rcases rest with _ | ⟨u, rest⟩
    · rw [hahead]
      exact Nat.le_refl _
    · exact absurd (h.second t u rest hahead).1 ht

theorem Settled.rest_eq_nil (h : b.Settled) {rest : List Token} (hahead : b.ahead = t :: rest) :
    rest = [] := by
  have short := h.length_le
  rw [hahead] at short
  exact List.length_eq_zero_iff.1 (Nat.le_zero.1 (Nat.le_of_succ_le_succ short))

/-- A token is taken from one buffer, which leaves another. -/
structure Took (b : TokenBuffer) (t : Token) (b' : TokenBuffer) : Prop where
  ahead : b'.ahead = b.ahead.tail
  head : ∀ u ∈ b.ahead.head?, u = t
  last : b'.taken.getLast? = some t
  clean : b'.rejected = none
  /-- If more tokens come, then the buffer is ready for them. -/
  settled : t.kind.isLast = false → b'.Settled

theorem Took.of_ahead (h : b.Ready) {rest : List Token} (hahead : b.ahead = t :: rest) :
    Took b t { b with taken := b.taken ++ [t], ahead := rest } where
  ahead := by rw [hahead, List.tail_cons]
  head := by
    rw [hahead]
    rintro u ⟨⟩
    rfl
  last := List.getLast?_concat
  clean := h.clean
  settled ht := by
    have short := h.length_tail_le
    obtain ⟨left, clean, -⟩ := h
    rw [hahead] at left short
    refine ⟨⟨left.tail ht, clean, ?_⟩, short⟩
    rintro u v rest rfl
    simp at short

theorem Took.of_next? (h : b.Ready) (hahead : b.ahead = [])
    (hnext : b.scanner.next? = some (t, s)) :
    Took b t { b.answered t s with taken := b.taken ++ [t] } where
  ahead := by rw [hahead]; exact hahead
  head := by
    rw [hahead]
    nofun
  last := List.getLast?_concat
  clean := h.clean
  settled ht := by
    obtain ⟨left, clean, second⟩ := h
    rw [hahead, Scanner.tokens_of_next?_eq_some hnext] at left
    refine ⟨⟨?_, clean, second⟩, ?_⟩
    · change UpToLast (b.ahead ++ s.tokens)
      rw [hahead]
      exact left.tail ht
    · change b.ahead.length ≤ 1
      rw [hahead]
      exact Nat.zero_le _

end TokenBuffer

namespace Routine

open Point (Proceeds)
open TokenBuffer (Ready Settled Took)

variable {α : Type} {b b' : TokenBuffer} {t : Token} {Q : α → TokenBuffer → Prop}
  {failure : Failure}

/-- What is illegal is reported when it is looked at. -/
theorem proceeds_look {offset : Nat} {next : TokenKind → Routine α} (h : b.Ready)
    (ho : offset < maxLookahead) (hlen : b.ahead.length = offset)
    (hname : ∀ u ∈ b.ahead, u.kind = .identifier)
    (hnext : ∀ t b', b'.Ready → b'.ahead = b.ahead ++ [t] → Proceeds Q ⟨next t.kind, b'⟩) :
    Proceeds Q ⟨.look offset next, b⟩ := by
  have going : ∀ u ∈ b.ahead, u.kind.isLast = false := fun u hu => by rw [hname u hu]; rfl
  obtain ⟨t, s, hs⟩ := h.exists_next? going
  by_cases ht : t.kind = .illegal
  · refine .advance (.rejectAhead ho hlen.le hs ht) (.fail (t := t) ?_ ?_)
    · rw [Failure.At, ← ht]
    · exact List.getLast?_concat
  · refine .advance (.fetch ho hlen.le hs ht) (.advance (.seen ho ?_) (hnext t _ ?_ rfl))
    · rw [← hlen]
      exact List.getElem?_concat_length
    · exact h.look hs hname (hlen ▸ Nat.le_of_lt_succ ho)

/-- The kind of the next token is looked at. -/
theorem proceeds_peek_zero {f : TokenKind → Routine α} (h : b.Ready)
    (hf : ∀ t rest b', b'.Ready → b'.ahead = t :: rest → (b.Settled → b'.Settled) →
      Proceeds Q ⟨f t.kind, b'⟩) : Proceeds Q ⟨peek 0 >>= f, b⟩ := by
  change Proceeds Q ⟨.look 0 f, b⟩
  rcases hahead : b.ahead with _ | ⟨t, rest⟩
  · refine proceeds_look h Nat.two_pos (by rw [hahead]; rfl) (by rw [hahead]; nofun) ?_
    intro t b' hb' hahead'
    rw [hahead, List.nil_append] at hahead'
    exact hf t [] b' hb' hahead' fun _ => ⟨hb', by rw [hahead']; exact Nat.le_refl _⟩
  · exact .advance (.seen Nat.two_pos (t := t) (by rw [hahead]; rfl)) (hf t rest b h hahead id)

/-- The kind of the token after a name is looked at. -/
theorem proceeds_peek_one {f : TokenKind → Routine α} (h : b.Ready) (hahead : b.ahead = [t])
    (ht : t.kind = .identifier)
    (hf : ∀ u b', b'.Ready → b'.ahead = [t, u] → Proceeds Q ⟨f u.kind, b'⟩) :
    Proceeds Q ⟨peek 1 >>= f, b⟩ := by
  change Proceeds Q ⟨.look 1 f, b⟩
  refine proceeds_look h Nat.one_lt_two (by rw [hahead]; rfl) ?_ fun u b' hb' hahead' => ?_
  · rw [hahead]
    exact List.forall_mem_singleton.2 ht
  · exact hf u b' hb' (by rw [hahead', hahead]; rfl)

theorem proceeds_next {f : Token → Routine α} (h : b.Ready)
    (hf : ∀ t b', Took b t b' → Proceeds Q ⟨f t, b'⟩) : Proceeds Q ⟨next >>= f, b⟩ := by
  change Proceeds Q ⟨.take f, b⟩
  rcases hahead : b.ahead with _ | ⟨t, rest⟩
  · obtain ⟨t, s, hs⟩ := h.exists_next? (by rw [hahead]; nofun)
    by_cases ht : t.kind = .illegal
    · refine .advance (.rejectNew hahead hs ht) (.fail (t := t) ?_ List.getLast?_concat)
      rw [Failure.At, ← ht]
    · exact .advance (.takeNew hahead hs ht) (hf t _ (.of_next? h hahead hs))
  · exact .advance (.takeSeen hahead) (hf t _ (.of_ahead h hahead))

/-- A failure at a token that has been taken, if no other has been looked at. -/
theorem proceeds_fail_of_took (h : Took b t b') (hlen : b.ahead.length ≤ 1)
    (hat : failure.At t) : Proceeds Q ⟨.fail failure, b'⟩ := by
  refine .fail hat ?_
  have hahead : b'.ahead = [] := by
    rw [h.ahead]
    exact List.length_eq_zero_iff.1 (by rw [List.length_tail]; omega)
  rw [TokenBuffer.fetched, hahead, h.clean, List.append_nil, Option.toList_none, List.append_nil,
    h.last]

/-- A failure at a token that has been looked at and not been taken. -/
theorem proceeds_fail_of_ahead {rest : List Token} (h : b.Settled) (hahead : b.ahead = t :: rest)
    (hat : failure.At t) : Proceeds Q ⟨.fail failure, b⟩ := by
  refine .fail hat ?_
  obtain rfl := h.rest_eq_nil hahead
  rw [TokenBuffer.fetched, hahead, h.clean, Option.toList_none, List.append_nil,
    List.getLast?_concat]

/-- A check of the next token. If another one has been looked at, then the check does not fail. -/
theorem proceeds_expect {kind : TokenKind} {label : String} (h : b.Ready)
    (hfit : b.ahead.length ≤ 1 ∨ ∃ t ∈ b.ahead.head?, t.kind = kind) (hkind : kind.isLast = false) :
    Proceeds (fun t b' => Took b t b' ∧ t.kind = kind ∧ b'.Settled) ⟨expect kind label, b⟩ := by
  refine proceeds_next h fun t b' took => ?_
  split
  · next ht => exact .done ⟨took, ht, took.settled (ht ▸ hkind)⟩
  · next ht =>
    have short : b.ahead.length ≤ 1 := by
      refine hfit.resolve_right ?_
      rintro ⟨u, hu, hkind⟩
      exact ht (took.head u hu ▸ hkind)
    split
    · next hend => exact proceeds_fail_of_took took short hend
    · exact proceeds_fail_of_took took short rfl

theorem proceeds_number (h : b.Settled) : Proceeds (fun _ => Settled) ⟨number, b⟩ := by
  refine (proceeds_expect h.toReady (.inl h.length_le) rfl).bind ?_
  rintro t b' ⟨took, ht, settled⟩
  rcases Conversion.ofText (Numeral.split t.text.toList).1.base
    (Numeral.split t.text.toList).2 with reason | value
  · refine proceeds_fail_of_took took h.length_le ?_
    rw [Failure.At, ← ht]
  · exact .done settled

theorem proceeds_complement (h : b.Settled) : Proceeds (fun _ => Settled) ⟨complement, b⟩ := by
  refine (proceeds_expect h.toReady (.inl h.length_le) rfl).bind ?_
  rintro t b' ⟨-, -, settled⟩
  exact (proceeds_number settled).bind fun _ _ hb => .done hb

theorem proceeds_binaryOperator (h : b.Settled) :
    Proceeds (fun _ => Settled) ⟨binaryOperator, b⟩ := by
  refine proceeds_next h.toReady fun t b' took => ?_
  rcases ht : t.kind with _ | _ | _ | _ | _ | _ | op | _ | _
  case binary => exact .done (took.settled (by rw [ht]; rfl))
  all_goals exact proceeds_fail_of_took took h.length_le rfl

/-! ### Statements -/

/-- The functions proceed and leave no more than one token that has been looked at. An operand may
    begin with a name after which another token has been looked at. -/
structure Proceeding (calls : Nat) : Prop where
  statement : ∀ depth b, b.Settled → Proceeds (fun _ => Settled) ⟨statement calls depth, b⟩
  assignment : ∀ depth b, b.Ready → (∃ t ∈ b.ahead.head?, t.kind = .identifier) →
    Proceeds (fun _ => Settled) ⟨assignment calls depth, b⟩
  chain : ∀ depth b, b.Ready → Proceeds (fun _ => Settled) ⟨chain calls depth, b⟩
  links : ∀ depth left b, b.Settled → Proceeds (fun _ => Settled) ⟨links calls depth left, b⟩
  operand : ∀ depth b, b.Ready → Proceeds (fun _ => Settled) ⟨operand calls depth, b⟩
  group : ∀ depth b, b.Settled → Proceeds (fun _ => Settled) ⟨group calls depth, b⟩

namespace Proceeding

variable {calls depth : Nat} {left : Node}

theorem statement_succ (ih : Proceeding calls) (h : b.Settled) :
    Proceeds (fun _ => Settled) ⟨Routine.statement (calls + 1) depth, b⟩ := by
  rw [Routine.statement]
  refine proceeds_peek_zero h.toReady fun t rest b' hb' hahead hsettled => ?_
  obtain rfl := (hsettled h).rest_eq_nil hahead
  split
  · next ht =>
    refine proceeds_peek_one hb' hahead ht fun u b'' hb'' hahead' => ?_
    split
    · exact ih.assignment depth b'' hb'' ⟨t, by rw [hahead']; rfl, ht⟩
    · exact ih.chain depth b'' hb''
  · exact ih.chain depth b' hb'

theorem assignment_succ (ih : Proceeding calls) (h : b.Ready)
    (hname : ∃ t ∈ b.ahead.head?, t.kind = .identifier) :
    Proceeds (fun _ => Settled) ⟨Routine.assignment (calls + 1) depth, b⟩ := by
  rw [Routine.assignment]
  refine (proceeds_expect h (.inr hname) rfl).bind ?_
  rintro t b' ⟨-, -, hb'⟩
  refine (proceeds_expect hb'.toReady (.inl hb'.length_le) rfl).bind ?_
  rintro u b'' ⟨-, -, hb''⟩
  exact (ih.chain depth b'' hb''.toReady).bind fun _ _ hb => .done hb

theorem chain_succ (ih : Proceeding calls) (h : b.Ready) :
    Proceeds (fun _ => Settled) ⟨Routine.chain (calls + 1) depth, b⟩ := by
  rw [Routine.chain]
  exact (ih.operand depth b h).bind fun first b' hb' => ih.links depth first b' hb'

theorem links_succ (ih : Proceeding calls) (h : b.Settled) :
    Proceeds (fun _ => Settled) ⟨Routine.links (calls + 1) depth left, b⟩ := by
  rw [Routine.links]
  refine proceeds_peek_zero h.toReady fun t rest b' _ _ hsettled => ?_
  have settled := hsettled h
  have goesOn : Proceeds (fun _ => Settled) ⟨(do
      let op ← Routine.binaryOperator
      let right ← Routine.operand calls depth
      Routine.links calls depth (.combine op left right)), b'⟩ := by
    refine (proceeds_binaryOperator settled).bind fun op b'' hb'' => ?_
    exact (ih.operand depth b'' hb''.toReady).bind fun right b hb => ih.links depth _ b hb
  rcases t.kind
  case endOfInput | closeParen => exact .done settled
  all_goals exact goesOn

theorem operand_succ (ih : Proceeding calls) (h : b.Ready) :
    Proceeds (fun _ => Settled) ⟨Routine.operand (calls + 1) depth, b⟩ := by
  rw [Routine.operand]
  refine proceeds_peek_zero h fun t rest b' hb' hahead _ => ?_
  by_cases hname : t.kind = .identifier
  · rw [hname]
    refine proceeds_next hb' fun u b'' took => .done (took.settled ?_)
    obtain rfl := took.head t (by rw [hahead]; rfl)
    rw [hname]
    rfl
  · have settled := hb'.settled hahead hname
    rcases ht : t.kind
    case openParen => exact ih.group depth b' settled
    case tilde => exact proceeds_complement settled
    case identifier => exact absurd ht hname
    case endOfInput => exact proceeds_fail_of_ahead settled hahead ht
    all_goals exact proceeds_number settled

theorem group_succ (ih : Proceeding calls) (h : b.Settled) :
    Proceeds (fun _ => Settled) ⟨Routine.group (calls + 1) depth, b⟩ := by
  rw [Routine.group]
  refine (proceeds_expect h.toReady (.inl h.length_le) rfl).bind ?_
  rintro t b' ⟨took, ht, hb'⟩
  split
  · exact proceeds_fail_of_took took h.length_le ⟨ht, rfl⟩
  · refine (ih.statement (depth + 1) b' hb').bind fun node b'' hb'' => ?_
    refine (proceeds_expect hb''.toReady (.inl hb''.length_le) rfl).bind ?_
    rintro u r ⟨-, -, hr⟩
    exact .done hr

end Proceeding

/-- Every function proceeds, since it does so if the functions that it calls do. -/
theorem proceeding (calls : Nat) : Proceeding calls := by
  induction calls with
  | zero =>
    constructor <;> intros
    · rw [statement]; exact .unfinished
    · rw [assignment]; exact .unfinished
    · rw [chain]; exact .unfinished
    · rw [links]; exact .unfinished
    · rw [operand]; exact .unfinished
    · rw [group]; exact .unfinished
  | succ calls ih =>
    exact {
      statement := fun _ _ => ih.statement_succ
      assignment := fun _ _ => ih.assignment_succ
      chain := fun _ _ => ih.chain_succ
      links := fun _ _ _ => ih.links_succ
      operand := fun _ _ => ih.operand_succ
      group := fun _ _ => ih.group_succ }

theorem proceeds_whole (h : b.Settled) (calls : Nat) :
    Proceeds (fun _ _ => True) ⟨whole calls, b⟩ := by
  refine proceeds_peek_zero h.toReady fun t rest b' _ hahead hsettled => ?_
  have settled := hsettled h
  split
  · next ht => exact proceeds_fail_of_ahead settled hahead ht
  · refine ((proceeding calls).statement 0 b' settled).bind fun node b'' hb'' => ?_
    refine proceeds_next hb''.toReady fun u r took => ?_
    split
    · exact .done trivial
    · exact proceeds_fail_of_took took hb''.length_le rfl

end Routine

end Bitwise
