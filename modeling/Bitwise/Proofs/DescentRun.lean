import Bitwise.Proofs.Descent
import Bitwise.Proofs.Faults

/-!
# Descent and parser

Every function of the descent leads the parser from the state in which it is called to one in which
it returns (`Descent.Leads`): a number, an operand and the rest of a chain go on what waits for
them, and a statement leaves a chain that has come to its end. This is shown of all functions
together (`Descent.leading`), by an induction on the calls that may be nested. Of those there are
always enough, since a token is taken after at most four.

So a descent always comes to an end, and to the same one as the parser (`Descent.parse_eq`). What no
parser fails with is nothing that a descent fails with.
-/

namespace Bitwise

/-! ## The head of a scanner -/

section Pull

variable {s s' s'' : Scanner} {t u : Token} {p q : Parser} {e : ParseError}

theorem Scanner.kind_ne_illegal_of_pull (h : s.pull = .ok (t, s')) : t.kind ≠ .illegal := by
  rw [pull] at h
  split at h
  · cases h
    exact TokenKind.noConfusion
  · split at h
    · cases h
    · next ht =>
      cases h
      exact ht

theorem Scanner.next?_of_pull (h : s.pull = .ok (t, s')) (ht : t.kind ≠ .endOfInput) :
    s.next? = some (t, s') := by
  rw [pull] at h
  split at h
  · cases h
    exact absurd rfl ht
  · next hnext =>
    split at h <;> cases h
    exact hnext

/-- Taking a token leaves less, unless it is the end. -/
theorem Scanner.remaining_lt_of_pull (h : s.pull = .ok (t, s')) (ht : t.kind ≠ .endOfInput) :
    s'.remaining < s.remaining :=
  remaining_lt_of_next? (next?_of_pull h ht)

/-- The text of a token that is scanned is a lexeme of its kind. -/
theorem Scanner.lexeme_of_pull (h : s.pull = .ok (t, s')) (ht : t.kind.isLast = false) :
    Lexeme t.kind t.text.toList := by
  have hnext := next?_of_pull h (Parser.kind_ne_endOfInput_of_isLast ht)
  have hfinished : s.finished = false := by
    rw [next?] at hnext
    split at hnext
    · cases hnext
    · next hs => exact eq_false_of_ne_true hs
  obtain ⟨rest, offset, finished⟩ := s
  cases hfinished
  have first : tokensAt offset rest = [t] ++ s'.tokens := tokens_of_next?_eq_some hnext
  obtain ⟨_, _, _, spelled, _⟩ := exists_spelling first (List.forall_mem_singleton.2 ht)
  exact spelled.lexeme_of_mem t (List.mem_singleton_self t)

namespace Parser

/-- What is no token is at fault in all states. -/
theorem run_of_pull_error (h : s.pull = .error e) (p : Parser) : p.run s = .error e := by
  rw [Scanner.pull] at h
  split at h
  · cases h
  · next u s' hnext =>
    split at h <;> cases h
    next hu =>
    have hend : u.kind ≠ .endOfInput := by
      rw [hu]
      exact TokenKind.noConfusion
    rw [run_eq_runTokens, Scanner.tokens_of_next?_eq_some hnext, runTokens, if_neg hend,
      feed_of_illegal hu]

theorem run_of_pull_end (h : s.pull = .ok (t, s')) (ht : t.kind = .endOfInput) (p : Parser) :
    p.run s = p.finish := by
  rw [Scanner.pull] at h
  rw [run_eq_runTokens]
  split at h
  · next hnext =>
    rw [Scanner.tokens_of_next?_eq_none hnext, runTokens]
  · next hnext =>
    split at h <;> cases h
    rw [Scanner.tokens_of_next?_eq_some hnext, runTokens, if_pos ht]

theorem run_of_pull_step (h : s.pull = .ok (t, s')) (hstep : Step p t q) :
    p.run s = q.run s' := by
  have hend := kind_ne_endOfInput_of_isLast hstep.isLast_eq_false
  rw [run_eq_runTokens, Scanner.tokens_of_next?_eq_some (Scanner.next?_of_pull h hend), runTokens,
    if_neg hend, hstep.feed_eq, run_eq_runTokens]

theorem run_of_pull_feed (h : s.pull = .ok (t, s')) (ht : t.kind ≠ .endOfInput)
    (he : p.feed t = .error e) : p.run s = .error e := by
  rw [run_eq_runTokens, Scanner.tokens_of_next?_eq_some (Scanner.next?_of_pull h ht), runTokens,
    if_neg ht, he]

theorem run_congr (h : s.pull = .ok (t, s')) (ht : t.kind ≠ .endOfInput)
    (hfeed : p.feed t = q.feed t) : p.run s = q.run s := by
  rw [run_eq_runTokens, run_eq_runTokens,
    Scanner.tokens_of_next?_eq_some (Scanner.next?_of_pull h ht), runTokens, runTokens, if_neg ht,
    if_neg ht, hfeed]

/-- A token that fits in no step is at fault. -/
theorem run_of_pull_unexpected (h : s.pull = .ok (t, s')) (ht : t.kind ≠ .endOfInput)
    (hstep : ∀ q, ¬Step p t q)
    (hparen : ∀ pending, p.progress.pending? = some pending → t.kind ≠ .openParen)
    (hnumber : p.progress.expected = .number → t.kind ≠ .number) :
    p.run s = .error (.unexpectedToken p.progress.expected t) := by
  have hfeed := feed_eq_unexpected hstep hparen hnumber
  rw [ParseError.unexpected, if_neg (Scanner.kind_ne_illegal_of_pull h)] at hfeed
  exact run_of_pull_feed h ht hfeed

/-- Only an operator and a closing parenthesis can follow a chain. -/
theorem run_of_pull_chain {groups : List Group} {target : Option Target} {tree : Node}
    (h : s.pull = .ok (t, s')) (hend : t.kind ≠ .endOfInput) (hclose : t.kind ≠ .closeParen)
    (hop : ∀ op, t.kind ≠ .binary op) :
    run ⟨groups, .chain target tree⟩ s = .error (.unexpectedToken .operation t) := by
  refine run_of_pull_unexpected h hend (fun q step => ?_) nofun nofun
  cases step with
  | openGroup hp _ _ | tilde hp _ | literal hp _ _ => cases hp
  | operator _ hk => exact hop _ hk
  | closeGroup _ hk _ => exact hclose hk

/-- A name that is not assigned to is a variable. -/
theorem run_name {groups : List Group} (h : s.pull = .ok (u, s')) (hu : u.kind ≠ .equal) :
    run ⟨groups, .name t⟩ s = run ⟨groups, .chain none (.var t.text t.span)⟩ s := by
  by_cases hend : u.kind = .endOfInput
  · rw [run_of_pull_end h hend, run_of_pull_end h hend]
    cases groups <;> rfl
  · refine run_congr h hend ?_
    rw [feed_eq_feedChain rfl hu, feed_eq_feedChain rfl hu]

/-- A statement that begins with a name that is not assigned to begins with an operand. -/
theorem run_start_name {groups : List Group} (h : s.pull = .ok (t, s')) (ht : t.kind = .identifier)
    (h' : s'.pull = .ok (u, s'')) (hu : u.kind ≠ .equal) :
    run ⟨groups, .start⟩ s = run ⟨groups, .operand .fresh⟩ s := by
  rw [run_of_pull_step h (.name ht), run_of_pull_step h (.var ht), run_name h' hu]
  rfl

/-- A statement that does not begin with a name begins with an operand. -/
theorem run_start_other {groups : List Group} (h : s.pull = .ok (t, s'))
    (ht : t.kind ≠ .identifier) (hgroups : t.kind = .endOfInput → groups ≠ []) :
    run ⟨groups, .start⟩ s = run ⟨groups, .operand .fresh⟩ s := by
  by_cases hend : t.kind = .endOfInput
  · obtain ⟨group, groups, rfl⟩ := List.exists_cons_of_ne_nil (hgroups hend)
    rw [run_of_pull_end h hend, run_of_pull_end h hend]
    rfl
  · exact run_congr h hend (feed_eq_feedOperand rfl ht)

end Parser

end Pull

namespace Descent

/-! ## Leading the parser -/

variable {α β : Type} {x : Descent α} {f : α → Descent β} {s s' s'' : Scanner} {t u : Token}
  {p q : Parser} {e : ParseError} {Q : α → Scanner → Parser → Prop}
  {R : β → Scanner → Parser → Prop} {groups : List Group} {pending : Pending}
  {target : Option Target} {left : Node}

/-- A function of the descent comes to an end. If it returns, then the parser runs on from another
    state where the function returns, and if it fails, then so does the parser. -/
inductive Leads (x : Descent α) (s : Scanner) (p : Parser) (Q : α → Scanner → Parser → Prop) :
    Prop
  | ok {a : α} {s' : Scanner} {q : Parser} : Yields x s (.ok (a, s')) →
    s'.remaining ≤ s.remaining → p.run s = q.run s' → Q a s' q → Leads x s p Q
  | error {e : ParseError} : Yields x s (.error e.failure) → p.run s = .error e → Leads x s p Q

theorem Leads.bind (hx : Leads x s p Q)
    (hf : ∀ a s' q, s'.remaining ≤ s.remaining → Q a s' q → Leads (f a) s' q R) :
    Leads (x >>= f) s p R := by
  cases hx with
  | error hx hp => exact .error hx.bind_error hp
  | ok hx hs hp hq =>
    cases hf _ _ _ hs hq with
    | error hf hq => exact .error (hx.bind hf) (hp.trans hq)
    | ok hf hs' hq hr => exact .ok (hx.bind hf) (hs'.trans hs) (hp.trans hq) hr

theorem Leads.pure {a : α} (h : Q a s p) : Leads (pure a) s p Q :=
  .ok (yields_pure a s) (Nat.le_refl _) rfl h

/-- What takes no token is no matter to the parser. -/
theorem Leads.of_yields {a : α} (hx : Yields x s (.ok (a, s))) (hf : Leads (f a) s p R) :
    Leads (x >>= f) s p R := by
  cases hf with
  | error hf hp => exact .error (hx.bind hf) hp
  | ok hf hs hp hr => exact .ok (hx.bind hf) hs hp hr

/-- A token is taken as the parser takes it. -/
theorem Leads.of_step {a : α} (hx : Yields x s (.ok (a, s'))) (h : s.pull = .ok (t, s'))
    (hstep : Parser.Step p t q) (hf : Leads (f a) s' q R) : Leads (x >>= f) s p R := by
  have less := Scanner.remaining_lt_of_pull h
    (Parser.kind_ne_endOfInput_of_isLast hstep.isLast_eq_false)
  have runs := Parser.run_of_pull_step h hstep
  cases hf with
  | error hf hp => exact .error (hx.bind hf) (runs.trans hp)
  | ok hf hs hp hr => exact .ok (hx.bind hf) (hs.trans less.le) (runs.trans hp) hr

/-- The kind of the next token is looked at. -/
theorem Leads.peek {f : TokenKind → Descent β} (hf : ∀ t s', s.pull = .ok (t, s') →
    Leads (f t.kind) s p R) : Leads (Descent.peek 0 >>= f) s p R := by
  cases h : s.pull with
  | error e => exact .error (yields_peek_zero_error h).bind_error (Parser.run_of_pull_error h p)
  | ok r => exact .of_yields (yields_peek_zero h) (hf r.1 r.2 h)

/-- A chain has been read as far as it goes: the text ends, or a group. -/
def AtEnd (s : Scanner) : Prop :=
  ∃ t s', s.pull = .ok (t, s') ∧ (t.kind = .endOfInput ∨ t.kind = .closeParen)

/-! ### Numbers -/

/-- A number is read where only a number can stand, or where none of the other operands does. -/
theorem leads_number {fill : Node → Parser} (h : s.pull = .ok (t, s'))
    (hend : t.kind = .endOfInput → p.finish = .error (.unexpectedEnd .number))
    (hnumber : t.kind = .number → p.feed t = t.literal.map fill)
    (hother : t.kind ≠ .endOfInput → t.kind ≠ .number →
      p.run s = .error (.unexpectedToken .number t)) :
    Leads number s p fun node _ q => q = fill node := by
  rw [number]
  by_cases ht : t.kind = .endOfInput
  · have hrun := (Parser.run_of_pull_end h ht p).trans (hend ht)
    exact .error (yields_expect_end h ht TokenKind.noConfusion).bind_error hrun
  by_cases hk : t.kind = .number
  · have lexeme : Lexeme t.kind t.text.toList := Scanner.lexeme_of_pull h (by rw [hk]; rfl)
    rw [hk] at lexeme
    have hfeed := hnumber hk
    rcases Token.literal_cases lexeme with ⟨value, hconv, hliteral⟩ | ⟨hconv, hliteral⟩
    · rw [hliteral] at hfeed
      refine .of_step (yields_expect h hk) h (Parser.feed_eq_ok_iff.1 hfeed) ?_
      rw [hconv]
      exact .pure rfl
    · rw [hliteral] at hfeed
      refine .error ((yields_expect h hk).bind ?_) (Parser.run_of_pull_feed h ht hfeed)
      rw [hconv]
      exact yields_throw _ s'
  · exact .error (yields_expect_other h hk ht).bind_error (hother ht hk)

/-- A number is read where an operand has to come and no other operand begins. -/
theorem leads_number_operand (h : s.pull = .ok (t, s')) (hparen : t.kind ≠ .openParen)
    (htilde : t.kind ≠ .tilde) (hname : t.kind ≠ .identifier) (hend : t.kind ≠ .endOfInput) :
    Leads number s ⟨groups, .operand pending⟩
      fun node _ q => q = ⟨groups, pending.fill node⟩ := by
  refine leads_number h (fun ht => absurd ht hend) (fun ht => ?_) fun _ hnumber => ?_
  · show Parser.feedOperand _ _ _ = _
    rw [Parser.feedOperand.eq_def, ht]
  · refine Parser.run_of_pull_unexpected h hend (fun q step => ?_) (fun _ _ => hparen)
      fun _ => hnumber
    cases step <;> contradiction

theorem leads_complement (h : s.pull = .ok (t, s')) (ht : t.kind = .tilde) :
    Leads complement s ⟨groups, .operand pending⟩
      fun node _ q => q = ⟨groups, pending.fill node⟩ := by
  refine .of_step (yields_expect h ht) h (.tilde rfl ht) ?_
  cases h' : s'.pull with
  | error e =>
    exact .error (yields_expect_error h').bind_error.bind_error (Parser.run_of_pull_error h' _)
  | ok r =>
    obtain ⟨u, s''⟩ := r
    have reads : Leads number s' ⟨groups, .number pending t.span⟩ fun node _ q =>
        q = ⟨groups, pending.fill (.complement node (t.span.cover node.mark))⟩ := by
      refine leads_number h' (fun _ => rfl) (fun hu => ?_) fun hend hu => ?_
      · show Parser.feedNumber _ _ _ _ = _
        rw [Parser.feedNumber.eq_def, hu]
      · refine Parser.run_of_pull_unexpected h' hend (fun q step => ?_) (fun _ hp => ?_) fun _ => hu
        · cases step <;> contradiction
        · cases hp
    exact reads.bind fun node _ q _ hq => .pure hq

/-! ### Statements -/

/-- What a statement that has been read leaves: a chain, at its end. -/
def Read (groups : List Group) (node : Node) (s : Scanner) (p : Parser) : Prop :=
  AtEnd s ∧ ∃ target tree, p = ⟨groups, .chain target tree⟩ ∧ node = statementTree target tree

/-- The functions lead the parser, if enough calls may be nested for what remains of the text. -/
structure Leading (calls : Nat) : Prop where
  /-- A statement is read at the start of one, if there is anything to read. -/
  statement : ∀ groups s, 4 * s.remaining + 4 ≤ calls →
    (∀ t s', s.pull = .ok (t, s') → t.kind = .endOfInput → groups ≠ []) →
    Leads (statement calls groups.length) s ⟨groups, .start⟩ (Read groups)
  assignment : ∀ groups s s' s'' t u, 4 * s.remaining + 3 ≤ calls → s.pull = .ok (t, s') →
    t.kind = .identifier → s'.pull = .ok (u, s'') → u.kind = .equal →
    Leads (assignment calls groups.length) s ⟨groups, .start⟩ (Read groups)
  chain : ∀ groups s target, 4 * s.remaining + 3 ≤ calls →
    Leads (chain calls groups.length) s ⟨groups, .operand ⟨target, none⟩⟩
      fun node s' q => AtEnd s' ∧ q = ⟨groups, .chain target node⟩
  links : ∀ groups s target left, 4 * s.remaining + 1 ≤ calls →
    Leads (links calls groups.length left) s ⟨groups, .chain target left⟩
      fun node s' q => AtEnd s' ∧ q = ⟨groups, .chain target node⟩
  operand : ∀ groups s pending, 4 * s.remaining + 2 ≤ calls →
    Leads (operand calls groups.length) s ⟨groups, .operand pending⟩
      fun node _ q => q = ⟨groups, pending.fill node⟩
  group : ∀ groups s s' t pending, 4 * s.remaining + 1 ≤ calls → s.pull = .ok (t, s') →
    t.kind = .openParen → Leads (group calls groups.length) s ⟨groups, .operand pending⟩
      fun node _ q => q = ⟨groups, pending.fill node⟩

namespace Leading

variable {calls : Nat}

theorem group_succ (ih : Leading calls) (hcalls : 4 * s.remaining + 1 ≤ calls + 1)
    (h : s.pull = .ok (t, s')) (ht : t.kind = .openParen) :
    Leads (Descent.group (calls + 1) groups.length) s ⟨groups, .operand pending⟩
      fun node _ q => q = ⟨groups, pending.fill node⟩ := by
  have hend : t.kind ≠ .endOfInput := by
    rw [ht]
    exact TokenKind.noConfusion
  have less := Scanner.remaining_lt_of_pull h hend
  rw [Descent.group]
  by_cases hg : groups.length = maxNesting
  · have hfeed := Parser.feed_tooDeep (p := ⟨groups, .operand pending⟩) rfl ht hg
    refine .error ((yields_expect h ht).bind ?_) (Parser.run_of_pull_feed h hend hfeed)
    rw [if_pos hg]
    exact yields_throw _ s'
  · refine .of_step (yields_expect h ht) h (.openGroup rfl ht hg) ?_
    rw [if_neg hg]
    have body := ih.statement (⟨t.span, pending⟩ :: groups) s' (by omega)
      fun _ _ _ _ => List.cons_ne_nil _ _
    refine body.bind fun node s'' q _ hq => ?_
    obtain ⟨⟨u, r, hu, hk⟩, target, tree, rfl, rfl⟩ := hq
    rcases hk with hk | hk
    · exact .error (yields_expect_end hu hk TokenKind.noConfusion).bind_error
        (Parser.run_of_pull_end hu hk _)
    · exact .of_step (yields_expect hu hk) hu (.closeGroup rfl hk rfl) (.pure rfl)

theorem operand_succ (ih : Leading calls) (hcalls : 4 * s.remaining + 2 ≤ calls + 1) :
    Leads (Descent.operand (calls + 1) groups.length) s ⟨groups, .operand pending⟩
      fun node _ q => q = ⟨groups, pending.fill node⟩ := by
  rw [Descent.operand]
  refine .peek fun t s' h => ?_
  cases ht : t.kind with
  | openParen => exact ih.group groups s s' t pending (by omega) h ht
  | tilde => exact leads_complement h ht
  | identifier => exact .of_step (yields_next h) h (.var ht) (.pure rfl)
  | endOfInput => exact .error (yields_throw _ s) (Parser.run_of_pull_end h ht _)
  | illegal => exact absurd ht (Scanner.kind_ne_illegal_of_pull h)
  | number | closeParen | equal | binary _ =>
    exact leads_number_operand h (by simp [ht]) (by simp [ht]) (by simp [ht]) (by simp [ht])

theorem links_succ (ih : Leading calls) (hcalls : 4 * s.remaining + 1 ≤ calls + 1) :
    Leads (Descent.links (calls + 1) groups.length left) s ⟨groups, .chain target left⟩
      fun node s' q => AtEnd s' ∧ q = ⟨groups, .chain target node⟩ := by
  rw [Descent.links]
  refine .peek fun t s' h => ?_
  cases ht : t.kind with
  | endOfInput => exact .pure ⟨⟨t, s', h, .inl ht⟩, rfl⟩
  | closeParen => exact .pure ⟨⟨t, s', h, .inr ht⟩, rfl⟩
  | binary op =>
    have less := Scanner.remaining_lt_of_pull h (by rw [ht]; exact TokenKind.noConfusion)
    have taken : Yields binaryOperator s (.ok (op, s')) := by
      refine (yields_next h).bind ?_
      rw [ht]
      exact yields_pure op s'
    refine .of_step taken h (.operator rfl ht) ?_
    refine (ih.operand groups s' _ (by omega)).bind fun node s'' q hs hq => ?_
    subst hq
    exact ih.links groups s'' target _ (by omega)
  | illegal => exact absurd ht (Scanner.kind_ne_illegal_of_pull h)
  | identifier | number | openParen | equal | tilde =>
    have failed : Yields binaryOperator s (.error (.unexpectedToken "OPERATION" t)) := by
      refine (yields_next h).bind ?_
      rw [ht]
      exact yields_throw _ s'
    exact .error failed.bind_error
      (Parser.run_of_pull_chain h (by simp [ht]) (by simp [ht]) (by simp [ht]))

theorem chain_succ (ih : Leading calls) (hcalls : 4 * s.remaining + 3 ≤ calls + 1) :
    Leads (Descent.chain (calls + 1) groups.length) s ⟨groups, .operand ⟨target, none⟩⟩
      fun node s' q => AtEnd s' ∧ q = ⟨groups, .chain target node⟩ := by
  rw [Descent.chain]
  refine (ih.operand groups s _ (by omega)).bind fun node s' q hs hq => ?_
  subst hq
  exact ih.links groups s' target node (by omega)

theorem assignment_succ (ih : Leading calls) (hcalls : 4 * s.remaining + 3 ≤ calls + 1)
    (h : s.pull = .ok (t, s')) (ht : t.kind = .identifier) (h' : s'.pull = .ok (u, s''))
    (hu : u.kind = .equal) :
    Leads (Descent.assignment (calls + 1) groups.length) s ⟨groups, .start⟩ (Read groups) := by
  have less := Scanner.remaining_lt_of_pull h (by rw [ht]; exact TokenKind.noConfusion)
  have less' := Scanner.remaining_lt_of_pull h' (by rw [hu]; exact TokenKind.noConfusion)
  rw [Descent.assignment]
  refine .of_step (yields_expect h ht) h (.name ht) ?_
  refine .of_step (yields_expect h' hu) h' (.target hu) ?_
  refine (ih.chain groups s'' _ (by omega)).bind fun node r q _ hq => ?_
  obtain ⟨hend, rfl⟩ := hq
  exact .pure ⟨hend, _, _, rfl, rfl⟩

/-- A chain that is assigned to nothing is a statement. -/
theorem chain_start (ih : Leading calls) (hcalls : 4 * s.remaining + 3 ≤ calls)
    (hrun : Parser.run ⟨groups, .start⟩ s = Parser.run ⟨groups, .operand .fresh⟩ s) :
    Leads (Descent.chain calls groups.length) s ⟨groups, .start⟩ (Read groups) := by
  cases ih.chain groups s none hcalls with
  | error hx hp => exact .error hx (hrun.trans hp)
  | ok hx hs hp hq => exact .ok hx hs (hrun.trans hp) ⟨hq.1, none, _, hq.2, rfl⟩

theorem statement_succ (ih : Leading calls) (hcalls : 4 * s.remaining + 4 ≤ calls + 1)
    (hstart : ∀ t s', s.pull = .ok (t, s') → t.kind = .endOfInput → groups ≠ []) :
    Leads (Descent.statement (calls + 1) groups.length) s ⟨groups, .start⟩ (Read groups) := by
  rw [Descent.statement]
  refine .peek fun t s' h => ?_
  split
  · next ht =>
    -- whether a name is assigned to is seen from the token after it
    cases h' : s'.pull with
    | error e =>
      have hrun := (Parser.run_of_pull_step h (.name ht)).trans
        (Parser.run_of_pull_error (p := ⟨groups, .name t⟩) h')
      exact .error (yields_peek_one_error h h').bind_error hrun
    | ok r =>
      obtain ⟨u, s''⟩ := r
      refine .of_yields (yields_peek_one h h') ?_
      split
      · next hu => exact ih.assignment groups s s' s'' t u (by omega) h ht h' hu
      · next hu => exact ih.chain_start (by omega) (Parser.run_start_name h ht h' hu)
  · next ht => exact ih.chain_start (by omega) (Parser.run_start_other h ht (hstart t s' h))

end Leading

/-- Every function leads the parser, since it does so if the functions that it calls do. -/
theorem leading (calls : Nat) : Leading calls := by
  induction calls with
  | zero => constructor <;> intros <;> omega
  | succ calls ih =>
    exact {
      statement := fun _ _ => ih.statement_succ
      assignment := fun _ _ _ _ _ _ => ih.assignment_succ
      chain := fun _ _ _ => ih.chain_succ
      links := fun _ _ _ _ => ih.links_succ
      operand := fun _ _ _ => ih.operand_succ
      group := fun _ _ _ _ _ => ih.group_succ }

/-! ### Whole texts -/

/-- A statement at the start of a text that is not blank: the descent comes to an end where the
    parser does, and with the same. -/
theorem yields_alone (h : s.pull = .ok (t, s')) (ht : t.kind ≠ .endOfInput) :
    (∃ node r, Yields (alone (callsFor s)) s (.ok (node, r)) ∧
      Parser.initial.run s = .ok node) ∨
    ∃ e, Yields (alone (callsFor s)) s (.error (ParseError.failure e)) ∧
      Parser.initial.run s = .error e := by
  have reads : Leads (statement (callsFor s) 0) s ⟨[], .start⟩ (Read []) :=
    (leading (callsFor s)).statement [] s (Nat.le_refl _) fun u r hu hend => by
      cases h.symm.trans hu
      exact absurd hend ht
  rw [alone]
  cases reads with
  | error hx hp => exact .inr ⟨_, hx.bind_error, hp⟩
  | ok hx hs hp hq =>
    obtain ⟨⟨u, r, hu, hk⟩, target, tree, rfl, rfl⟩ := hq
    rcases hk with hk | hk
    · refine .inl ⟨_, r, hx.bind ((yields_next hu).bind ?_),
        hp.trans (Parser.run_of_pull_end hu hk _)⟩
      rw [if_pos hk]
      exact yields_pure _ r
    · have hend : u.kind ≠ .endOfInput := by
        rw [hk]
        exact TokenKind.noConfusion
      -- no group is open that the parenthesis could close
      have fault := Parser.run_of_pull_unexpected (p := ⟨[], .chain target tree⟩) hu hend
        (fun q step => by cases step <;> simp_all) nofun nofun
      refine .inr ⟨_, hx.bind ((yields_next hu).bind ?_), hp.trans fault⟩
      rw [if_neg hend]
      exact yields_throw _ r

/-- A descent comes to the same end as the parser, and always to one. -/
theorem parse_eq (source : String) :
    parse source = some ((Bitwise.parse source).mapError ParseError.failure) := by
  rw [parse, Bitwise.parse]
  generalize Scanner.ofString source = s
  cases h : s.pull with
  | error e =>
    rw [Parser.run_of_pull_error h]
    exact run'_of_yields (yields_peek_zero_error h).bind_error
  | ok r =>
    obtain ⟨t, s'⟩ := r
    have peeked := yields_peek_zero h
    by_cases ht : t.kind = .endOfInput
    · have stops : Yields (whole (callsFor s)) s
          (.error (.unexpectedEnd Expected.statement.label)) := by
        refine peeked.bind ?_
        rw [if_pos ht]
        exact yields_throw _ _
      rw [Parser.run_of_pull_end h ht]
      exact run'_of_yields stops
    · have enters {r : Except Failure (Node × Scanner)} (hr : Yields (alone (callsFor s)) s r) :
          Yields (whole (callsFor s)) s r := by
        refine peeked.bind ?_
        rw [if_neg ht]
        exact hr
      rcases yields_alone h ht with ⟨node, s', hx, hp⟩ | ⟨e, hx, hp⟩
      · rw [hp]
        exact run'_of_yields (enters hx)
      · rw [hp]
        exact run'_of_yields (enters hx)

/-- A descent fails with what the parser fails with. -/
theorem exists_of_parse_eq_error {source : String} {failure : Failure}
    (h : parse source = some (.error failure)) :
    ∃ e, Bitwise.parse source = .error e ∧ e.failure = failure := by
  rw [parse_eq, Option.some.injEq] at h
  cases hparse : Bitwise.parse source with
  | ok node => rw [hparse] at h; cases h
  | error e =>
    rw [hparse] at h
    exact ⟨e, rfl, Except.error.inj h⟩

end Descent

end Bitwise
