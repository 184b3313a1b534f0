import Bitwise.Proofs.Phrase

/-!
# Runs are derivations

The invariant of a run is that the state of the parser, at any time, is a derivation of the tokens
read so far which is yet to be finished (`Parser.Read`). Each step goes on with it
(`Parser.Read.step`), and where the text may end it is a statement
(`Parser.Read.exists_statement`). Besides, the groups that are open are the parentheses that are,
and no number is out of range.
-/

namespace Bitwise

open Grammar (Statement Chain Operand)
open Text (byteLength)

/-! ## Tokens of texts -/

/-- A token has the text of its kind, if the kind has only one. -/
def Token.Plain (t : Token) : Prop :=
  t.kind ≠ .identifier → t.kind ≠ .number → t.text = t.kind.signText

theorem Token.Plain.eq_sign {t : Token} {kind : TokenKind} (h : t.Plain) (hk : t.kind = kind)
    (hi : kind ≠ .identifier) (hn : kind ≠ .number) : t = .sign kind t.span := by
  subst hk
  rw [Token.sign, ← h hi hn]

theorem Lexeme.ofList_eq_signText {kind : TokenKind} {lexeme : List Char} (h : Lexeme kind lexeme)
    (hi : kind ≠ .identifier) (hn : kind ≠ .number) : String.ofList lexeme = kind.signText := by
  cases h with
  | sign h =>
    rw [signKind?.eq_def] at h
    split at h <;> cases h <;> rfl
  | shift h =>
    rw [shift?.eq_def] at h
    split at h <;> cases h <;> rfl
  | identifier _ _ => exact absurd rfl hi
  | number _ _ _ => exact absurd rfl hn

theorem Spelling.plain {rest text : List Char} {offset : Nat} {ts : List Token}
    (h : Spelling rest offset text ts) : ∀ t ∈ ts, t.Plain := by
  intro t ht hi hn
  rw [← (h.lexeme_of_mem t ht).ofList_eq_signText hi hn, String.ofList_toList]

theorem eq_literalValue_of_toInt64? {digits : String} {value : Int64}
    (h : Numeral.toInt64? digits.toList = some value) :
    value = Grammar.literalValue digits ∧ Numeral.value digits.toList < Nat.pow 2 63 := by
  rw [Numeral.toInt64?] at h
  split at h
  · next hlt => exact ⟨(Option.some.inj h).symm, hlt⟩
  · simp at h

/-! ## Derivations that are yet to be finished -/

/-- The tokens before the chain of a statement. -/
inductive TargetRead : Option Target → List Token → Prop
  | none : TargetRead none []
  | some {name : String} {place equal : Span} :
    TargetRead (some ⟨name, place⟩) [⟨.identifier, name, place⟩, .sign .equal equal]

/-- The tokens before an operand of a statement. -/
inductive Pending.Read : Pending → List Token → Prop
  | first {target : Option Target} {ts : List Token} : TargetRead target ts →
    Pending.Read ⟨target, none⟩ ts
  | next {target : Option Target} {ts : List Token} {left : Chain} {op : BinaryOperator}
    {place : Span} : TargetRead target ts →
    Pending.Read ⟨target, some (left.tree, op)⟩ (ts ++ left.tokens ++ [.sign (.binary op) place])

/-- The tokens of a statement that is being read. -/
inductive Progress.Read : Progress → List Token → Prop
  | start : Progress.Read .start []
  | name {name : String} {place : Span} :
    Progress.Read (.name ⟨.identifier, name, place⟩) [⟨.identifier, name, place⟩]
  | operand {pending : Pending} {ts : List Token} : pending.Read ts →
    Progress.Read (.operand pending) ts
  | number {pending : Pending} {tilde : Span} {ts : List Token} : pending.Read ts →
    Progress.Read (.number pending tilde) (ts ++ [.sign .tilde tilde])
  | chain {target : Option Target} {ts : List Token} {value : Chain} : TargetRead target ts →
    Progress.Read (.chain target value.tree) (ts ++ value.tokens)

/-- The tokens up to the last parenthesis that is open. -/
inductive GroupsRead : List Group → List Token → Prop
  | nil : GroupsRead [] []
  | cons {groups : List Group} {paren : Span} {outer : Pending} {ts us : List Token} :
    GroupsRead groups ts → outer.Read us →
    GroupsRead (⟨paren, outer⟩ :: groups) (ts ++ us ++ [.sign .openParen paren])

/-- The tokens that a parser has read: what it knows is a derivation of them, but for what is still
    to come. -/
inductive Parser.Read : Parser → List Token → Prop
  | mk {groups : List Group} {progress : Progress} {ts us : List Token} :
    GroupsRead groups ts → progress.Read us → Parser.Read ⟨groups, progress⟩ (ts ++ us)

section Read

variable {pending : Pending} {progress : Progress} {target : Option Target} {tree : Node}
  {ts : List Token}

/-- An operand goes on the chain before it. -/
theorem Pending.Read.fill (h : pending.Read ts) (o : Operand) :
    (pending.fill o.tree).Read (ts ++ o.tokens) := by
  cases h with
  | @first target ts htarget =>
    show Progress.Read (.chain target (Chain.single o).tree) (ts ++ (Chain.single o).tokens)
    exact .chain htarget
  | @next target ts left op place htarget =>
    have link : ts ++ left.tokens ++ [.sign (.binary op) place] ++ o.tokens =
        ts ++ (Chain.link left op place o).tokens := by
      simp [Chain.tokens]
    rw [link]
    show Progress.Read (.chain target (Chain.link left op place o).tree) _
    exact .chain htarget

theorem Progress.Read.of_pending? (h : progress.Read ts) (hp : progress.pending? = some pending) :
    pending.Read ts := by
  cases h <;> cases hp
  · exact .first .none
  · assumption

/-- Where a chain may end, one has been read. -/
theorem Progress.Read.exists_chain (h : progress.Read ts)
    (hp : progress.settle = .chain target tree) :
    ∃ before value, TargetRead target before ∧ Chain.tree value = tree ∧
      ts = before ++ value.tokens := by
  cases h with
  | @name name place =>
    -- a name that is held is a chain of one operand
    cases hp
    exact ⟨[], .single (.name name place), .none, rfl, rfl⟩
  | @chain _ before value htarget =>
    cases hp
    exact ⟨before, value, htarget, rfl, rfl⟩
  | _ => cases hp

/-- A chain and what it is assigned to are a statement. -/
theorem TargetRead.exists_statement (h : TargetRead target ts) (value : Chain) :
    ∃ s : Statement, s.tokens = ts ++ value.tokens ∧ s.tree = statementTree target value.tree := by
  cases h with
  | none => exact ⟨.chain value, rfl, rfl⟩
  | @some name place equal => exact ⟨.assign name place equal value, rfl, rfl⟩

end Read

namespace Parser

variable {p q : Parser} {t : Token} {ts us : List Token}

/-- A step goes on with the derivation. -/
theorem Read.step (h : p.Read ts) (ht : t.Plain) (hstep : Step p t q) : q.Read (ts ++ [t]) := by
  obtain @⟨groups, progress, ts, us, hgroups, hprogress⟩ := h
  rw [List.append_assoc]
  -- only parentheses change what has been read up to the last of them that is open
  cases hstep with
  | name hk =>
    cases hprogress
    obtain ⟨_, text, span⟩ := t
    cases hk
    exact .mk hgroups .name
  | target hk =>
    cases hprogress
    rw [ht.eq_sign hk TokenKind.noConfusion TokenKind.noConfusion]
    exact .mk hgroups (.operand (.first .some))
  | openGroup hp hk _ =>
    rw [ht.eq_sign hk TokenKind.noConfusion TokenKind.noConfusion, ← List.append_assoc]
    have opened : GroupsRead (⟨t.span, _⟩ :: groups) (ts ++ us ++ [.sign .openParen t.span]) :=
      .cons hgroups (hprogress.of_pending? hp)
    have started := Read.mk opened .start
    rwa [List.append_nil] at started
  | tilde hp hk =>
    rw [ht.eq_sign hk TokenKind.noConfusion TokenKind.noConfusion]
    exact .mk hgroups (.number (hprogress.of_pending? hp))
  | var hk =>
    obtain ⟨_, text, span⟩ := t
    cases hk
    cases hprogress with
    | operand hp => exact .mk hgroups (hp.fill (.name text span))
  | literal hp hk hv =>
    obtain ⟨_, digits, place⟩ := t
    cases hk
    obtain ⟨rfl, -⟩ := eq_literalValue_of_toInt64? hv
    exact .mk hgroups ((hprogress.of_pending? hp).fill (.number digits place))
  | @complement _ _ tilde _ _ hk hv =>
    obtain ⟨_, digits, place⟩ := t
    cases hk
    obtain ⟨rfl, -⟩ := eq_literalValue_of_toInt64? hv
    cases hprogress with
    | number hp =>
      have filled := hp.fill (.complement tilde digits place)
      rw [List.append_assoc]
      exact .mk hgroups filled
  | operator hp hk =>
    obtain ⟨before, value, htarget, rfl, rfl⟩ := hprogress.exists_chain hp
    rw [ht.eq_sign hk TokenKind.noConfusion TokenKind.noConfusion]
    exact .mk hgroups (.operand (.next htarget))
  | closeGroup hp hk hg =>
    obtain ⟨before, value, htarget, rfl, rfl⟩ := hprogress.exists_chain hp
    obtain ⟨s, hs, hstree⟩ := htarget.exists_statement value
    change _ = _ at hg
    subst hg
    cases hgroups with
    | @cons _ paren outer ts us hgroups houter =>
      -- what the parentheses enclose is an operand of the statement around them
      have group : ts ++ us ++ [.sign .openParen paren] ++ (before ++ value.tokens ++ [t]) =
          ts ++ (us ++ (Operand.group paren s t.span).tokens) := by
        rw [Operand.tokens, hs, ← ht.eq_sign hk TokenKind.noConfusion TokenKind.noConfusion]
        simp
      rw [group, ← hstree]
      exact .mk hgroups (houter.fill (.group paren s t.span))

/-- What holds before anything is read, and is preserved by each step, holds of every run. -/
theorem feedAll_induction {motive : Parser → List Token → Prop} (hstart : motive p [])
    (hstep : ∀ ts t q r, motive q ts → Step q t r → motive r (ts ++ [t]))
    (h : p.feedAll ts = .ok q) : motive q ts := by
  induction ts using List.reverseRecOn generalizing q with
  | nil =>
    cases h
    exact hstart
  | append_singleton ts t ih =>
    obtain ⟨r, hr, step⟩ := exists_step_of_feedAll_concat h
    exact hstep ts t r q (ih hr) step

/-- The tokens that have been read without a fault are derived, as far as the derivation goes. -/
theorem read_of_feedAll (hts : ∀ t ∈ ts, t.Plain) (h : initial.feedAll ts = .ok q) :
    q.Read ts := by
  refine feedAll_induction (motive := fun q ts => (∀ t ∈ ts, t.Plain) → q.Read ts) ?_ ?_ h hts
  · exact fun _ => .mk .nil .start
  · intro ts t q r ih step hts
    have ht := hts t (List.mem_append_right ts List.mem_cons_self)
    exact (ih fun u hu => hts u (List.mem_append_left _ hu)).step ht step

/-! ## What every run observes -/

/-- A parenthesis opens or closes a group, and no other token does. -/
theorem Step.length_groups (h : Step p t q) :
    opened [t] + p.groups.length = closed [t] + q.groups.length := by
  rw [opened_singleton, closed_singleton]
  cases h with
  | name hk | target hk | var hk | complement hk _ => rw [hk]; rfl
  | tilde _ hk | literal _ hk _ | operator _ hk => rw [hk]; rfl
  | openGroup _ hk _ =>
    rw [hk, List.length_cons]
    exact (Nat.add_comm _ _).trans (Nat.zero_add _).symm
  | closeGroup _ hk hg =>
    rw [hk, hg, List.length_cons]
    exact (Nat.zero_add _).trans (Nat.add_comm _ _)

theorem Step.length_groups_le (h : Step p t q) (hp : p.groups.length ≤ maxNesting) :
    q.groups.length ≤ maxNesting := by
  cases h with
  | openGroup _ _ hg => exact Nat.lt_of_le_of_ne hp hg
  | closeGroup _ _ hg =>
    rw [hg] at hp
    exact Nat.le_of_succ_le hp
  | _ => exact hp

theorem Step.inRange (h : Step p t q) (ht : t.kind = .number) :
    Numeral.value t.text.toList < Nat.pow 2 63 := by
  cases h with
  | literal _ _ hv => exact (eq_literalValue_of_toInt64? hv).2
  | complement _ hv => exact (eq_literalValue_of_toInt64? hv).2
  | name hk | target hk | var hk => rw [hk] at ht; cases ht
  | openGroup _ hk _ | closeGroup _ hk _ => rw [hk] at ht; cases ht
  | tilde _ hk | operator _ hk => rw [hk] at ht; cases ht

/-- The groups that are open in a run are the parentheses that are, and they are never too many. -/
theorem nested_of_feedAll (h : initial.feedAll ts = .ok q) :
    NestedWithin maxNesting ts ∧ opened ts = closed ts + q.groups.length ∧
      q.groups.length ≤ maxNesting := by
  refine feedAll_induction (motive := fun q ts => NestedWithin maxNesting ts ∧
    opened ts = closed ts + q.groups.length ∧ q.groups.length ≤ maxNesting) ?_ ?_ h
  · exact ⟨tooDeep?_eq_none_iff.1 rfl, rfl, Nat.zero_le _⟩
  · rintro ts t q r ⟨hnested, hopen, hle⟩ step
    have count := step.length_groups
    have hle' := step.length_groups_le hle
    have hopen' : opened (ts ++ [t]) = closed (ts ++ [t]) + r.groups.length := by
      rw [opened_append, closed_append]
      omega
    exact ⟨nestedWithin_concat.2 ⟨hnested, by omega⟩, hopen', hle'⟩

theorem inRange_of_feedAll (h : initial.feedAll ts = .ok q) : InRange ts := by
  refine feedAll_induction (motive := fun _ ts => InRange ts) ?_ ?_ h
  · exact List.forall_mem_nil _
  · intro ts t q r ih step u hu hk
    rcases List.mem_append.1 hu with hu | hu
    · exact ih u hu hk
    · obtain rfl := List.mem_singleton.1 hu
      exact step.inRange hk

/-! ## The end of the text -/

/-- The text may end where a chain may end that is in no group. -/
theorem finish_eq_ok_iff {node : Node} :
    p.finish = .ok node ↔ p.groups = [] ∧ ∃ target tree, p.progress.settle = .chain target tree ∧
      statementTree target tree = node := by
  obtain ⟨groups, progress⟩ := p
  cases progress <;> cases groups <;> simp [finish, Progress.settle, statementTree]

/-- At the end the derivation is finished. -/
theorem Read.exists_statement {node : Node} (h : p.Read ts) (hfinish : p.finish = .ok node) :
    ∃ s : Statement, s.tokens = ts ∧ s.tree = node := by
  obtain ⟨hgroups, target, tree, hp, rfl⟩ := finish_eq_ok_iff.1 hfinish
  cases h with
  | mk outer inner =>
    cases hgroups
    cases outer
    obtain ⟨before, value, htarget, rfl, rfl⟩ := inner.exists_chain hp
    exact htarget.exists_statement value

end Parser

end Bitwise
