import Bitwise.Proofs.Parts
import Bitwise.Proofs.Printing

/-!
# Longer chains

A phrase means the same wherever it stands in a text: its derivation is moved to another place
(`Grammar.Statement.mapSpan`) together with what spells it (`Spelling.relocate`). So texts can be
put together from texts without reading them again.

An operator and an operand behind a text go on the chain that the text ends in, whatever the
operators in it are (`operator_extends_chain`). There is no precedence: the chain so far becomes the
left operand as a whole. Only the name that it is assigned to stays outside, since an assignment
takes all of the chain behind its equals sign.
-/

namespace Bitwise

open Grammar (Statement Chain Operand)
open Text (byteLength)
open Unicode (isBlank)

/-! ## Derivations somewhere else -/

namespace Grammar

mutual

/-- The statement with other spans. -/
def Statement.mapSpan (f : Span → Span) : Statement → Statement
  | .assign name place equal value => .assign name (f place) (f equal) (value.mapSpan f)
  | .chain value => .chain (value.mapSpan f)

/-- The chain with other spans. -/
def Chain.mapSpan (f : Span → Span) : Chain → Chain
  | .single operand => .single (operand.mapSpan f)
  | .link left op place right => .link (left.mapSpan f) op (f place) (right.mapSpan f)

/-- The operand with other spans. -/
def Operand.mapSpan (f : Span → Span) : Operand → Operand
  | .group paren body close => .group (f paren) (body.mapSpan f) (f close)
  | .complement tilde digits place => .complement (f tilde) digits (f place)
  | .name text place => .name text (f place)
  | .number digits place => .number digits (f place)

end

variable (f : Span → Span)

mutual

theorem Statement.tokens_mapSpan :
    (s : Statement) → (s.mapSpan f).tokens = s.tokens.map (Token.mapSpan f)
  | .assign name place equal value => by
    rw [Statement.mapSpan, Statement.tokens, Statement.tokens, value.tokens_mapSpan]
    rfl
  | .chain value => value.tokens_mapSpan

theorem Chain.tokens_mapSpan :
    (c : Chain) → (c.mapSpan f).tokens = c.tokens.map (Token.mapSpan f)
  | .single operand => operand.tokens_mapSpan
  | .link left op place right => by
    rw [Chain.mapSpan, Chain.tokens, Chain.tokens, left.tokens_mapSpan, right.tokens_mapSpan,
      List.map_append]
    rfl

theorem Operand.tokens_mapSpan :
    (o : Operand) → (o.mapSpan f).tokens = o.tokens.map (Token.mapSpan f)
  | .group paren body close => by
    rw [Operand.mapSpan, Operand.tokens, Operand.tokens, body.tokens_mapSpan, List.map_cons,
      List.map_append]
    rfl
  | .complement _ _ _ => rfl
  | .name _ _ => rfl
  | .number _ _ => rfl

end

mutual

/-- Spans have no part in what a statement means. -/
theorem Statement.expr_mapSpan : (s : Statement) → (s.mapSpan f).expr = s.expr
  | .assign name place equal value => by
    rw [Statement.mapSpan, Statement.expr, Statement.expr, value.expr_mapSpan]
  | .chain value => value.expr_mapSpan

theorem Chain.expr_mapSpan : (c : Chain) → (c.mapSpan f).expr = c.expr
  | .single operand => operand.expr_mapSpan
  | .link left op place right => by
    rw [Chain.mapSpan, Chain.expr, Chain.expr, left.expr_mapSpan, right.expr_mapSpan]

theorem Operand.expr_mapSpan : (o : Operand) → (o.mapSpan f).expr = o.expr
  | .group _ body _ => body.expr_mapSpan
  | .complement _ _ _ => rfl
  | .name _ _ => rfl
  | .number _ _ => rfl

end

end Grammar

theorem InRange.map {ts : List Token} (h : InRange ts) (f : Span → Span) :
    InRange (ts.map (Token.mapSpan f)) :=
  List.forall_mem_map.2 h

/-- A spelling at the start of a text can stand anywhere else, before anything that is apart. -/
theorem Spelling.relocate {rest rest' text : List Char} {ts : List Token}
    (h : Spelling rest 0 text ts) (hrest' : Apart rest') (offset : Nat) :
    Spelling rest' offset text (ts.map (Token.mapSpan (Span.raise offset))) := by
  have moved := (h.map_raise offset).congr_rest fun c hc => .inr (hrest' c hc)
  rwa [Nat.zero_add] at moved

/-! ## Chains that go on -/

/-- Tokens of two texts on both sides of an operator, with a blank before and behind it. -/
theorem Spelling.extend {text text' gap gap' : List Char} {ts us : List Token} (op : BinaryOperator)
    (h : Spelling gap 0 text ts) (hgap : ∀ c ∈ gap ++ [' '], isBlank c = true)
    (h' : Spelling gap' 0 text' us) (hgap' : ∀ c ∈ gap', isBlank c = true) (hus : us ≠ []) :
    ∃ place f, Spelling gap' 0 (text ++ (gap ++ [' '] ++ (op.symbol.toList ++ ([' '] ++ text'))))
      (ts ++ .sign (.binary op) place :: us.map (Token.mapSpan f)) := by
  have apart : Apart (gap ++ [' '] ++ (op.symbol.toList ++ ([' '] ++ text')) ++ gap') := by
    rw [List.append_assoc (gap ++ [' ']), List.append_assoc op.symbol.toList]
    exact .blank_append hgap (apart_symbol op _)
  have apart' : Apart gap' := by
    rw [← List.append_nil gap']
    exact .blank_append hgap' apart_nil
  -- the first text stays where it is, and the second moves behind it and the operator
  have left := h.congr_rest fun c hc => .inr (apart c hc)
  have right := h'.relocate apart' (0 + byteLength text + byteLength (gap ++ [' ']) +
    byteLength op.symbol.toList + byteLength [' '])
  obtain ⟨place, spelled⟩ := left.link op hgap blank_singleton right (by simpa using hus)
  exact ⟨place, _, spelled⟩

namespace Grammar

/-- The statement with an operator and an operand at its end. An assignment takes them into its
    chain. -/
def Statement.extend (op : BinaryOperator) (place : Span) (o : Operand) : Statement → Statement
  | .assign name target equal value => .assign name target equal (.link value op place o)
  | .chain value => .chain (.link value op place o)

theorem Statement.tokens_extend (op : BinaryOperator) (place : Span) (o : Operand)
    (s : Statement) :
    (s.extend op place o).tokens = s.tokens ++ .sign (.binary op) place :: o.tokens := by
  cases s <;> rfl

variable {s : Statement} {o : Operand} {source source' : String}

/-- An operator and an operand behind a text extend the statement that derives the text. -/
theorem Statement.Derives.extend (hs : s.Derives source) (ho : o.statement.Derives source')
    (op : BinaryOperator) : ∃ place f, (s.extend op place (o.mapSpan f)).Derives
      (source ++ " " ++ op.symbol ++ " " ++ source') := by
  obtain ⟨text, gap, hsource, hgap, hspell⟩ := hs.exists_spelling
  obtain ⟨text', gap', hsource', hgap', hspell'⟩ := ho.exists_spelling
  have blank : ∀ c ∈ gap ++ [' '], isBlank c = true :=
    List.forall_mem_append.2 ⟨hgap, blank_singleton⟩
  obtain ⟨place, f, spelled⟩ := hspell.extend op blank hspell' hgap' o.tokens_ne_nil
  have moved : o.statement.tokens.map (Token.mapSpan f) = (o.mapSpan f).tokens :=
    (o.tokens_mapSpan f).symm
  have inRange := hs.admissible.inRange.append
    ((ho.admissible.inRange.map f).cons_of_ne (t := .sign (.binary op) place)
      TokenKind.noConfusion)
  rw [moved, ← tokens_extend] at spelled inRange
  refine ⟨place, f, derives_of_spelling ⟨spelled.nestedWithin_iff.1 ?_, inRange⟩ ?_ hgap' spelled⟩
  · have balanced : Text.Balanced text :=
      balanced_of_filter hspell.filter_isParen s.opened_eq_closed
    rw [Text.nestedWithin_link op balanced blank blank_singleton]
    exact ⟨hspell.nestedWithin_iff.2 hs.admissible.nested,
      hspell'.nestedWithin_iff.2 ho.admissible.nested⟩
  · simp [hsource, hsource']

/-- A chain does not begin with a name and an equals sign. -/
theorem Chain.kind_ne_equal {c : Chain} {name equal : Token} {ts : List Token} {offset : Nat}
    (h : c.tokens ++ [.atEnd offset] = name :: equal :: ts) (hname : name.kind = .identifier) :
    equal.kind ≠ .equal := by
  obtain ⟨first, links, htokens, -⟩ := c.exists_links
  rw [htokens, List.append_assoc] at h
  cases first with
  | name text place =>
    obtain ⟨-, h⟩ := List.cons.inj h
    -- behind a name there is an operator or the end
    cases links <;> obtain ⟨rfl, -⟩ := List.cons.inj h <;> exact TokenKind.noConfusion
  | _ =>
    obtain ⟨rfl, -⟩ := List.cons.inj h
    cases hname

end Grammar

/-- A text is a single operand: a name, a number, a complement or a group. -/
def IsOperand (source : String) : Prop :=
  ∃ o : Operand, o.statement.Derives source

/-- A text begins with a name and an equals sign. -/
def Assigns (source name : String) : Prop :=
  ∃ place equal rest, tokenize source = ⟨.identifier, name, place⟩ :: .sign .equal equal :: rest

/-- A text that assigns to a name is derived by an assignment to the name, and no other text is. -/
theorem Grammar.Statement.Derives.assigns_iff {s : Statement} {source name : String}
    (h : s.Derives source) :
    Assigns source name ↔ ∃ place equal value, s = .assign name place equal value := by
  obtain ⟨text, gap, hsource, hgap, hspell⟩ := h.exists_spelling
  have tokens := tokenize_of_spelling hsource hgap hspell
  constructor
  · rintro ⟨place, equal, rest, hassigns⟩
    rw [tokens] at hassigns
    cases s with
    | assign x target equal' value =>
      obtain ⟨hname, -⟩ := List.cons.inj hassigns
      cases hname
      exact ⟨_, _, _, rfl⟩
    | chain value => exact absurd rfl (Chain.kind_ne_equal hassigns rfl)
  · rintro ⟨place, equal, value, rfl⟩
    exact ⟨place, equal, _, tokens⟩

/-- An operator and an operand behind a text go on the chain that the text ends in. All of the text
    becomes the left operand, but for what it assigns to. -/
theorem operator_extends_chain {source source' : String} {tree operand : Node}
    (h : parse source = .ok tree) (hsource' : IsOperand source')
    (h' : parse source' = .ok operand) (op : BinaryOperator) :
    ∃ node, parse (source ++ " " ++ op.symbol ++ " " ++ source') = .ok node ∧
      ((∀ x, ¬Assigns source x) → node.erase = .binary op tree.erase operand.erase ()) ∧
      ∀ x, Assigns source x → ∃ value span, tree = .assign x value span ∧
        node.erase = .assign x (.binary op value.erase operand.erase ()) () := by
  obtain ⟨s, hs, rfl⟩ := exists_derives_of_parse h
  obtain ⟨o, ho⟩ := hsource'
  rw [ho.parse, Except.ok.injEq] at h'
  subst h'
  obtain ⟨place, f, extended⟩ := hs.extend ho op
  refine ⟨_, extended.parse, fun hx => ?_, fun x hx => ?_⟩
  · cases s with
    | assign x target equal value => exact absurd (hs.assigns_iff.2 ⟨_, _, _, rfl⟩) (hx x)
    | chain value =>
      rw [Statement.erase_tree, Statement.erase_tree, Statement.erase_tree]
      show Tree.binary op value.expr (o.mapSpan f).expr () = .binary op value.expr o.expr ()
      rw [o.expr_mapSpan]
  · obtain ⟨target, equal, value, rfl⟩ := hs.assigns_iff.1 hx
    refine ⟨value.tree, _, rfl, ?_⟩
    rw [Statement.erase_tree, value.erase_tree, Statement.erase_tree]
    show Tree.assign x (.binary op value.expr (o.mapSpan f).expr ()) () =
      .assign x (.binary op value.expr o.expr ()) ()
    rw [o.expr_mapSpan]

/-- An assignment in a group is an operand. One that is in no group takes what follows into its
    chain. -/
theorem operator_extends_chain_of_assignment :
    (∃ node, parse ("(x=1)" ++ " " ++ BinaryOperator.shl.symbol ++ " " ++ "~3") = .ok node ∧
      node.erase = .binary .shl (.assign "x" (.literal 1 ()) ())
        (.complement (.literal 3 ()) ()) ()) ∧
    ∃ node, parse ("x=1|2" ++ " " ++ BinaryOperator.and.symbol ++ " " ++ "~3") = .ok node ∧
      node.erase = .assign "x" (.binary .and (.binary .or (.literal 1 ()) (.literal 2 ()) ())
        (.complement (.literal 3 ()) ()) ()) () := by
  have group : parse "(x=1)" = .ok (.assign "x" (.literal 1 ⟨3, 4⟩) ⟨0, 5⟩) := by
    decide +kernel
  have assignment : parse "x=1|2" = .ok (.assign "x" (.binary .or (.literal 1 ⟨2, 3⟩)
      (.literal 2 ⟨4, 5⟩) ⟨2, 5⟩) ⟨0, 5⟩) := by
    decide +kernel
  have complement : parse "~3" = .ok (.complement (.literal 3 ⟨1, 2⟩) ⟨0, 2⟩) := by
    decide +kernel
  have operand : IsOperand "~3" := by
    refine ⟨.complement ⟨0, 1⟩ "3" ⟨1, 2⟩, ⟨by decide +kernel, by decide +kernel, ?_⟩⟩
    exact ⟨tooDeep?_eq_none_iff.1 rfl, .cons_of_ne TokenKind.noConfusion (.singleton (by decide))⟩
  have paren : (tokenize "(x=1)").head?.map (·.kind) = some .openParen := by
    decide +kernel
  have equal : tokenize "x=1|2" = ⟨.identifier, "x", ⟨0, 1⟩⟩ :: .sign .equal ⟨1, 2⟩ ::
      (tokenize "x=1|2").drop 2 := by
    decide +kernel
  constructor
  · obtain ⟨node, parsed, inside, -⟩ := operator_extends_chain group operand complement .shl
    refine ⟨node, parsed, inside ?_⟩
    rintro x ⟨place, equal, rest, h⟩
    rw [h] at paren
    cases paren
  · obtain ⟨node, parsed, -, outside⟩ := operator_extends_chain assignment operand complement .and
    obtain ⟨value, span, h, extended⟩ := outside "x" ⟨_, _, _, equal⟩
    cases h
    exact ⟨node, parsed, extended⟩

end Bitwise
