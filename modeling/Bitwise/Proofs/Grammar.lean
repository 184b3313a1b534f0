import Bitwise.Parser
import Mathlib.Data.List.Induction

/-!
# The grammar

The language of statements, apart from any way to read it:

* a *statement* is an assignment `IDENT '=' chain`, or a chain;
* a *chain* is `operand (operator operand)*`, given by what it adds to a shorter chain;
* an *operand* is `'(' statement ')'`, `'~' NUMBER`, `IDENT` or `NUMBER`.

A value of these types is a derivation: which rule was used where, with the texts of identifiers and
numbers and the spans of all tokens. A derivation tells the tokens that it derives (`tokens`), what
they mean (`expr`), and the tree that a reader of them should build (`tree`). The meaning of a chain
is folded strictly from the left, a group means what it encloses, and an assignment takes the whole
chain on its right.

Tokens have at most one derivation (`Statement.tokens_injective`).
-/

namespace Bitwise

/-- The text of a kind that has only one. -/
def TokenKind.signText : TokenKind → String
  | .openParen => "("
  | .closeParen => ")"
  | .equal => "="
  | .tilde => "~"
  | .binary op => op.symbol
  | _ => ""

/-- The token of a kind that has only one text. -/
def Token.sign (kind : TokenKind) (span : Span) : Token :=
  ⟨kind, kind.signText, span⟩

@[simp] theorem Token.sign_kind (kind : TokenKind) (span : Span) :
    (Token.sign kind span).kind = kind := rfl

namespace Grammar

mutual

/-- An assignment or a chain. -/
inductive Statement
  | assign (name : String) (place equal : Span) (value : Chain)
  | chain (value : Chain)

/-- A sequence of operands with operators between them. -/
inductive Chain
  | single (operand : Operand)
  | link (left : Chain) (op : BinaryOperator) (place : Span) (right : Operand)

/-- What stands between operators. -/
inductive Operand
  | group (paren : Span) (body : Statement) (close : Span)
  | complement (tilde : Span) (digits : String) (place : Span)
  | name (text : String) (place : Span)
  | number (digits : String) (place : Span)

end

/-! ## What is derived -/

mutual

/-- The tokens that a statement derives. -/
def Statement.tokens : Statement → List Token
  | .assign name place equal value =>
    ⟨.identifier, name, place⟩ :: .sign .equal equal :: value.tokens
  | .chain value => value.tokens

/-- The tokens that a chain derives. -/
def Chain.tokens : Chain → List Token
  | .single operand => operand.tokens
  | .link left op place right => left.tokens ++ .sign (.binary op) place :: right.tokens

/-- The tokens that an operand derives. -/
def Operand.tokens : Operand → List Token
  | .group paren body close => .sign .openParen paren :: (body.tokens ++ [.sign .closeParen close])
  | .complement tilde digits place => [.sign .tilde tilde, ⟨.number, digits, place⟩]
  | .name text place => [⟨.identifier, text, place⟩]
  | .number digits place => [⟨.number, digits, place⟩]

end

/-- The value that the digits of a literal stand for, if it is in range. -/
def literalValue (digits : String) : Int64 :=
  Int64.ofNat (Numeral.value digits.toList)

mutual

/-- The meaning of a statement. -/
def Statement.expr : Statement → Expr
  | .assign name _ _ value => .assign name value.expr ()
  | .chain value => value.expr

/-- The meaning of a chain: each operator takes all that stands before it. -/
def Chain.expr : Chain → Expr
  | .single operand => operand.expr
  | .link left op _ right => .binary op left.expr right.expr ()

/-- The meaning of an operand. -/
def Operand.expr : Operand → Expr
  | .group _ body _ => body.expr
  | .complement _ digits _ => .complement (.literal (literalValue digits) ()) ()
  | .name text _ => .var text ()
  | .number digits _ => .literal (literalValue digits) ()

end

mutual

/-- The tree of a statement. An assignment spans the name and the chain. -/
def Statement.tree : Statement → Node
  | .assign name place _ value => .assign name value.tree (place.cover value.tree.mark)
  | .chain value => value.tree

/-- The tree of a chain. An operation spans both of its operands. -/
def Chain.tree : Chain → Node
  | .single operand => operand.tree
  | .link left op _ right => .combine op left.tree right.tree

/-- The tree of an operand. A group spans its parentheses. -/
def Operand.tree : Operand → Node
  | .group paren body close => body.tree.withMark (paren.cover close)
  | .complement tilde digits place =>
    .complement (.literal (literalValue digits) place) (tilde.cover place)
  | .name text place => .var text place
  | .number digits place => .literal (literalValue digits) place

end

/-! ## Trees and meanings -/

theorem erase_withMark {α : Type} (t : Tree α) (m : α) : (t.withMark m).erase = t.erase := by
  cases t <;> rfl

mutual

/-- The tree of a statement is its meaning with spans. -/
theorem Statement.erase_tree : (s : Statement) → s.tree.erase = s.expr
  | .assign name place _ value => by
    rw [Statement.tree, Statement.expr, ← value.erase_tree]
    rfl
  | .chain value => value.erase_tree

theorem Chain.erase_tree : (c : Chain) → c.tree.erase = c.expr
  | .single operand => operand.erase_tree
  | .link left op place right => by
    rw [Chain.tree, Chain.expr, ← left.erase_tree, ← right.erase_tree]
    rfl

theorem Operand.erase_tree : (o : Operand) → o.tree.erase = o.expr
  | .group paren body close => by
    rw [Operand.tree, Operand.expr, erase_withMark, body.erase_tree]
  | .complement _ _ _ => rfl
  | .name _ _ => rfl
  | .number _ _ => rfl

end

/-! ## Chains as sequences -/

/-- An operator and the operand after it. -/
structure Link where
  op : BinaryOperator
  place : Span
  operand : Operand

/-- The tokens of an operator and the operand after it. -/
def Link.tokens (l : Link) : List Token :=
  .sign (.binary l.op) l.place :: l.operand.tokens

/-- The chain `operand (operator operand)*`. -/
def Chain.ofLinks (first : Operand) (links : List Link) : Chain :=
  links.foldl (fun c l => .link c l.op l.place l.operand) (.single first)

theorem Chain.ofLinks_concat (first : Operand) (links : List Link) (l : Link) :
    ofLinks first (links ++ [l]) = .link (ofLinks first links) l.op l.place l.operand :=
  List.foldl_append

/-- Every chain is such a sequence. -/
theorem Chain.exists_eq_ofLinks : (c : Chain) → ∃ first links, c = ofLinks first links
  | .single operand => ⟨operand, [], rfl⟩
  | .link left op place right => by
    obtain ⟨first, links, rfl⟩ := left.exists_eq_ofLinks
    exact ⟨first, links ++ [⟨op, place, right⟩],
      (ofLinks_concat first links ⟨op, place, right⟩).symm⟩

theorem Chain.tokens_ofLinks (first : Operand) (links : List Link) :
    (ofLinks first links).tokens = first.tokens ++ links.flatMap Link.tokens := by
  induction links using List.reverseRecOn with
  | nil => rw [List.flatMap_nil, List.append_nil]; rfl
  | append_singleton links l ih =>
    rw [ofLinks_concat, Chain.tokens, ih, List.flatMap_append, List.append_assoc]
    simp [Link.tokens]

theorem Chain.expr_ofLinks (first : Operand) (links : List Link) :
    (ofLinks first links).expr =
      links.foldl (fun e l => .binary l.op e l.operand.expr ()) first.expr := by
  induction links using List.reverseRecOn with
  | nil => rfl
  | append_singleton links l ih => rw [ofLinks_concat, Chain.expr, ih, List.foldl_append]; rfl

/-- A chain is an operand and any number of operators with their operands, and what it means is
    folded strictly from the left. -/
theorem Chain.exists_links (c : Chain) : ∃ (first : Operand) (links : List Link),
    c.tokens = first.tokens ++ links.flatMap Link.tokens ∧
      c.expr = links.foldl (fun e l => .binary l.op e l.operand.expr ()) first.expr := by
  obtain ⟨first, links, rfl⟩ := c.exists_eq_ofLinks
  exact ⟨first, links, tokens_ofLinks first links, expr_ofLinks first links⟩

/-! ## Derivations are unique -/

/-- What stands before an operand: no sign that takes a number. -/
def BeforeOperand (ts : List Token) : Prop :=
  ∀ t ∈ ts.getLast?, t.kind ≠ .tilde

/-- What stands before a chain. -/
def BeforeChain (ts : List Token) : Prop :=
  ∀ t ∈ ts.getLast?, t.kind = .openParen ∨ t.kind = .equal

/-- What stands before a statement. -/
def BeforeStatement (ts : List Token) : Prop :=
  ∀ t ∈ ts.getLast?, t.kind = .openParen

theorem beforeOperand_of_beforeChain {ts : List Token} (h : BeforeChain ts) : BeforeOperand ts := by
  intro t ht hk
  rcases h t ht with h | h <;> rw [hk] at h <;> exact TokenKind.noConfusion h

theorem beforeChain_of_beforeStatement {ts : List Token} (h : BeforeStatement ts) :
    BeforeChain ts :=
  fun t ht => .inl (h t ht)

theorem beforeChain_sign_equal (ts : List Token) (place : Span) :
    BeforeChain (ts ++ [.sign .equal place]) := by
  intro t ht
  rw [List.getLast?_concat, Option.mem_some_iff] at ht
  exact ht ▸ .inr rfl

theorem beforeStatement_sign_openParen (ts : List Token) (paren : Span) :
    BeforeStatement (ts ++ [.sign .openParen paren]) := by
  intro t ht
  rw [List.getLast?_concat, Option.mem_some_iff] at ht
  exact ht ▸ rfl

theorem beforeOperand_sign_binary (ts : List Token) (op : BinaryOperator) (place : Span) :
    BeforeOperand (ts ++ [.sign (.binary op) place]) := by
  intro t ht
  rw [List.getLast?_concat, Option.mem_some_iff] at ht
  exact ht ▸ TokenKind.noConfusion

theorem not_beforeOperand_sign_tilde (ts : List Token) (tilde : Span) :
    ¬BeforeOperand (ts ++ [.sign .tilde tilde]) :=
  fun h => h (.sign .tilde tilde) List.getLast?_concat rfl

theorem not_beforeChain_sign_binary (ts : List Token) (op : BinaryOperator) (place : Span) :
    ¬BeforeChain (ts ++ [.sign (.binary op) place]) := by
  intro h
  rcases h (.sign (.binary op) place) List.getLast?_concat with h | h <;>
    exact TokenKind.noConfusion h

theorem not_beforeStatement_sign_equal (ts : List Token) (place : Span) :
    ¬BeforeStatement (ts ++ [.sign .equal place]) :=
  fun h => TokenKind.noConfusion (h (.sign .equal place) List.getLast?_concat)

/-- The last token of two equal lists is the same, and so is all before it. -/
theorem eq_and_eq_of_concat_eq {ts us : List Token} {t u : Token} (h : ts ++ [t] = us ++ [u]) :
    ts = us ∧ t = u := by
  obtain ⟨hts, ht⟩ := List.append_inj' h rfl
  exact ⟨hts, List.singleton_inj.1 ht⟩

/-- The kind of the last token of an operand. -/
def Operand.lastKind : Operand → TokenKind
  | .group _ _ _ => .closeParen
  | .complement _ _ _ => .number
  | .name _ _ => .identifier
  | .number _ _ => .number

theorem Operand.getLast?_append_tokens (ts : List Token) (o : Operand) :
    (ts ++ o.tokens).getLast?.map (·.kind) = some o.lastKind := by
  cases o with
  | group paren body close =>
    have last : ts ++ (Operand.group paren body close).tokens =
        (ts ++ .sign .openParen paren :: body.tokens) ++ [.sign .closeParen close] := by
      simp [Operand.tokens]
    rw [last, List.getLast?_concat]
    rfl
  | _ => simp [Operand.tokens, Operand.lastKind]

theorem Operand.lastKind_eq_of_append_tokens {ts us : List Token} {o o' : Operand}
    (h : ts ++ o.tokens = us ++ o'.tokens) : o.lastKind = o'.lastKind := by
  have last := Operand.getLast?_append_tokens ts o
  rw [h, Operand.getLast?_append_tokens] at last
  exact (Option.some.inj last).symm

mutual

/-- A list of tokens ends in at most one statement, and that has one derivation. Derivations are
    read off from the right, where a chain shows its last operand. -/
theorem Statement.eq_of_append_tokens {ts us : List Token} (hts : BeforeStatement ts)
    (hus : BeforeStatement us) :
    (s s' : Statement) → ts ++ s.tokens = us ++ s'.tokens → ts = us ∧ s = s'
  | .chain c, .chain c', h => by
    obtain ⟨hpre, rfl⟩ := Chain.eq_of_append_tokens (beforeChain_of_beforeStatement hts)
      (beforeChain_of_beforeStatement hus) c c' h
    exact ⟨hpre, rfl⟩
  | .chain c, .assign name place equal c', h => by
    have before : ts ++ c.tokens =
        (us ++ [⟨.identifier, name, place⟩] ++ [.sign .equal equal]) ++ c'.tokens := by
      simpa [Statement.tokens] using h
    -- the chains are equal, but an equals sign stands before only one of them
    obtain ⟨rfl, -⟩ := Chain.eq_of_append_tokens (beforeChain_of_beforeStatement hts)
      (beforeChain_sign_equal _ _) c c' before
    exact absurd hts (not_beforeStatement_sign_equal _ _)
  | .assign name place equal c, .chain c', h => by
    have before : (ts ++ [⟨.identifier, name, place⟩] ++ [.sign .equal equal]) ++ c.tokens =
        us ++ c'.tokens := by
      simpa [Statement.tokens] using h
    obtain ⟨rfl, -⟩ := Chain.eq_of_append_tokens (beforeChain_sign_equal _ _)
      (beforeChain_of_beforeStatement hus) c c' before
    exact absurd hus (not_beforeStatement_sign_equal _ _)
  | .assign name place equal c, .assign name' place' equal' c', h => by
    have before : (ts ++ [⟨.identifier, name, place⟩] ++ [.sign .equal equal]) ++ c.tokens =
        (us ++ [⟨.identifier, name', place'⟩] ++ [.sign .equal equal']) ++ c'.tokens := by
      simpa [Statement.tokens] using h
    obtain ⟨h₁, rfl⟩ := Chain.eq_of_append_tokens (beforeChain_sign_equal _ _)
      (beforeChain_sign_equal _ _) c c' before
    obtain ⟨h₂, hequal⟩ := eq_and_eq_of_concat_eq h₁
    obtain ⟨h₃, hname⟩ := eq_and_eq_of_concat_eq h₂
    cases hequal
    cases hname
    exact ⟨h₃, rfl⟩

theorem Chain.eq_of_append_tokens {ts us : List Token} (hts : BeforeChain ts)
    (hus : BeforeChain us) :
    (c c' : Chain) → ts ++ c.tokens = us ++ c'.tokens → ts = us ∧ c = c'
  | .single o, .single o', h => by
    obtain ⟨hpre, rfl⟩ := Operand.eq_of_append_tokens (beforeOperand_of_beforeChain hts)
      (beforeOperand_of_beforeChain hus) o o' h
    exact ⟨hpre, rfl⟩
  | .single o, .link c' op place o', h => by
    have before : ts ++ o.tokens =
        (us ++ c'.tokens ++ [.sign (.binary op) place]) ++ o'.tokens := by
      simpa [Chain.tokens] using h
    -- the last operands are equal, but an operator stands before only one of them
    obtain ⟨rfl, -⟩ := Operand.eq_of_append_tokens (beforeOperand_of_beforeChain hts)
      (beforeOperand_sign_binary _ _ _) o o' before
    exact absurd hts (not_beforeChain_sign_binary _ _ _)
  | .link c op place o, .single o', h => by
    have before : (ts ++ c.tokens ++ [.sign (.binary op) place]) ++ o.tokens =
        us ++ o'.tokens := by
      simpa [Chain.tokens] using h
    obtain ⟨rfl, -⟩ := Operand.eq_of_append_tokens (beforeOperand_sign_binary _ _ _)
      (beforeOperand_of_beforeChain hus) o o' before
    exact absurd hus (not_beforeChain_sign_binary _ _ _)
  | .link c op place o, .link c' op' place' o', h => by
    have before : (ts ++ c.tokens ++ [.sign (.binary op) place]) ++ o.tokens =
        (us ++ c'.tokens ++ [.sign (.binary op') place']) ++ o'.tokens := by
      simpa [Chain.tokens] using h
    obtain ⟨h₁, rfl⟩ := Operand.eq_of_append_tokens (beforeOperand_sign_binary _ _ _)
      (beforeOperand_sign_binary _ _ _) o o' before
    obtain ⟨h₂, hop⟩ := eq_and_eq_of_concat_eq h₁
    obtain ⟨h₃, rfl⟩ := Chain.eq_of_append_tokens hts hus c c' h₂
    cases hop
    exact ⟨h₃, rfl⟩

theorem Operand.eq_of_append_tokens {ts us : List Token} (hts : BeforeOperand ts)
    (hus : BeforeOperand us) :
    (o o' : Operand) → ts ++ o.tokens = us ++ o'.tokens → ts = us ∧ o = o'
  | .group paren s close, .group paren' s' close', h => by
    have before : ((ts ++ [.sign .openParen paren]) ++ s.tokens) ++ [.sign .closeParen close] =
        ((us ++ [.sign .openParen paren']) ++ s'.tokens) ++ [.sign .closeParen close'] := by
      simpa [Operand.tokens] using h
    obtain ⟨h₁, hclose⟩ := eq_and_eq_of_concat_eq before
    obtain ⟨h₂, rfl⟩ := Statement.eq_of_append_tokens (beforeStatement_sign_openParen _ _)
      (beforeStatement_sign_openParen _ _) s s' h₁
    obtain ⟨h₃, hparen⟩ := eq_and_eq_of_concat_eq h₂
    cases hclose
    cases hparen
    exact ⟨h₃, rfl⟩
  | .complement tilde digits place, .complement tilde' digits' place', h => by
    have before : (ts ++ [.sign .tilde tilde]) ++ [⟨.number, digits, place⟩] =
        (us ++ [.sign .tilde tilde']) ++ [⟨.number, digits', place'⟩] := by
      simpa [Operand.tokens] using h
    obtain ⟨h₁, hnumber⟩ := eq_and_eq_of_concat_eq before
    obtain ⟨h₂, htilde⟩ := eq_and_eq_of_concat_eq h₁
    cases hnumber
    cases htilde
    exact ⟨h₂, rfl⟩
  | .complement tilde digits place, .number digits' place', h => by
    have before : (ts ++ [.sign .tilde tilde]) ++ [⟨.number, digits, place⟩] =
        us ++ [⟨.number, digits', place'⟩] := by
      simpa [Operand.tokens] using h
    obtain ⟨rfl, -⟩ := eq_and_eq_of_concat_eq before
    exact absurd hus (not_beforeOperand_sign_tilde _ _)
  | .number digits place, .complement tilde' digits' place', h => by
    have before : ts ++ [⟨.number, digits, place⟩] =
        (us ++ [.sign .tilde tilde']) ++ [⟨.number, digits', place'⟩] := by
      simpa [Operand.tokens] using h
    obtain ⟨rfl, -⟩ := eq_and_eq_of_concat_eq before
    exact absurd hts (not_beforeOperand_sign_tilde _ _)
  | .number digits place, .number digits' place', h => by
    obtain ⟨hpre, hnumber⟩ := eq_and_eq_of_concat_eq h
    cases hnumber
    exact ⟨hpre, rfl⟩
  | .name text place, .name text' place', h => by
    obtain ⟨hpre, hname⟩ := eq_and_eq_of_concat_eq h
    cases hname
    exact ⟨hpre, rfl⟩
  -- operands of other kinds do not end in the same kind of token
  | .group .., .complement .., h | .group .., .name .., h | .group .., .number .., h
  | .complement .., .group .., h | .complement .., .name .., h | .name .., .group .., h
  | .name .., .complement .., h | .name .., .number .., h | .number .., .group .., h
  | .number .., .name .., h =>
    absurd (Operand.lastKind_eq_of_append_tokens h) TokenKind.noConfusion

end

/-- Tokens have at most one derivation. -/
theorem Statement.tokens_injective {s s' : Statement} (h : s.tokens = s'.tokens) : s = s' :=
  have before : BeforeStatement [] := fun _ h => absurd h (Option.not_mem_none _)
  (Statement.eq_of_append_tokens before before s s' h).2

end Grammar

end Bitwise
