import Bitwise.Proofs.Acceptance

/-!
# Printed trees are read back

The text of a tree is parsed as the same expression, if its literals, names and complements are such
as a text can have (`Tree.Writable`), and so are those of all trees that come from texts. There is
one exception: a tree can be so deep that the parentheses of its text are nested too deeply. Even
then the error is known beforehand, since it stands at the first parenthesis too many.

The proof finds, for each tree, the statement that its text spells (`Tree.Writable.written`).
A binary operation is always written as a group, and so is an assignment, unless it is the root.
-/

namespace Bitwise

open Grammar (Statement Chain Operand literalValue)
open Text (byteLength)
open Unicode (isBlank)

/-! ## Digits -/

theorem Radix.one_lt_base (radix : Radix) : 1 < radix.base := by
  cases radix <;> decide

namespace Numeral

variable {digits : List Char}

theorem split_of_isDigit (h : ∀ c ∈ digits, c.isDigit = true) :
    split digits = (.decimal, digits) := by
  rw [split.eq_def]
  split
  · exact absurd (h 'b' (by simp)) (by decide)
  · exact absurd (h 'x' (by simp)) (by decide)
  · rfl

/-- There is a digit for each number below the base. -/
theorem digitChar_of_lt {radix : Radix} : ∀ d < radix.base,
    radix.isDigit (Nat.digitChar d) = true ∧ digitValue (Nat.digitChar d) = d := by
  cases radix <;> decide

/-- What holds of single digits, and is kept when one more digit is put behind those of a positive
    number, holds of the digits of every number. -/
theorem toDigits_induction {radix : Radix} {motive : Nat → List Char → Prop}
    (single : ∀ d < radix.base, motive d [Nat.digitChar d])
    (snoc : ∀ n d ds, 0 < n → d < radix.base → motive n ds →
      motive (radix.base * n + d) (ds ++ [Nat.digitChar d]))
    (n : Nat) : motive n (Nat.toDigits radix.base n) := by
  have base := radix.one_lt_base
  induction n using Nat.strongRecOn with
  | ind n ih =>
    rw [Nat.toDigits_eq_if base]
    split
    · next h => exact single n h
    · next h =>
      have smaller : n / radix.base < n := Nat.div_lt_self (by omega) base
      have positive : 0 < n / radix.base := Nat.div_pos (by omega) (by omega)
      have joined := snoc _ _ _ positive (Nat.mod_lt n (by omega)) (ih _ smaller)
      rwa [Nat.div_add_mod] at joined

theorem isDigit_of_mem_toDigits (radix : Radix) (n : Nat) :
    ∀ c ∈ Nat.toDigits radix.base n, radix.isDigit c = true := by
  refine toDigits_induction (motive := fun _ ds => ∀ c ∈ ds, radix.isDigit c = true)
    (fun d hd => ?_) (fun n d ds _ hd hds => ?_) n
  · exact List.forall_mem_singleton.2 (digitChar_of_lt d hd).1
  · exact List.forall_mem_append.2
      ⟨hds, List.forall_mem_singleton.2 (digitChar_of_lt d hd).1⟩

theorem ofDigits_append_singleton (base : Nat) (digits : List Char) (c : Char) :
    ofDigits base (digits ++ [c]) = ofDigits base digits * base + digitValue c :=
  List.foldl_append

/-- A number is read back from its digits. -/
theorem ofDigits_toDigits (radix : Radix) (n : Nat) :
    ofDigits radix.base (Nat.toDigits radix.base n) = n := by
  refine toDigits_induction (motive := fun n ds => ofDigits radix.base ds = n)
    (fun d hd => ?_) (fun n d ds _ hd hds => ?_) n
  · rw [← List.nil_append [Nat.digitChar d], ofDigits_append_singleton, (digitChar_of_lt d hd).2]
    show 0 * radix.base + d = d
    rw [Nat.zero_mul, Nat.zero_add]
  · rw [ofDigits_append_singleton, hds, (digitChar_of_lt d hd).2, Nat.mul_comm]

theorem value_toDigits (n : Nat) : value (Nat.toDigits 10 n) = n := by
  have decimal : split (Nat.toDigits 10 n) = (.decimal, Nat.toDigits 10 n) :=
    split_of_isDigit (isDigit_of_mem_toDigits .decimal n)
  rw [value, decimal]
  exact ofDigits_toDigits .decimal n

/-- Nothing is wrong with a lexeme that has digits of its radix and nothing else. -/
theorem malformation?_of_split {text : List Char} {radix : Radix}
    (h : split text = (radix, digits)) (hne : digits ≠ [])
    (hdigits : ∀ c ∈ digits, radix.isDigit c = true) : malformation? text = none := by
  rw [malformation?, h]
  obtain ⟨c, cs, rfl⟩ := List.exists_cons_of_ne_nil hne
  have first : radix.isDigit c = true := hdigits c List.mem_cons_self
  have all : (c :: cs).all radix.isDigit = true := List.all_eq_true.2 hdigits
  simp [first, all]

theorem malformation?_toDigits (n : Nat) : malformation? (Nat.toDigits 10 n) = none :=
  malformation?_of_split (split_of_isDigit (isDigit_of_mem_toDigits .decimal n))
    Nat.toDigits_ne_nil (isDigit_of_mem_toDigits .decimal n)

end Numeral

theorem lexeme_toDigits (n : Nat) : Lexeme .number (Nat.toDigits 10 n) := by
  have digits : ∀ c ∈ Nat.toDigits 10 n, c.isDigit = true :=
    Numeral.isDigit_of_mem_toDigits .decimal n
  have wellFormed := Numeral.malformation?_toDigits n
  obtain ⟨c, cs, h⟩ := List.exists_cons_of_ne_nil (Nat.toDigits_ne_nil (n := n) (b := 10))
  rw [h] at digits wellFormed ⊢
  refine .number (digits c List.mem_cons_self) (fun d hd => ?_) wellFormed
  exact isNumberPart_of_isDigit (digits d (List.mem_cons_of_mem c hd))

/-- The text of a literal that is not negative is a decimal number, which has its value. -/
theorem exists_digits_of_nonneg {v : Int64} (h : 0 ≤ v) :
    ∃ digits : String, toString v.toInt = digits ∧ Lexeme .number digits.toList ∧
      Numeral.value digits.toList < Nat.pow 2 63 ∧ literalValue digits = v := by
  have text : toString v.toInt = v.toNatClampNeg.repr := by
    rw [← v.cast_toNatClampNeg h]
    rfl
  refine ⟨v.toNatClampNeg.repr, text, ?_, ?_, ?_⟩
  · rw [Nat.toList_repr]
    exact lexeme_toDigits _
  · rw [Nat.toList_repr, Numeral.value_toDigits]
    exact v.toNatClampNeg_lt
  · rw [literalValue, Nat.toList_repr, Numeral.value_toDigits]
    exact v.ofNat_toNatClampNeg h

/-! ## Texts of phrases -/

/-- The head of a text goes on no token. -/
def Apart (text : List Char) : Prop :=
  ∀ c ∈ text.head?, ∀ kind : TokenKind, kind.goesOn c = false

/-- A text is written for an expression, in terms of some kind of phrase: wherever it stands, it
    spells such a phrase, which means the expression and has no number out of range. -/
def Written {γ : Type} (tokens : γ → List Token) (expr : γ → Expr) (text : List Char) (e : Expr) :
    Prop :=
  ∀ rest, Apart rest → ∀ offset, ∃ d : γ, Spelling rest offset text (tokens d) ∧
    InRange (tokens d) ∧ expr d = e

theorem Token.ofLexeme_toList (kind : TokenKind) (offset : Nat) (text : String) :
    ofLexeme kind offset text.toList = ⟨kind, text, ⟨offset, offset + byteLength text.toList⟩⟩ := by
  rw [ofLexeme, String.ofList_toList]

theorem Lexeme.symbol (op : BinaryOperator) : Lexeme (.binary op) op.symbol.toList := by
  cases op with
  | and | or | xor => exact .sign rfl
  | shl | shr => exact .shift rfl

theorem apart_of_mem_signs {c : Char} (h : c ∈ signs) (cs : List Char) : Apart (c :: cs) := by
  intro d hd
  obtain rfl := Option.mem_some_iff.1 hd
  exact TokenKind.goesOn_eq_false (isIdentifierPart_of_mem_signs h)

theorem apart_nil : Apart [] :=
  fun _ h => absurd h (Option.not_mem_none _)

theorem apart_symbol (op : BinaryOperator) (cs : List Char) : Apart (op.symbol.toList ++ cs) := by
  cases op <;> exact apart_of_mem_signs (by decide) _

theorem Apart.blank_append {gap text : List Char} (hgap : ∀ c ∈ gap, isBlank c = true)
    (h : Apart text) : Apart (gap ++ text) := by
  cases gap with
  | nil => exact h
  | cons c gap =>
    intro d hd
    obtain rfl := Option.mem_some_iff.1 hd
    exact TokenKind.goesOn_eq_false (isIdentifierPart_of_isBlank (hgap c List.mem_cons_self))

theorem blank_singleton : ∀ c ∈ [' '], isBlank c = true :=
  List.forall_mem_singleton.2 rfl

theorem apart_blank (cs : List Char) : Apart (' ' :: cs) := by
  intro d hd
  obtain rfl := Option.mem_some_iff.1 hd
  exact TokenKind.goesOn_eq_false (isIdentifierPart_of_isBlank rfl)

namespace Spelling

variable {text gap rest : List Char} {offset : Nat} {ts us : List Token}

/-- Tokens in parentheses, with blanks before the last of them. -/
theorem group (hgap : ∀ c ∈ gap, isBlank c = true)
    (h : Spelling (gap ++ [')'] ++ rest) (offset + byteLength ['(']) text ts) :
    ∃ paren close, Spelling rest offset ('(' :: (text ++ (gap ++ [')'])))
      (.sign .openParen paren :: (ts ++ [.sign .closeParen close])) := by
  have paren : Spelling (text ++ (gap ++ [')']) ++ rest) offset ['(']
      [.ofLexeme .openParen offset ['(']] := .singleton (.sign rfl) fun _ _ => rfl
  have close : Spelling rest (offset + byteLength ['('] + byteLength text + byteLength gap)
      [')'] _ := .singleton (.sign rfl) fun _ _ => rfl
  exact ⟨_, _, paren.append (h.append (close.blank_append hgap (List.cons_ne_nil _ _)))⟩

/-- Tokens on both sides of an operator, with blanks around it. -/
theorem link {left right gap' : List Char} (op : BinaryOperator)
    (hgap : ∀ c ∈ gap, isBlank c = true) (hgap' : ∀ c ∈ gap', isBlank c = true)
    (hl : Spelling (gap ++ (op.symbol.toList ++ (gap' ++ right)) ++ rest) offset left ts)
    (hr : Spelling rest (offset + byteLength left + byteLength gap +
      byteLength op.symbol.toList + byteLength gap') right us) (hus : us ≠ []) :
    ∃ place, Spelling rest offset (left ++ (gap ++ (op.symbol.toList ++ (gap' ++ right))))
      (ts ++ .sign (.binary op) place :: us) := by
  have sign : Spelling (gap' ++ right ++ rest) (offset + byteLength left + byteLength gap)
      op.symbol.toList _ := .singleton (.symbol op) fun _ _ => rfl
  rw [Token.ofLexeme_toList] at sign
  -- from the right to the left, since what follows decides whether a lexeme is complete
  have tail := sign.append (hr.blank_append hgap' hus)
  exact ⟨_, hl.append (tail.blank_append hgap (List.cons_ne_nil _ _))⟩

end Spelling

namespace Grammar

theorem Operand.tokens_ne_nil (o : Operand) : o.tokens ≠ [] := by
  cases o <;> exact List.cons_ne_nil _ _

theorem Chain.tokens_ne_nil (c : Chain) : c.tokens ≠ [] := by
  cases c with
  | single o => exact o.tokens_ne_nil
  | link left op place right => exact List.append_ne_nil_of_right_ne_nil _ (List.cons_ne_nil _ _)

theorem written_name {x : String} (hx : Lexeme .identifier x.toList) :
    Written Operand.tokens Operand.expr x.toList (.var x ()) := by
  intro rest hrest offset
  have spelled : Spelling rest offset x.toList [.ofLexeme .identifier offset x.toList] :=
    .singleton hx fun c hc => hrest c hc _
  rw [Token.ofLexeme_toList] at spelled
  exact ⟨.name x _, spelled, .singleton fun hk => TokenKind.noConfusion hk, rfl⟩

theorem written_number {digits : String} (h : Lexeme .number digits.toList)
    (hrange : Numeral.value digits.toList < Nat.pow 2 63) :
    Written Operand.tokens Operand.expr digits.toList (.literal (literalValue digits) ()) := by
  intro rest hrest offset
  have spelled : Spelling rest offset digits.toList [.ofLexeme .number offset digits.toList] :=
    .singleton h fun c hc => hrest c hc _
  rw [Token.ofLexeme_toList] at spelled
  exact ⟨.number digits _, spelled, .singleton fun _ => hrange, rfl⟩

theorem written_complement {digits : String} (h : Lexeme .number digits.toList)
    (hrange : Numeral.value digits.toList < Nat.pow 2 63) :
    Written Operand.tokens Operand.expr ('~' :: digits.toList)
      (.complement (.literal (literalValue digits) ()) ()) := by
  intro rest hrest offset
  have tilde : Spelling (digits.toList ++ rest) offset ['~'] [.ofLexeme .tilde offset ['~']] :=
    .singleton (.sign rfl) fun _ _ => rfl
  have number : Spelling rest (offset + byteLength ['~']) digits.toList _ :=
    .singleton h fun c hc => hrest c hc _
  rw [Token.ofLexeme_toList] at number
  refine ⟨.complement _ digits _, tilde.append number, ?_, rfl⟩
  exact .cons_of_ne TokenKind.noConfusion (.singleton fun _ => hrange)

theorem written_group {text gap : List Char} {e : Expr} (hgap : ∀ c ∈ gap, isBlank c = true)
    (h : Written Statement.tokens Statement.expr text e) :
    Written Operand.tokens Operand.expr ('(' :: (text ++ (gap ++ [')']))) e := by
  intro rest hrest offset
  have apart : Apart (gap ++ [')'] ++ rest) := by
    rw [List.append_assoc]
    exact .blank_append hgap (apart_of_mem_signs (by decide) rest)
  obtain ⟨s, hs, hrange, hexpr⟩ := h _ apart (offset + byteLength ['('])
  obtain ⟨paren, close, spelled⟩ := hs.group hgap
  refine ⟨.group paren s close, spelled, ?_, hexpr⟩
  refine .cons_of_ne TokenKind.noConfusion (hrange.append (.singleton ?_))
  exact TokenKind.noConfusion

theorem written_single {text : List Char} {e : Expr}
    (h : Written Operand.tokens Operand.expr text e) : Written Chain.tokens Chain.expr text e := by
  intro rest hrest offset
  obtain ⟨o, ho⟩ := h rest hrest offset
  exact ⟨.single o, ho⟩

/-- An operator is written between two phrases, with or without blanks around it. -/
theorem written_link {left gap gap' right : List Char} {e₁ e₂ : Expr} (op : BinaryOperator)
    (hgap : ∀ c ∈ gap, isBlank c = true) (hgap' : ∀ c ∈ gap', isBlank c = true)
    (hleft : Written Chain.tokens Chain.expr left e₁)
    (hright : Written Operand.tokens Operand.expr right e₂) :
    Written Chain.tokens Chain.expr (left ++ (gap ++ (op.symbol.toList ++ (gap' ++ right))))
      (.binary op e₁ e₂ ()) := by
  intro rest hrest offset
  have apart : Apart (gap ++ (op.symbol.toList ++ (gap' ++ right)) ++ rest) := by
    rw [List.append_assoc, List.append_assoc]
    exact .blank_append hgap (apart_symbol op _)
  obtain ⟨l, hl, hlrange, rfl⟩ := hleft _ apart offset
  obtain ⟨r, hr, hrrange, rfl⟩ := hright rest hrest (offset + byteLength left + byteLength gap +
    byteLength op.symbol.toList + byteLength gap')
  obtain ⟨place, spelled⟩ := hl.link op hgap hgap' hr r.tokens_ne_nil
  refine ⟨.link l op place r, spelled, ?_, rfl⟩
  exact hlrange.append (hrrange.cons_of_ne TokenKind.noConfusion)

theorem written_chain {text : List Char} {e : Expr}
    (h : Written Chain.tokens Chain.expr text e) :
    Written Statement.tokens Statement.expr text e := by
  intro rest hrest offset
  obtain ⟨c, hc⟩ := h rest hrest offset
  exact ⟨.chain c, hc⟩

/-- An equals sign is written with blanks around it. -/
theorem written_assign {x : String} {text : List Char} {e : Expr}
    (hx : Lexeme .identifier x.toList) (h : Written Chain.tokens Chain.expr text e) :
    Written Statement.tokens Statement.expr (x.toList ++ ([' '] ++ (['='] ++ ([' '] ++ text))))
      (.assign x e ()) := by
  intro rest hrest offset
  have name : Spelling ([' '] ++ (['='] ++ ([' '] ++ text)) ++ rest) offset x.toList _ :=
    .singleton hx fun c hc => apart_blank _ c hc _
  rw [Token.ofLexeme_toList] at name
  obtain ⟨c, hc, hrange, rfl⟩ := h rest hrest (offset + byteLength x.toList + byteLength [' '] +
    byteLength ['='] + byteLength [' '])
  have equal : Spelling ([' '] ++ text ++ rest) (offset + byteLength x.toList + byteLength [' '])
      ['='] _ := .singleton (.sign rfl) fun _ _ => rfl
  have tail := equal.append (hc.blank_append blank_singleton c.tokens_ne_nil)
  have spaced := tail.blank_append blank_singleton (List.cons_ne_nil _ _)
  refine ⟨.assign x _ _ c, name.append spaced, ?_, rfl⟩
  exact .cons_of_ne TokenKind.noConfusion (hrange.cons_of_ne TokenKind.noConfusion)

end Grammar

/-! ## Trees as texts have them -/

/-- The literals of a tree are not negative, only literals are complemented, and all names are
    identifiers. -/
def Tree.Writable {α : Type} : Tree α → Prop
  | .literal v _ => 0 ≤ v
  | .var x _ => Lexeme .identifier x.toList
  | .complement (.literal v _) _ => 0 ≤ v
  | .complement _ _ => False
  | .binary _ l r _ => l.Writable ∧ r.Writable
  | .assign x t _ => Lexeme .identifier x.toList ∧ t.Writable

namespace Tree

variable {α : Type}

theorem toList_print_binary (nested : Bool) (op : BinaryOperator) (l r : Tree α) (m : α) :
    ((binary op l r m).print nested).toList = '(' :: ((l.print true).toList ++
      ([' '] ++ (op.symbol.toList ++ ([' '] ++ (r.print true).toList))) ++ [')']) := by
  simp [print]

theorem toList_print_assign (x : String) (t : Tree α) (m : α) :
    ((assign x t m).print false).toList =
      x.toList ++ ([' '] ++ (['='] ++ ([' '] ++ (t.print true).toList))) := by
  simp [print, parenthesizeIf]

/-- An assignment inside another node is written in parentheses. -/
theorem toList_print_assign_nested (x : String) (t : Tree α) (m : α) :
    ((assign x t m).print true).toList = '(' :: (((assign x t m).print false).toList ++ [')']) := by
  simp [print, parenthesizeIf]

/-- Inside another node, a tree is written as an operand. -/
theorem Writable.written_nested : (t : Tree α) → t.Writable →
    Written Operand.tokens Operand.expr (t.print true).toList t.erase
  | .literal v _, h => by
    obtain ⟨digits, htext, hl, hrange, rfl⟩ := exists_digits_of_nonneg h
    rw [print, htext]
    exact Grammar.written_number hl hrange
  | .var _ _, h => Grammar.written_name h
  | .complement (.literal v _) _, h => by
    obtain ⟨digits, htext, hl, hrange, rfl⟩ := exists_digits_of_nonneg h
    rw [print, print, htext, String.toList_append]
    exact Grammar.written_complement hl hrange
  | .binary op l r m, h => by
    rw [toList_print_binary]
    have chain := Grammar.written_link op blank_singleton blank_singleton
      (Grammar.written_single (written_nested l h.1)) (written_nested r h.2)
    exact Grammar.written_group (List.forall_mem_nil _) (Grammar.written_chain chain)
  | .assign x t m, h => by
    rw [toList_print_assign_nested, toList_print_assign]
    exact Grammar.written_group (List.forall_mem_nil _)
      (Grammar.written_assign h.1 (Grammar.written_single (written_nested t h.2)))

/-- The text of a tree is written as a statement. -/
theorem Writable.written {t : Tree α} (h : t.Writable) :
    Written Statement.tokens Statement.expr (t.print false).toList t.erase := by
  have operand := written_nested t h
  cases t with
  | assign x t m =>
    rw [toList_print_assign]
    exact Grammar.written_assign h.1 (Grammar.written_single (written_nested t h.2))
  -- no other tree is written differently inside another node
  | _ => exact Grammar.written_chain (Grammar.written_single operand)

/-- Marks are not looked at. -/
theorem writable_withMark {t : Tree α} {m : α} (h : t.Writable) : (t.withMark m).Writable := by
  cases t with
  | complement t _ => cases t <;> exact h
  | _ => exact h

end Tree

namespace Grammar

theorem literalValue_nonneg {digits : String} (h : Numeral.value digits.toList < Nat.pow 2 63) :
    0 ≤ literalValue digits := by
  rw [Int64.le_iff_toInt_le, literalValue, Int64.toInt_ofNat_of_lt h]
  exact Int.natCast_nonneg _

mutual

/-- The tree of a statement is as texts have them, if its tokens are. -/
theorem Statement.writable_tree : (s : Statement) →
    (∀ t ∈ s.tokens, Lexeme t.kind t.text.toList) → InRange s.tokens → s.tree.Writable
  | .chain value, hl, h => value.writable_tree hl h
  | .assign _ _ _ value, hl, h =>
    ⟨hl _ List.mem_cons_self, value.writable_tree
      (fun t ht => hl t (List.mem_cons_of_mem _ (List.mem_cons_of_mem _ ht))) h.of_cons.of_cons⟩

theorem Chain.writable_tree : (c : Chain) →
    (∀ t ∈ c.tokens, Lexeme t.kind t.text.toList) → InRange c.tokens → c.tree.Writable
  | .single operand, hl, h => operand.writable_tree hl h
  | .link left op place right, hl, h => by
    obtain ⟨hleft, hright⟩ := List.forall_mem_append.1 hl
    exact ⟨left.writable_tree hleft h.of_append_left,
      right.writable_tree (List.forall_mem_cons.1 hright).2 h.of_append_right.of_cons⟩

theorem Operand.writable_tree : (o : Operand) →
    (∀ t ∈ o.tokens, Lexeme t.kind t.text.toList) → InRange o.tokens → o.tree.Writable
  | .group paren body close, hl, h => by
    obtain ⟨hbody, -⟩ := List.forall_mem_append.1 (List.forall_mem_cons.1 hl).2
    exact Tree.writable_withMark (body.writable_tree hbody h.of_cons.of_append_left)
  | .complement tilde digits place, _, h => by
    show 0 ≤ literalValue digits
    exact literalValue_nonneg (h.of_cons ⟨.number, digits, place⟩ List.mem_cons_self rfl)
  | .name text place, hl, _ => hl ⟨.identifier, text, place⟩ List.mem_cons_self
  | .number digits place, _, h => by
    show 0 ≤ literalValue digits
    exact literalValue_nonneg (h ⟨.number, digits, place⟩ List.mem_cons_self rfl)

end

end Grammar

/-! ## Reading back -/

section

variable {source : String} {e : Expr}

/-- What is written for an expression is parsed as that expression, if no parenthesis is too
    deep. -/
theorem exists_parse_of_written (h : Written Statement.tokens Statement.expr source.toList e)
    (hnested : Text.NestedWithin maxNesting source.toList) :
    ∃ node, parse source = .ok node ∧ node.erase = e := by
  obtain ⟨s, hs, hrange, hexpr⟩ := h [] apart_nil 0
  have admissible : s.Admissible := ⟨hs.nestedWithin_iff.1 hnested, hrange⟩
  refine ⟨s.tree, parse_eq_ok_iff_spelling.2 ?_, s.erase_tree.trans hexpr⟩
  exact ⟨s, _, [], (List.append_nil _).symm, List.forall_mem_nil _, hs, admissible, rfl⟩

/-- Otherwise it is given up at the first parenthesis too deep. -/
theorem exists_tooDeep_of_written (h : Written Statement.tokens Statement.expr source.toList e)
    (hnested : ¬Text.NestedWithin maxNesting source.toList) :
    ∃ before after, source.toList = before ++ '(' :: after ∧
      before.count '(' = before.count ')' + maxNesting ∧ Text.NestedWithin maxNesting before ∧
      parse source = .error (.tooDeep ⟨byteLength before, byteLength before + 1⟩) := by
  obtain ⟨s, hs, hrange, hexpr⟩ := h [] apart_nil 0
  -- the parenthesis is found among the tokens and then among the characters
  cases hdeep : tooDeep? maxNesting s.tokens with
  | none => exact absurd (hs.nestedWithin_iff.2 (tooDeep?_eq_none_iff.1 hdeep)) hnested
  | some paren =>
    obtain ⟨before, t', after, htokens, hk, rfl, hcount, hbefore⟩ :=
      exists_of_tooDeep?_eq_some hdeep
    obtain ⟨text₁, text₂, htext, hspan, hparens⟩ := (htokens ▸ hs).exists_openParen hk
    have failed := parse_tooDeep (List.append_nil _).symm hs hrange hdeep
    rw [hspan, Nat.zero_add] at failed
    refine ⟨text₁, text₂, htext, ?_, (nestedWithin_iff_of_filter hparens).2 hbefore, failed⟩
    rw [← (count_filter_isParen text₁).1, ← (count_filter_isParen text₁).2, hparens,
      (count_filterMap_paren? before).1, (count_filterMap_paren? before).2, hcount]

end

/-- A tree is read back from its text, or its text has a parenthesis too deep and the first such is
    reported. -/
structure Tree.ReadBack {α : Type} (t : Tree α) : Prop where
  /-- With no parenthesis too deep, the text is parsed as the same expression. -/
  ok : Text.NestedWithin maxNesting (toString t).toList →
    ∃ node, parse (toString t) = .ok node ∧ node.erase = t.erase
  /-- Otherwise the error is at the first parenthesis that opens while as many are open as can
      be. -/
  tooDeep : ¬Text.NestedWithin maxNesting (toString t).toList →
    ∃ before after, (toString t).toList = before ++ '(' :: after ∧
      before.count '(' = before.count ')' + maxNesting ∧ Text.NestedWithin maxNesting before ∧
      parse (toString t) = .error (.tooDeep ⟨byteLength before, byteLength before + 1⟩)

theorem Tree.Writable.readBack {α : Type} {t : Tree α} (h : t.Writable) : t.ReadBack where
  ok := exists_parse_of_written h.written
  tooDeep := exists_tooDeep_of_written h.written

theorem writable_of_parse {source : String} {node : Node} (h : parse source = .ok node) :
    node.Writable := by
  obtain ⟨s, text, gap, -, -, hs, admissible, rfl⟩ := parse_eq_ok_iff_spelling.1 h
  exact s.writable_tree hs.lexeme_of_mem admissible.inRange

/-- Parsing undoes printing for the trees that texts can have, as far as the text is not nested too
    deeply, and all trees that come from texts are such trees. -/
theorem parse_undoes_printing :
    (∀ {α : Type} (t : Tree α), t.Writable → t.ReadBack) ∧
      ∀ (source : String) (node : Node), parse source = .ok node → node.Writable :=
  ⟨fun _ h => h.readBack, fun _ _ h => writable_of_parse h⟩

theorem parse_undoes_printing_of_group :
    parse "~5&(y=2)" = .ok (.binary .and (.complement (.literal 5 ⟨1, 2⟩) ⟨0, 2⟩)
      (.assign "y" (.literal 2 ⟨6, 7⟩) ⟨3, 8⟩) ⟨0, 8⟩) ∧
    Tree.ReadBack (.binary .and (.complement (.literal 5 ⟨1, 2⟩) ⟨0, 2⟩)
      (.assign "y" (.literal 2 ⟨6, 7⟩) ⟨3, 8⟩) ⟨0, 8⟩ : Node) := by
  have parsed : parse "~5&(y=2)" = .ok (.binary .and (.complement (.literal 5 ⟨1, 2⟩) ⟨0, 2⟩)
      (.assign "y" (.literal 2 ⟨6, 7⟩) ⟨3, 8⟩) ⟨0, 8⟩) := by
    decide +kernel
  exact ⟨parsed, parse_undoes_printing.1 _ (parse_undoes_printing.2 _ _ parsed)⟩

end Bitwise
