import Bitwise.Proofs.Acceptance
import Bitwise.Proofs.Evaluation

/-!
# Spans and blanks have no meaning

What a text means is decided by the kinds and texts of its tokens (`Token.content`). Texts whose
tokens agree in these are parsed and evaluated alike (`SameMeaning`): the results differ in spans
only, or not at all. For parsing and evaluating pass spans through, so that all of them can be
replaced by the same one without a difference to anything else.

Blanks stand between tokens and belong to none. They can be put wherever no token is interrupted
(`Spaced`), and the tokens keep their kinds and texts: a blank goes on nothing, so that no token
becomes longer, and a token ended where it ends now, so that none becomes shorter.
-/

namespace Bitwise

open Text (byteLength)
open Unicode (isBlank)

/-- What a token is, wherever it stands. -/
def Token.content (t : Token) : TokenKind × String :=
  (t.kind, t.text)

/-! ## Results that differ in spans -/

/-- Errors that say the same, each about its own text. -/
inductive ParseError.Alike : ParseError → ParseError → Prop
  | lexical {diagnostic : String} {a b : Span} :
    Alike (.lexical diagnostic a) (.lexical diagnostic b)
  | unexpectedToken {expected : Expected} {t u : Token} : t.content = u.content →
    Alike (.unexpectedToken expected t) (.unexpectedToken expected u)
  | unexpectedEnd {expected : Expected} : Alike (.unexpectedEnd expected) (.unexpectedEnd expected)
  | numberTooLarge {text : String} {a b : Span} :
    Alike (.numberTooLarge text a) (.numberTooLarge text b)
  | tooDeep {a b : Span} : Alike (.tooDeep a) (.tooDeep b)

/-- Texts are parsed alike: as the same expression, or with the same error. -/
inductive ParsedAlike : Except ParseError Node → Except ParseError Node → Prop
  | ok {m n : Node} : m.erase = n.erase → ParsedAlike (.ok m) (.ok n)
  | error {e e' : ParseError} : e.Alike e' → ParsedAlike (.error e) (.error e')

/-- Texts are evaluated alike: they have the same value or the same error, and the same bindings are
    left behind. -/
inductive EvaluatedAlike : EStateM.Result StatementError Environment Int64 →
    EStateM.Result StatementError Environment Int64 → Prop
  | ok {v : Int64} {env : Environment} : EvaluatedAlike (.ok v env) (.ok v env)
  | parse {e e' : ParseError} {env : Environment} : e.Alike e' →
    EvaluatedAlike (.error (.parse e) env) (.error (.parse e') env)
  | undefined {x : String} {a b : Span} {env : Environment} :
    EvaluatedAlike (.error (.eval ⟨x, a⟩) env) (.error (.eval ⟨x, b⟩) env)

/-- What is evaluated like something that has a value has this value. -/
theorem EvaluatedAlike.eq_ok {r : EStateM.Result StatementError Environment Int64} {v : Int64}
    {env : Environment} (h : EvaluatedAlike r (.ok v env)) : r = .ok v env := by
  cases h
  rfl

/-- Texts mean the same, in every environment. -/
structure SameMeaning (source source' : String) : Prop where
  parse : ParsedAlike (parse source) (parse source')
  eval : ∀ env, EvaluatedAlike ((evalText source).run env) ((evalText source').run env)

/-- The span that all others are replaced by where they do not matter. -/
def Span.forget (_ : Span) : Span :=
  .point 0

theorem Span.covering_forget : Span.Covering Span.forget :=
  Span.covering_const (.point 0)

theorem Tree.map_map {α β γ : Type} (f : α → β) (g : β → γ) (t : Tree α) :
    (t.map f).map g = t.map fun a => g (f a) := by
  induction t with
  | literal | var => rfl
  | complement _ _ ih => exact congrArg (Tree.complement · _) ih
  | binary _ _ _ _ ihl ihr =>
    rw [map, map, map, ihl, ihr]
  | assign _ _ _ ih => exact congrArg (Tree.assign _ · _) ih

/-- Without spans, nodes are expressions. -/
theorem Node.map_forget_eq_iff {m n : Node} :
    m.map Span.forget = n.map Span.forget ↔ m.erase = n.erase := by
  constructor
  · intro h
    have erased := congrArg Tree.erase h
    rwa [Tree.erase, Tree.erase, Tree.map_map, Tree.map_map] at erased
  · intro h
    have spanned := congrArg (Tree.map fun _ => Span.point 0) h
    rwa [Tree.erase, Tree.erase, Tree.map_map, Tree.map_map] at spanned

theorem Token.mapSpan_forget_eq_iff {t u : Token} :
    t.mapSpan Span.forget = u.mapSpan Span.forget ↔ t.content = u.content := by
  obtain ⟨_, _, _⟩ := t
  obtain ⟨_, _, _⟩ := u
  simp [mapSpan, content, Span.forget]

theorem ParseError.alike_of_mapSpan {e e' : ParseError}
    (h : e.mapSpan Span.forget = e'.mapSpan Span.forget) : e.Alike e' := by
  cases e with
  | unexpectedToken expected t =>
    cases e' with
    | unexpectedToken expected' u =>
      obtain ⟨rfl, htoken⟩ := unexpectedToken.inj h
      exact .unexpectedToken (Token.mapSpan_forget_eq_iff.1 htoken)
    | _ => cases h
  | lexical => cases e' <;> cases h; exact .lexical
  | unexpectedEnd => cases e' <;> cases h; exact .unexpectedEnd
  | numberTooLarge => cases e' <;> cases h; exact .numberTooLarge
  | tooDeep =>
    cases e' with
    | tooDeep => exact .tooDeep
    | _ => cases h

open ParseError (mapResult) in
theorem ParsedAlike.of_mapResult {a b : Except ParseError Node}
    (h : mapResult Span.forget (Tree.map Span.forget) a =
      mapResult Span.forget (Tree.map Span.forget) b) : ParsedAlike a b := by
  rcases a with e | m <;> rcases b with e' | n
  · exact .error (ParseError.alike_of_mapSpan (Except.error.inj h))
  · cases h
  · cases h
  · exact .ok (Node.map_forget_eq_iff.1 (Except.ok.inj h))

/-! ## Texts with the same tokens but for spans -/

section Same

variable {source source' : String}

theorem map_mapSpan_forget_of_content {ts us : List Token}
    (h : ts.map Token.content = us.map Token.content) :
    ts.map (Token.mapSpan Span.forget) = us.map (Token.mapSpan Span.forget) := by
  have rebuilt := congrArg (List.map fun c : TokenKind × String => Token.mk c.1 c.2 (.point 0)) h
  rwa [List.map_map, List.map_map] at rebuilt

/-- Tokens of the same kinds and texts are parsed alike. -/
theorem parsedAlike_of_content
    (h : (tokenize source).map Token.content = (tokenize source').map Token.content) :
    ParsedAlike (parse source) (parse source') := by
  rw [parse_eq_runTokens, parse_eq_runTokens]
  refine .of_mapResult ?_
  rw [← Parser.runTokens_mapSpan Span.covering_forget,
    ← Parser.runTokens_mapSpan Span.covering_forget]
  exact congrArg _ (map_mapSpan_forget_of_content h)

/-- A text is legal if its tokens are of the kinds and texts of a legal one. -/
theorem legal_of_content
    (h : (tokenize source).map Token.content = (tokenize source').map Token.content)
    (hlegal : ∀ t ∈ tokenize source', t.kind ≠ .illegal) :
    ∀ t ∈ tokenize source, t.kind ≠ .illegal := by
  intro t ht
  have hmem : t.content ∈ (tokenize source').map Token.content := h ▸ List.mem_map_of_mem ht
  obtain ⟨u, hu, hcontent⟩ := List.mem_map.1 hmem
  have kinds : u.kind = t.kind := congrArg Prod.fst hcontent
  rw [← kinds]
  exact hlegal u hu

/-- The same expression is evaluated alike, wherever its nodes stand. -/
theorem evaluatedAlike_of_erase {m n : Node} (h : m.erase = n.erase) (env : Environment) :
    EvaluatedAlike (EvalResult.ofText ((Node.eval m).run env))
      (EvalResult.ofText ((Node.eval n).run env)) := by
  have same : EvalResult.mapSpan Span.forget ((Node.eval m).run env) =
      EvalResult.mapSpan Span.forget ((Node.eval n).run env) := by
    rw [← Node.run_eval_map, ← Node.run_eval_map, Node.map_forget_eq_iff.2 h]
  generalize (Node.eval m).run env = r at same ⊢
  generalize (Node.eval n).run env = r' at same ⊢
  rcases r with ⟨v, env₁⟩ | ⟨⟨x, a⟩, env₁⟩ <;> rcases r' with ⟨v', env₂⟩ | ⟨⟨x', b⟩, env₂⟩ <;>
    cases same
  · exact .ok
  · exact .undefined

/-- Texts whose tokens are of the same kinds and texts mean the same. -/
theorem sameMeaning_of_content
    (h : (tokenize source).map Token.content = (tokenize source').map Token.content) :
    SameMeaning source source' where
  parse := parsedAlike_of_content h
  eval env := by
    have parsed := parsedAlike_of_content h
    generalize hp : parse source = a at parsed
    generalize hp' : parse source' = b at parsed
    cases parsed with
    | ok hmn =>
      rw [evalText_of_ok hp, evalText_of_ok hp']
      exact evaluatedAlike_of_erase hmn env
    | error he =>
      rw [evalText_of_error hp, evalText_of_error hp']
      exact .parse he

end Same

/-! ## Blanks between tokens -/

/-- No token is interrupted at an offset. -/
def Between (ts : List Token) (offset : Nat) : Prop :=
  ∀ t ∈ ts, offset ≤ t.span.start ∨ t.span.stop ≤ offset

instance (ts : List Token) (offset : Nat) : Decidable (Between ts offset) :=
  inferInstanceAs (Decidable (∀ t ∈ ts, offset ≤ t.span.start ∨ t.span.stop ≤ offset))

/-- A text that stands at an offset, and the text that it becomes when blanks are put where no token
    is interrupted. -/
inductive Spaced (ts : List Token) : Nat → List Char → List Char → Prop
  | nil {offset : Nat} : Spaced ts offset [] []
  | keep {offset : Nat} {c : Char} {cs ds : List Char} : Spaced ts (offset + c.utf8Size) cs ds →
    Spaced ts offset (c :: cs) (c :: ds)
  | blank {offset : Nat} {b : Char} {cs ds : List Char} : Between ts offset → isBlank b = true →
    Spaced ts offset cs ds → Spaced ts offset cs (b :: ds)

namespace Spaced

variable {all : List Token} {offset : Nat} {cs ds gap text rest : List Char}

theorem isBlank_of_blank (h : Spaced all offset cs ds) (hcs : ∀ c ∈ cs, isBlank c = true) :
    ∀ c ∈ ds, isBlank c = true := by
  induction h with
  | nil => exact hcs
  | keep _ ih =>
    obtain ⟨hc, htail⟩ := List.forall_mem_cons.1 hcs
    exact List.forall_mem_cons.2 ⟨hc, ih htail⟩
  | blank _ hb _ ih => exact List.forall_mem_cons.2 ⟨hb, ih hcs⟩

/-- What ends before a text ends before the text with blanks too. -/
theorem endsBefore {kind : TokenKind} (h : Spaced all offset cs ds) (he : kind.EndsBefore cs) :
    kind.EndsBefore ds := by
  cases h with
  | nil => exact he
  | keep _ => exact he
  | blank _ hb _ =>
    intro c hc
    obtain rfl := Option.mem_some_iff.1 hc
    exact TokenKind.goesOn_eq_false (isIdentifierPart_of_isBlank hb) kind

/-- Blanks that are put among blanks make more of them. -/
theorem exists_gap {c : Char} (h : Spaced all offset (gap ++ c :: cs) ds)
    (hgap : ∀ c ∈ gap, isBlank c = true) :
    ∃ gap' ds', ds = gap' ++ c :: ds' ∧ (∀ c ∈ gap', isBlank c = true) ∧
      Spaced all (offset + byteLength gap + c.utf8Size) cs ds' := by
  generalize htext : gap ++ c :: cs = text at h
  induction h generalizing gap with
  | nil => exact absurd htext (List.append_ne_nil_of_right_ne_nil _ (List.cons_ne_nil c cs))
  | @keep offset d text ds h ih =>
    cases gap with
    | nil =>
      cases htext
      exact ⟨[], ds, rfl, List.forall_mem_nil _, h⟩
    | cons g gap =>
      obtain ⟨rfl, htext'⟩ := List.cons.inj htext
      obtain ⟨hg, hgap⟩ := List.forall_mem_cons.1 hgap
      obtain ⟨gap', ds', rfl, hgap', h'⟩ := ih hgap htext'
      refine ⟨g :: gap', ds', rfl, List.forall_mem_cons.2 ⟨hg, hgap'⟩, ?_⟩
      rwa [Text.byteLength_cons, ← Nat.add_assoc]
  | @blank offset b text ds _ hb _ ih =>
    obtain ⟨gap', ds', rfl, hgap', h'⟩ := ih hgap htext
    exact ⟨b :: gap', ds', rfl, List.forall_mem_cons.2 ⟨hb, hgap'⟩, h'⟩

/-- No blank is put into a token. -/
theorem exists_rest {t : Token} (h : Spaced all offset (text ++ rest) ds) (ht : t ∈ all)
    (hstart : t.span.start < offset) (hstop : t.span.stop = offset + byteLength text) :
    ∃ ds', ds = text ++ ds' ∧ Spaced all (offset + byteLength text) rest ds' := by
  induction text generalizing offset ds with
  | nil => exact ⟨ds, rfl, h⟩
  | cons c text ih =>
    rw [Text.byteLength_cons, ← Nat.add_assoc] at hstop ⊢
    cases h with
    | keep h =>
      obtain ⟨ds', rfl, h'⟩ := ih h (Nat.lt_add_right _ hstart) hstop
      exact ⟨ds', rfl, h'⟩
    | blank hbetween _ _ =>
      have := hbetween t ht
      have := c.utf8Size_pos
      omega

end Spaced

/-- A spelling with blanks between its tokens spells tokens of the same kinds and texts. -/
theorem Spelling.exists_of_spaced {all ts : List Token} {rest text cs : List Char} {offset : Nat}
    (h : Spelling rest offset text ts) (hts : ∀ t ∈ ts, t ∈ all)
    (hcs : Spaced all offset (text ++ rest) cs) (offset' : Nat) :
    ∃ text' rest' us, cs = text' ++ rest' ∧ Spelling rest' offset' text' us ∧
      Spaced all (offset + byteLength text) rest rest' ∧
      us.map Token.content = ts.map Token.content := by
  induction h generalizing cs offset' with
  | nil => exact ⟨[], cs, [], rfl, .nil, hcs, rfl⟩
  | @cons offset gap lexeme text kind ts hgap hl he _ ih =>
    obtain ⟨ht, htail⟩ := List.forall_mem_cons.1 hts
    obtain ⟨c, lexeme, rfl⟩ := List.exists_cons_of_ne_nil hl.ne_nil
    rw [List.append_assoc, List.append_assoc, List.cons_append] at hcs
    -- blanks before the lexeme, then the lexeme itself, and then the spelling of the other tokens
    obtain ⟨gap', ds, rfl, hgap', htail'⟩ := hcs.exists_gap hgap
    have inside : offset + byteLength gap < offset + byteLength gap + c.utf8Size :=
      Nat.lt_add_of_pos_right c.utf8Size_pos
    obtain ⟨ds, rfl, hds⟩ := htail'.exists_rest ht inside (Nat.add_assoc ..).symm
    have ends := hds.endsBefore he
    rw [Nat.add_assoc (offset + byteLength gap), ← Text.byteLength_cons] at hds
    obtain ⟨text', rest', us, rfl, hspell, hrest, hus⟩ :=
      ih htail hds (offset' + byteLength gap' + byteLength (c :: lexeme))
    refine ⟨gap' ++ (c :: lexeme ++ text'), rest', _, by simp, .cons hgap' hl ends hspell, ?_, ?_⟩
    · rwa [Text.add_byteLength_append, Text.add_byteLength_append]
    · rw [List.map_cons, List.map_cons, hus]
      rfl

/-- Blanks between the tokens of a text leave their kinds and texts. -/
theorem content_of_spaced {source : String} {cs : List Char}
    (hlegal : ∀ t ∈ tokenize source, t.kind ≠ .illegal)
    (h : Spaced (tokenize source) 0 source.toList cs) :
    (tokenize (String.ofList cs)).map Token.content = (tokenize source).map Token.content := by
  obtain ⟨ts, text, gap, hsource, hgap, hspell, hts⟩ := exists_spelling_of_legal hlegal
  rw [hsource] at h
  have among : ∀ t ∈ ts, t ∈ tokenize source := by
    intro t ht
    rw [hts]
    exact List.mem_append_left _ ht
  obtain ⟨text', gap', us, rfl, hspell', hgap', hus⟩ := hspell.exists_of_spaced among h 0
  have scanned := tokensAt_of_spelling hspell' (hgap'.isBlank_of_blank hgap)
  have whole : tokenize (String.ofList (text' ++ gap')) = tokensAt 0 (text' ++ gap') :=
    congrArg (tokensAt 0) String.toList_ofList
  rw [whole, scanned, hts, List.map_append, List.map_append, hus]
  rfl

/-- Neither spans nor blanks have a meaning. Texts whose tokens agree in kinds and texts are parsed
    and evaluated alike, and blanks between the tokens of a text leave their kinds and texts. -/
theorem spans_and_blanks_have_no_meaning :
    (∀ source source' : String,
      (tokenize source).map Token.content = (tokenize source').map Token.content →
        SameMeaning source source') ∧
    ∀ (source : String) (cs : List Char), (∀ t ∈ tokenize source, t.kind ≠ .illegal) →
      Spaced (tokenize source) 0 source.toList cs →
        (tokenize (String.ofList cs)).map Token.content = (tokenize source).map Token.content :=
  ⟨fun _ _ => sameMeaning_of_content, fun _ _ => content_of_spaced⟩

/-- A blank before an operator and one behind a sign. -/
theorem blanks_have_no_meaning_in_complement : SameMeaning "x\t|~ 1" "x|~1" := by
  have legal : ∀ t ∈ tokenize "x|~1", t.kind ≠ .illegal := by decide +kernel
  have text : "x|~1".toList = ['x', '|', '~', '1'] := by decide
  have spaced : Spaced (tokenize "x|~1") 0 "x|~1".toList ['x', '\t', '|', '~', ' ', '1'] := by
    rw [text]
    exact .keep (.blank (by decide +kernel) rfl (.keep (.keep (.blank (by decide +kernel) rfl
      (.keep .nil)))))
  exact spans_and_blanks_have_no_meaning.1 _ _
    (spans_and_blanks_have_no_meaning.2 "x|~1" _ legal spaced)

end Bitwise
