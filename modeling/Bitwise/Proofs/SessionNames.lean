import Bitwise.Proofs.Independence
import Bitwise.Proofs.Printing
import Bitwise.Proofs.Trimming
import Bitwise.Session.Completion
import Bitwise.Session.Execution

/-!
# The names of a session

Whatever lines are evaluated, and whether they succeed or fail, all names that are bound afterwards
are identifiers: a name gets into an environment by an assignment, and what stands on the left of
one in a text is an identifier (`Environment.Named.evalLines`).

So every variable can be read back by typing its name (`bindings_read_back`): the name is a single
token, its value is the value of the variable, a session takes it for a statement unless it is a
word for leaving, and the first completion of it is itself.
-/

namespace Bitwise

open Session (Command environmentAfter isWordChar lastWord)
open Text (byteLength cutAt? trim)
open Unicode (isBlank)

/-! ## Names that lines bind -/

/-- What is assigned in a tree as texts have it is an identifier. -/
theorem Node.lexeme_of_write {x : String} : {t : Node} → t.Writable → .write x ∈ t.events →
    Lexeme .identifier x.toList
  | .literal _ _, _, hx => absurd hx List.not_mem_nil
  | .var _ _, _, hx => Event.noConfusion (List.mem_singleton.1 hx)
  | .complement (.literal _ _) _, _, hx => absurd hx List.not_mem_nil
  | .binary _ _ _ _, h, hx =>
    (List.mem_append.1 hx).elim (lexeme_of_write h.1) (lexeme_of_write h.2)
  | .assign _ _ _, h, hx =>
    (List.mem_append.1 hx).elim (lexeme_of_write h.2) fun hx => by
      cases List.mem_singleton.1 hx
      exact h.1

/-- The environment after lines that are evaluated one after the other. A line that fails leaves
    what it has assigned before. -/
def evalLines (env : Environment) (lines : List String) : Environment :=
  lines.foldl (fun env line => environmentAfter ((evalText line).run env)) env

namespace Environment

/-- All names that are bound are identifiers. -/
def Named (env : Environment) : Prop :=
  ∀ x, env.Binds x → Lexeme .identifier x.toList

theorem named_empty : Named ∅ :=
  fun _ ⟨_, h⟩ => nomatch h

variable {env : Environment}

/-- What a line binds are identifiers. -/
theorem Named.evalText (h : env.Named) (line : String) :
    (environmentAfter ((evalText line).run env)).Named := by
  cases hparse : parse line with
  | error e =>
    rw [evalText_of_error hparse]
    exact h
  | ok tree =>
    have same : environmentAfter ((Bitwise.evalText line).run env) =
        Node.environmentAfter tree env := by
      rw [evalText_of_ok hparse, Node.environmentAfter]
      cases (Node.eval tree).run env <;> rfl
    obtain ⟨assigned, hwrites, henv, -⟩ := Node.exists_assigned tree env
    rw [same, henv]
    intro x hx
    by_cases hassigned : ∃ p ∈ assigned, p.1 = x
    · obtain ⟨p, hp, rfl⟩ := hassigned
      exact Node.lexeme_of_write (writable_of_parse hparse) (hwrites p hp)
    · refine h x ?_
      rwa [Binds, get?_insertAll_of_forall_ne fun p hp heq => hassigned ⟨p, hp, heq⟩] at hx

theorem Named.evalLines (h : env.Named) (lines : List String) : (evalLines env lines).Named := by
  induction lines generalizing env with
  | nil => exact h
  | cons line lines ih => exact ih (h.evalText line)

end Environment

/-! ## Names as lines -/

section

variable {x : String}

theorem Lexeme.isIdentifierPart_of_mem {cs : List Char} (h : Lexeme .identifier cs) :
    ∀ c ∈ cs, isIdentifierPart c = true := by
  cases h with
  | sign h =>
    rw [signKind?.eq_def] at h
    split at h <;> cases h
  | identifier hc hcs =>
    exact List.forall_mem_cons.2 ⟨isIdentifierPart_of_isIdentifierStart hc, hcs⟩

theorem tokenize_name (hx : Lexeme .identifier x.toList) :
    tokenize x =
      [⟨.identifier, x, ⟨0, byteLength x.toList⟩⟩, .atEnd (byteLength x.toList)] := by
  have spelled : Spelling [] 0 x.toList [.ofLexeme .identifier 0 x.toList] :=
    .singleton hx fun c hc => nomatch hc
  rw [tokenize_of_spelling (List.append_nil _).symm (List.forall_mem_nil _) spelled,
    Token.ofLexeme_toList, List.append_nil, Nat.zero_add]
  rfl

theorem exists_parse_name (hx : Lexeme .identifier x.toList) :
    ∃ span, parse x = .ok (.var x span) := by
  have parens := filter_isParen_of_identifierPart hx.isIdentifierPart_of_mem
  obtain ⟨node, hparse, hnode⟩ := exists_parse_of_written
    (Grammar.written_chain (Grammar.written_single (Grammar.written_name hx)))
    (Text.nestedWithin_of_filter_eq_nil parens)
  cases node with
  | var y span =>
    cases hnode
    exact ⟨span, hparse⟩
  | _ => cases hnode

/-- The value of a name is that of the variable, and nothing is assigned. -/
theorem evalText_name (hx : Lexeme .identifier x.toList) {env : Environment} {v : Int64}
    (hv : env.get? x = some v) : (evalText x).run env = .ok v env := by
  obtain ⟨span, hparse⟩ := exists_parse_name hx
  rw [evalText_of_ok hparse, (Node.Outcome.var hv).run_eval_eq]
  rfl

/-- A name is a word for leaving a session, in some case. -/
def LeavesSession (x : String) : Prop :=
  x.toLower = "exit" ∨ x.toLower = "quit"

instance (x : String) : Decidable (LeavesSession x) :=
  inferInstanceAs (Decidable (_ ∨ _))

theorem Session.Command.isWord_iff {word : String} :
    Command.isWord word x.toList = true ↔ x.toLower = word := by
  rw [isWord, beq_iff_eq, ← String.toList_map, String.toList_inj]
  rfl

/-- A name leaves the session or is a statement. -/
theorem Session.Command.parse_name (hx : Lexeme .identifier x.toList) :
    Command.parse x = if LeavesSession x then .exit else .eval x := by
  have hcolon : ':' ∉ x.toList := fun hmem =>
    absurd (hx.isIdentifierPart_of_mem _ hmem) (by decide +kernel)
  rw [Command.parse, Text.trim_of_forall hx.isBlank_of_mem, ofTrimmed_of_notMem hx.ne_nil hcolon,
    String.ofList_toList]
  have leaves : (isWord "exit" x.toList || isWord "quit" x.toList) = true ↔ LeavesSession x := by
    rw [Bool.or_eq_true, isWord_iff, isWord_iff, LeavesSession]
  by_cases h : LeavesSession x
  · rw [if_pos (leaves.2 h), if_pos h]
  · rw [if_neg (leaves.not.2 h), if_neg h]

/-! ## Names as words to be completed -/

theorem isWordChar_of_isIdentifierPart {c : Char} (h : isIdentifierPart c = true) :
    isWordChar c = true := by
  rw [isIdentifierPart, Bool.or_eq_true] at h
  rw [isWordChar, Unicode.isAlphanumeric, Bool.or_eq_true, Bool.or_eq_true]
  exact h.imp_left .inl

theorem Session.lastWord_of_forall {cs : List Char} (h : ∀ c ∈ cs, isWordChar c = true) :
    lastWord cs = cs := by
  rw [lastWord, List.takeWhile_eq_self_iff.2 fun c hc => h c (List.mem_reverse.1 hc),
    List.reverse_reverse]

/-- In an increasing list, a name comes first that no other is below. -/
theorem exists_eq_cons_of_increasing {names : List String}
    (hnames : names.Pairwise (· < ·)) (hx : x ∈ names) (hleast : ∀ y ∈ names, ¬y < x) :
    ∃ others, names = x :: others := by
  cases names with
  | nil => exact absurd hx List.not_mem_nil
  | cons y others =>
    rcases List.mem_cons.1 hx with rfl | hmem
    · exact ⟨others, rfl⟩
    · exact absurd ((List.pairwise_cons.1 hnames).1 x hmem) (hleast y List.mem_cons_self)

/-- Of the names that begin with a name that is bound, it is the first. -/
theorem Environment.exists_filter_names {env : Environment} (hbound : env.Binds x) :
    ∃ others, env.names.filter (fun y => x.toList.isPrefixOf y.toList) = x :: others := by
  have increasing : env.names.Pairwise (· < ·) := List.pairwise_map.2 env.increasing
  obtain ⟨v, hv⟩ := hbound
  refine exists_eq_cons_of_increasing (increasing.filter _) ?_ fun y hy => ?_
  · exact List.mem_filter.2 ⟨List.mem_map_of_mem (mem_bindings_iff.2 hv),
      List.isPrefixOf_iff_prefix.2 List.prefix_rfl⟩
  · have beginning := List.isPrefixOf_iff_prefix.1 (List.mem_filter.1 hy).2
    exact fun (below : y.toList < x.toList) => List.not_lt.2 beginning.le below

/-- The completions of a name begin with the name, if it is bound. -/
theorem Session.complete?_name (hx : Lexeme .identifier x.toList) {env : Environment}
    (hbound : env.Binds x) :
    ∃ others, Session.complete? env x (byteLength x.toList) = some (0, x :: others) := by
  obtain ⟨others, hnames⟩ := env.exists_filter_names hbound
  have word : lastWord x.toList = x.toList :=
    lastWord_of_forall fun c hc => isWordChar_of_isIdentifierPart (hx.isIdentifierPart_of_mem c hc)
  have cut : cutAt? x.toList (byteLength x.toList) = some (x.toList, []) := by
    have behind := Text.cutAt?_byteLength_append x.toList []
    rwa [List.append_nil] at behind
  have some_word : x.toList.isEmpty = false := List.isEmpty_eq_false_iff.2 hx.ne_nil
  refine ⟨others, ?_⟩
  simp only [complete?, cut, Option.map_some, word, some_word, Bool.false_eq_true, if_false,
    Nat.sub_self, hnames]

end

/-! ## Reading back -/

/-- A variable is read back by its name. -/
structure ReadsBack (env : Environment) (x : String) (v : Int64) : Prop where
  /-- The name is one token. -/
  tokens : tokenize x =
    [⟨.identifier, x, ⟨0, byteLength x.toList⟩⟩, .atEnd (byteLength x.toList)]
  /-- As a statement it has the value of the variable and changes nothing. -/
  value : (evalText x).run env = .ok v env
  /-- A session evaluates it, unless it is a word for leaving. -/
  command : Command.parse x = if LeavesSession x then .exit else .eval x
  /-- As a word to be completed it is the first of the names that complete it. -/
  completion : ∃ others,
    Session.complete? env x (byteLength x.toList) = some (0, x :: others)

/-- Every variable that lines have bound can be read back by its name, whichever lines they are and
    whether they have failed or not. -/
theorem bindings_read_back {lines : List String} {x : String} {v : Int64}
    (h : (x, v) ∈ (evalLines ∅ lines).bindings) : ReadsBack (evalLines ∅ lines) x v := by
  have hv := Environment.mem_bindings_iff.1 h
  have hx := Environment.named_empty.evalLines lines x ⟨v, hv⟩
  exact ⟨tokenize_name hx, evalText_name hx hv, Command.parse_name hx,
    Session.complete?_name hx ⟨v, hv⟩⟩

/-- Of three lines the first fails after an assignment, and the last cannot be parsed. One of the
    names is a word for leaving and the beginning of the other. -/
theorem bindings_read_back_after_failures :
    let env := evalLines ∅ ["(Exit = 5) | missing", "Exitß = Exit | 16", "(z = 1))"]
    env.bindings = [("Exit", 5), ("Exitß", 21)] ∧ ReadsBack env "Exit" 5 ∧
      ReadsBack env "Exitß" 21 ∧ Command.parse "Exit" = .exit ∧
      Command.parse "Exitß" = .eval "Exitß" := by
  have bindings : (evalLines ∅ ["(Exit = 5) | missing", "Exitß = Exit | 16", "(z = 1))"]).bindings =
      [("Exit", 5), ("Exitß", 21)] := by
    decide +kernel
  have first := bindings_read_back (bindings ▸ List.mem_cons_self)
  have second := bindings_read_back (bindings ▸ List.mem_cons_of_mem _ List.mem_cons_self)
  have leaves : LeavesSession "Exit" := by decide +kernel
  have stays : ¬LeavesSession "Exitß" := by decide +kernel
  exact ⟨bindings, first, second, first.command.trans (if_pos leaves),
    second.command.trans (if_neg stays)⟩

end Bitwise
