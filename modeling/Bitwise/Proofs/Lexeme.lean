import Bitwise.Proofs.CharacterClasses

/-!
# Lexemes

What the scanner makes of the head of a text, said without its order of tests. A legal token is a
lexeme of its kind (`Lexeme`) that the text does not go on (`TokenKind.EndsBefore`); the other ways
to read a piece of text are the four faults. `Token.Scans` lists them all, with the piece that is
read and what follows it, and `Token.scan` does exactly what it says (`Token.scan_append_eq_iff`).

Two consequences: a token never depends on more than one character after its piece
(`Token.Scans.congr_rest`), and no piece begins with a blank.
-/

namespace Bitwise

open Text (byteLength)
open Unicode (isBlank)

/-- The lexemes of each kind: the texts that are one token by themselves. -/
inductive Lexeme : TokenKind → List Char → Prop
  | sign {c : Char} {kind : TokenKind} : signKind? c = some kind → Lexeme kind [c]
  | shift {c : Char} {op : BinaryOperator} : shift? c = some op → Lexeme (.binary op) [c, c]
  | identifier {c : Char} {cs : List Char} :
    isIdentifierStart c = true → (∀ d ∈ cs, isIdentifierPart d = true) →
      Lexeme .identifier (c :: cs)
  | number {c : Char} {cs : List Char} :
    c.isDigit = true → (∀ d ∈ cs, isNumberPart d = true) →
      Numeral.malformation? (c :: cs) = none → Lexeme .number (c :: cs)

namespace TokenKind

/-- Whether a character goes on a lexeme of a kind. Only identifiers and numbers can be longer. -/
def goesOn : TokenKind → Char → Bool
  | .identifier => isIdentifierPart
  | .number => isNumberPart
  | _ => fun _ => false

/-- A lexeme of the kind is complete if this text follows it. -/
def EndsBefore (kind : TokenKind) (rest : List Char) : Prop :=
  ∀ c ∈ rest.head?, kind.goesOn c = false

theorem isLast_eq_true_iff {kind : TokenKind} :
    kind.isLast = true ↔ kind = .illegal ∨ kind = .endOfInput := by
  cases kind <;> simp [isLast]

end TokenKind

/-- A character that is no part of an identifier goes on nothing, since what goes on a number is
    part of identifiers too. -/
theorem TokenKind.goesOn_eq_false {c : Char} (h : isIdentifierPart c = false) (kind : TokenKind) :
    kind.goesOn c = false := by
  cases kind with
  | identifier => exact h
  | number =>
    refine eq_false_of_ne_true fun hn => ?_
    rw [isIdentifierPart_of_isNumberPart hn] at h
    exact Bool.noConfusion h
  | _ => rfl

/-- The ways to read a piece of a text at an offset: the piece, what follows it, and the token. -/
inductive Token.Scans (offset : Nat) : List Char → List Char → Token → Prop
  | lexeme {kind : TokenKind} {piece rest : List Char} :
    Lexeme kind piece → kind.EndsBefore rest → Scans offset piece rest (.ofLexeme kind offset piece)
  | malformed {c : Char} {cs rest : List Char} {reason : Numeral.Malformation} :
    c.isDigit = true → (∀ d ∈ cs, isNumberPart d = true) →
      Numeral.malformation? (c :: cs) = some reason → TokenKind.number.EndsBefore rest →
      Scans offset (c :: cs) rest (.illegal (.malformed reason) offset (c :: cs))
  | unpaired {c d : Char} {op : BinaryOperator} {rest : List Char} :
    shift? c = some op → d ≠ c → Scans offset [c, d] rest (.illegal (.unpaired d) offset [c, d])
  | unexpectedEnd {c : Char} {op : BinaryOperator} :
    shift? c = some op → Scans offset [c] [] (.illegal .unexpectedEnd offset [c])
  | unexpected {c : Char} {rest : List Char} :
    signKind? c = none → shift? c = none → isIdentifierStart c = false → c.isDigit = false →
      Scans offset [c] rest (.illegal (.unexpected c offset) offset [c])

/-- No character goes on a sign. -/
theorem goesOn_of_signKind? {c : Char} {kind : TokenKind} (h : signKind? c = some kind) (d : Char) :
    kind.goesOn d = false := by
  rw [signKind?.eq_def] at h
  split at h <;> first | exact absurd h (Option.some_ne_none _).symm | (cases h; rfl)

namespace Lexeme

variable {kind : TokenKind} {lexeme : List Char}

theorem ne_nil (h : Lexeme kind lexeme) : lexeme ≠ [] := by
  cases h <;> exact List.cons_ne_nil _ _

/-- No lexeme stands for the end of the text, and none is illegal. -/
theorem isLast_eq_false (h : Lexeme kind lexeme) : kind.isLast = false := by
  cases h with
  | @sign c kind h =>
    rw [signKind?.eq_def] at h
    split at h <;> first | exact absurd h (Option.some_ne_none _).symm | (cases h; rfl)
  | shift _ => rfl
  | identifier _ _ => rfl
  | number _ _ _ => rfl

/-- A lexeme begins with no blank. -/
theorem isBlank_head (h : Lexeme kind lexeme) : ∀ c ∈ lexeme.head?, isBlank c = false := by
  intro c hc
  cases h with
  | sign h =>
    cases hc
    exact isBlank_of_mem_signs (mem_signs_of_signKind? h)
  | shift h =>
    cases hc
    exact isBlank_of_mem_signs (mem_signs_of_shift? h)
  | identifier h _ =>
    cases hc
    exact isBlank_of_isIdentifierPart (isIdentifierPart_of_isIdentifierStart h)
  | number h _ _ =>
    cases hc
    exact isBlank_of_isIdentifierPart (isIdentifierPart_of_isNumberPart (isNumberPart_of_isDigit h))

end Lexeme

/-! ## The longest run of characters -/

section Runs

variable {α : Type} {p : α → Bool} {l rest : List α}

/-- A run of characters ends where the first character stands that does not belong to it. -/
theorem takeWhile_append_of_head (hl : ∀ a ∈ l, p a = true) (hr : ∀ a ∈ rest.head?, p a = false) :
    (l ++ rest).takeWhile p = l := by
  rw [List.takeWhile_append_of_pos hl]
  cases rest with
  | nil => simp
  | cons a rest => simp [hr a rfl]

theorem dropWhile_append_of_head (hl : ∀ a ∈ l, p a = true) (hr : ∀ a ∈ rest.head?, p a = false) :
    (l ++ rest).dropWhile p = rest := by
  rw [List.dropWhile_append_of_pos hl]
  cases rest with
  | nil => rfl
  | cons a rest => simp [hr a rfl]

theorem head?_dropWhile_eq_false (p : α → Bool) (l : List α) :
    ∀ a ∈ (l.dropWhile p).head?, p a = false := by
  have h := List.head?_dropWhile_not p l
  intro a ha
  rw [Option.mem_def] at ha
  rw [ha] at h
  exact h

theorem mem_takeWhile_eq_true {a : α} (h : a ∈ l.takeWhile p) : p a = true :=
  List.all_eq_true.1 List.all_takeWhile a h

/-- A run can be told from what follows it. -/
theorem append_cons_inj_of_run {l' rest' : List α} {a a' : α} (hl : ∀ b ∈ l, p b = true)
    (hl' : ∀ b ∈ l', p b = true) (ha : p a = false) (ha' : p a' = false)
    (h : l ++ a :: rest = l' ++ a' :: rest') : l = l' ∧ rest = rest' := by
  have first : ∀ {b : α} {bs : List α}, p b = false → ∀ d ∈ (b :: bs).head?, p d = false := by
    rintro b bs hb d ⟨⟩
    exact hb
  have heads := congrArg (List.takeWhile p) h
  rw [takeWhile_append_of_head hl (first ha), takeWhile_append_of_head hl' (first ha')] at heads
  subst heads
  exact ⟨rfl, (List.cons.inj (List.append_cancel_left h)).2⟩

/-- What stands before the first occurrence of an element. -/
theorem eq_of_append_cons_eq {a : α} {before before' after after' : List α} (hbefore : a ∉ before)
    (hbefore' : a ∉ before') (h : before ++ a :: after = before' ++ a :: after') :
    before = before' := by
  induction before generalizing before' with
  | nil =>
    cases before' with
    | nil => rfl
    | cons b before' => exact absurd ((List.cons.inj h).1 ▸ List.mem_cons_self) hbefore'
  | cons b before ih =>
    rw [List.mem_cons, not_or] at hbefore
    cases before' with
    | nil => exact absurd (List.cons.inj h).1.symm hbefore.1
    | cons b' before' =>
      obtain ⟨rfl, htail⟩ := List.cons.inj h
      rw [ih hbefore.2 (mt (List.mem_cons_of_mem b) hbefore') htail]

end Runs

/-! ## What the scanner reads -/

namespace Token

variable {offset : Nat} {piece rest : List Char} {t : Token}

theorem scan_shift {c : Char} {op : BinaryOperator} (h : shift? c = some op) (cs : List Char) :
    scan offset (c :: cs) = shift op offset c cs := by
  simp only [scan, signKind?_of_shift? h, h]

theorem scan_identifier {c : Char} {cs : List Char} (hc : isIdentifierStart c = true) :
    scan offset (c :: cs) = (ofLexeme .identifier offset (c :: cs.takeWhile isIdentifierPart),
      cs.dropWhile isIdentifierPart) := by
  have part := isIdentifierPart_of_isIdentifierStart hc
  simp only [scan, signKind?_of_isIdentifierPart part, shift?_of_isIdentifierPart part, hc, if_true]

theorem scan_number {c : Char} {cs : List Char} (hc : c.isDigit = true) :
    scan offset (c :: cs) =
      (number offset (c :: cs.takeWhile isNumberPart), cs.dropWhile isNumberPart) := by
  have part := isIdentifierPart_of_isNumberPart (isNumberPart_of_isDigit hc)
  simp only [scan, signKind?_of_isIdentifierPart part, shift?_of_isIdentifierPart part,
    isIdentifierStart_of_isDigit hc, hc, Bool.false_eq_true, if_false, if_true]

theorem Scans.scan_append (h : Scans offset piece rest t) :
    scan offset (piece ++ rest) = (t, rest) := by
  cases h with
  | lexeme hl he =>
    cases hl with
    | sign hk => simp only [List.singleton_append, scan, hk]
    | shift hop => simp only [List.cons_append, List.nil_append, scan_shift hop, shift, if_true]
    | identifier hc hcs =>
      rw [List.cons_append, scan_identifier hc, takeWhile_append_of_head hcs he,
        dropWhile_append_of_head hcs he]
    | number hc hcs hn =>
      rw [List.cons_append, scan_number hc, takeWhile_append_of_head hcs he,
        dropWhile_append_of_head hcs he]
      simp only [number, hn]
  | malformed hc hcs hn he =>
    rw [List.cons_append, scan_number hc, takeWhile_append_of_head hcs he,
      dropWhile_append_of_head hcs he]
    simp only [number, hn]
  | unpaired hop hd =>
    simp only [List.cons_append, List.nil_append, scan_shift hop, shift, if_neg hd]
  | unexpectedEnd hop => simp only [List.append_nil, scan_shift hop, shift]
  | unexpected hk hop hi hd =>
    simp only [List.singleton_append, scan, hk, hop, hi, hd, Bool.false_eq_true, if_false]

/-- The scanner reads some piece of every text that is not empty. -/
theorem exists_scans (offset : Nat) {cs : List Char} (h : cs ≠ []) :
    ∃ piece rest t, cs = piece ++ rest ∧ Scans offset piece rest t := by
  obtain ⟨c, cs, rfl⟩ := List.exists_cons_of_ne_nil h
  -- the classes of first characters are disjoint, so the order of the tests does not matter here
  by_cases hi : isIdentifierStart c = true
  · refine ⟨c :: cs.takeWhile isIdentifierPart, cs.dropWhile isIdentifierPart, _, ?_,
      .lexeme (.identifier hi fun d => mem_takeWhile_eq_true) (head?_dropWhile_eq_false _ cs)⟩
    rw [List.cons_append, List.takeWhile_append_dropWhile]
  by_cases hd : c.isDigit = true
  · have parts : c :: cs = (c :: cs.takeWhile isNumberPart) ++ cs.dropWhile isNumberPart := by
      rw [List.cons_append, List.takeWhile_append_dropWhile]
    cases hm : Numeral.malformation? (c :: cs.takeWhile isNumberPart) with
    | none =>
      exact ⟨_, _, _, parts, .lexeme (.number hd (fun d => mem_takeWhile_eq_true) hm)
        (head?_dropWhile_eq_false _ cs)⟩
    | some reason =>
      exact ⟨_, _, _, parts, .malformed hd (fun d => mem_takeWhile_eq_true) hm
        (head?_dropWhile_eq_false _ cs)⟩
  cases hop : shift? c with
  | some op =>
    cases cs with
    | nil => exact ⟨[c], [], _, rfl, .unexpectedEnd hop⟩
    | cons d cs =>
      by_cases hdc : d = c
      · subst hdc
        exact ⟨[d, d], cs, _, rfl, .lexeme (.shift hop) fun _ _ => rfl⟩
      · exact ⟨[c, d], cs, _, rfl, .unpaired hop hdc⟩
  | none =>
    cases hk : signKind? c with
    | some kind => exact ⟨[c], cs, _, rfl, .lexeme (.sign hk) fun d _ => goesOn_of_signKind? hk d⟩
    | none =>
      exact ⟨[c], cs, _, rfl,
        .unexpected hk hop (eq_false_of_ne_true hi) (eq_false_of_ne_true hd)⟩

/-- The scanner reads a piece as a token exactly if that is one of the ways to read it. -/
theorem scan_append_eq_iff (h : piece ++ rest ≠ []) :
    scan offset (piece ++ rest) = (t, rest) ↔ Scans offset piece rest t := by
  refine ⟨fun hs => ?_, Scans.scan_append⟩
  obtain ⟨p, r, t', hp, hs'⟩ := exists_scans offset h
  rw [hp, hs'.scan_append] at hs
  cases hs
  rwa [List.append_cancel_right hp]

/-! ## Facts about single tokens -/

namespace Scans

theorem ne_nil (h : Scans offset piece rest t) : piece ≠ [] := by
  cases h with
  | lexeme hl _ => exact hl.ne_nil
  | _ => exact List.cons_ne_nil _ _

/-- A token stands where its piece stands. -/
theorem span_eq (h : Scans offset piece rest t) :
    t.span = ⟨offset, offset + byteLength piece⟩ := by
  cases h <;> rfl

/-- No piece of a text stands for its end. -/
theorem kind_ne_endOfInput (h : Scans offset piece rest t) : t.kind ≠ .endOfInput := by
  cases h with
  | lexeme hl _ =>
    rintro rfl
    exact Bool.false_ne_true hl.isLast_eq_false.symm
  | _ => exact TokenKind.noConfusion

/-- A token that is not the last is a lexeme of its kind, and complete. -/
theorem of_isLast_eq_false (h : Scans offset piece rest t) (ht : t.kind.isLast = false) :
    Lexeme t.kind piece ∧ t.kind.EndsBefore rest ∧ t = .ofLexeme t.kind offset piece := by
  cases h with
  | lexeme hl he => exact ⟨hl, he, rfl⟩
  | _ => exact absurd ht Bool.noConfusion

/-- Of what follows a piece, only the first character matters for the token. -/
theorem congr_rest {c : Char} {cs ds : List Char} (h : Scans offset piece (c :: cs) t) :
    Scans offset piece (c :: ds) t := by
  cases h with
  | lexeme hl he => exact .lexeme hl he
  | malformed hc hcs hm he => exact .malformed hc hcs hm he
  | unpaired hop hd => exact .unpaired hop hd
  | unexpected hk hop hi hd => exact .unexpected hk hop hi hd

end Scans

end Token

end Bitwise
