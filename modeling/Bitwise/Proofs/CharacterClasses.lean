import Bitwise.Token.Scanner

/-!
# Classes of characters

What a character can be for the scanner: a blank, a sign, the start or a part of an identifier, a
digit. No character is a blank and anything else, and no sign begins an identifier or a number, so
that the first character of a lexeme tells what the lexeme is.

The classes of letters, digits and blanks are tables. Two tables have nothing in common if no range
of one meets a range of the other (`Ranges.disjoint`), which is a finite check.
-/

namespace Bitwise

open Unicode (isBlank isDecimalDigit isLetter)

namespace Unicode.Ranges

/-- What lies in a set lies in one of its ranges. -/
theorem exists_range_of_contains {ranges : Ranges} {n : Nat} (h : ranges.contains n = true) :
    ∃ r ∈ ranges, r.1 ≤ n ∧ n ≤ r.2 := by
  induction ranges with
  | nil => exact absurd h Bool.false_ne_true
  | cons r rest ih =>
    obtain ⟨lo, hi⟩ := r
    rw [contains] at h
    split at h
    · next hn => exact ⟨(lo, hi), List.mem_cons_self, of_decide_eq_true h, hn⟩
    · obtain ⟨r, hr, hnr⟩ := ih h
      exact ⟨r, List.mem_cons_of_mem _ hr, hnr⟩

/-- The first range decides about all that does not lie after it. -/
theorem contains_cons_of_le {r : Nat × Nat} {rest : Ranges} {n : Nat} (h : n ≤ r.2) :
    contains (r :: rest) n = decide (r.1 ≤ n) :=
  if_pos h

/-- Whether no range of one set meets a range of another. -/
def disjoint (a b : Ranges) : Bool :=
  a.all fun r => b.all fun s => r.2 < s.1 || s.2 < r.1

theorem contains_eq_false_of_disjoint {a b : Ranges} {n : Nat} (h : a.disjoint b = true)
    (ha : a.contains n = true) : b.contains n = false := by
  rw [← Bool.not_eq_true]
  intro hb
  -- a number in both sets would lie in two ranges that do not meet
  obtain ⟨r, hr, hnr⟩ := exists_range_of_contains ha
  obtain ⟨s, hs, hns⟩ := exists_range_of_contains hb
  have apart := List.all_eq_true.1 (List.all_eq_true.1 h r hr) s hs
  rw [Bool.or_eq_true, decide_eq_true_eq, decide_eq_true_eq] at apart
  omega

end Unicode.Ranges

/-! ## Letters, digits and blanks -/

theorem isLetter_of_isBlank {c : Char} (h : isBlank c = true) : isLetter c = false :=
  Unicode.Ranges.contains_eq_false_of_disjoint (a := Unicode.blanks) (by decide +kernel) h

theorem isDecimalDigit_of_isBlank {c : Char} (h : isBlank c = true) : isDecimalDigit c = false :=
  Unicode.Ranges.contains_eq_false_of_disjoint (a := Unicode.blanks) (by decide +kernel) h

theorem isLetter_of_isDigit {c : Char} (h : c.isDigit = true) : isLetter c = false := by
  -- the digits stand before the first range of letters
  have below : c.toNat ≤ 0x39 := (Char.isDigit_iff_toNat.1 h).2
  have first : isLetter c = decide (0x41 ≤ c.toNat) :=
    Unicode.Ranges.contains_cons_of_le (Nat.le_trans below (by decide))
  rw [first, decide_eq_false_iff_not]
  omega

/-- The ten digits that begin a number are decimal digits. -/
theorem isDecimalDigit_of_isDigit {c : Char} (h : c.isDigit = true) : isDecimalDigit c = true := by
  obtain ⟨above, below⟩ := Char.isDigit_iff_toNat.1 h
  have first : isDecimalDigit c = decide (0x30 ≤ c.toNat) :=
    Unicode.Ranges.contains_cons_of_le below
  rw [first, decide_eq_true_eq]
  exact above

/-! ## Numbers that are written out -/

theorem isDigit_of_mem_toString (n : Nat) : ∀ c ∈ (toString n).toList, c.isDigit = true := by
  intro c hc
  rw [Nat.toString_eq_repr, Nat.toList_repr] at hc
  exact Nat.isDigit_of_mem_toDigits (by decide) (by decide) hc

/-- A number can be told from its digits. -/
theorem eq_of_toList_toString_eq {m n : Nat} (h : (toString m).toList = (toString n).toList) :
    m = n := by
  rw [Nat.toString_eq_repr, Nat.toString_eq_repr, Nat.toList_repr, Nat.toList_repr] at h
  rw [← Nat.ofDigitChars_ten_toDigits (n := m), h, Nat.ofDigitChars_ten_toDigits]

/-! ## What goes on an identifier or a number -/

theorem isIdentifierPart_of_isBlank {c : Char} (h : isBlank c = true) :
    isIdentifierPart c = false := by
  have underscore : c ≠ '_' := by
    rintro rfl
    exact absurd h (by decide)
  simp [isIdentifierPart, isLetter_of_isBlank h, isDecimalDigit_of_isBlank h, underscore]

theorem isIdentifierPart_of_isIdentifierStart {c : Char} (h : isIdentifierStart c = true) :
    isIdentifierPart c = true := by
  rw [isIdentifierStart, Bool.or_eq_true] at h
  rw [isIdentifierPart, Bool.or_eq_true, Bool.or_eq_true]
  exact h.imp_left .inl

theorem isIdentifierPart_of_isNumberPart {c : Char} (h : isNumberPart c = true) :
    isIdentifierPart c = true := by
  rw [isIdentifierPart, Bool.or_eq_true]
  exact .inl h

theorem isNumberPart_of_isDigit {c : Char} (h : c.isDigit = true) : isNumberPart c = true := by
  rw [isNumberPart, isDecimalDigit_of_isDigit h, Bool.or_true]

theorem isIdentifierStart_of_isDigit {c : Char} (h : c.isDigit = true) :
    isIdentifierStart c = false := by
  have underscore : c ≠ '_' := by
    rintro rfl
    exact absurd h (by decide)
  simp [isIdentifierStart, isLetter_of_isDigit h, underscore]

theorem isBlank_of_isIdentifierPart {c : Char} (h : isIdentifierPart c = true) :
    isBlank c = false := by
  rw [← Bool.not_eq_true]
  intro blank
  rw [isIdentifierPart_of_isBlank blank] at h
  exact Bool.false_ne_true h

/-! ## Signs -/

/-- The characters that are tokens by themselves, or begin one that is written twice. -/
def signs : List Char :=
  ['(', ')', '=', '~', '|', '&', '^', '<', '>']

theorem mem_signs_of_signKind? {c : Char} {kind : TokenKind} (h : signKind? c = some kind) :
    c ∈ signs := by
  rw [signKind?.eq_def] at h
  split at h <;> first | decide | exact absurd h (Option.some_ne_none _).symm

theorem mem_signs_of_shift? {c : Char} {op : BinaryOperator} (h : shift? c = some op) :
    c ∈ signs := by
  rw [shift?.eq_def] at h
  split at h <;> first | decide | exact absurd h (Option.some_ne_none _).symm

theorem isIdentifierPart_of_mem_signs {c : Char} (h : c ∈ signs) : isIdentifierPart c = false := by
  have all : (signs.all fun c => isIdentifierPart c == false) = true := by decide +kernel
  exact beq_iff_eq.1 (List.all_eq_true.1 all c h)

theorem isBlank_of_mem_signs {c : Char} (h : c ∈ signs) : isBlank c = false := by
  have all : (signs.all fun c => isBlank c == false) = true := by decide +kernel
  exact beq_iff_eq.1 (List.all_eq_true.1 all c h)

/-- What is a part of an identifier is no sign. -/
theorem signKind?_of_isIdentifierPart {c : Char} (h : isIdentifierPart c = true) :
    signKind? c = none := by
  rw [Option.eq_none_iff_forall_ne_some]
  intro kind hk
  rw [isIdentifierPart_of_mem_signs (mem_signs_of_signKind? hk)] at h
  exact Bool.false_ne_true h

theorem shift?_of_isIdentifierPart {c : Char} (h : isIdentifierPart c = true) :
    shift? c = none := by
  rw [Option.eq_none_iff_forall_ne_some]
  intro op hop
  rw [isIdentifierPart_of_mem_signs (mem_signs_of_shift? hop)] at h
  exact Bool.false_ne_true h

/-- The sign of a shift stands for nothing when it is written once. -/
theorem signKind?_of_shift? {c : Char} {op : BinaryOperator} (h : shift? c = some op) :
    signKind? c = none := by
  rw [shift?.eq_def] at h
  split at h <;> first | rfl | exact absurd h (Option.some_ne_none _).symm

end Bitwise
