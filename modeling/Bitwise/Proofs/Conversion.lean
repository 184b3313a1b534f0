import Bitwise.Parser
import Bitwise.Proofs.Lexeme
import Mathlib.Data.Nat.Digits.Defs

/-!
# The conversion of digits

Converting a text to a signed 64-bit integer can fail in four ways: the text is empty, it holds a
character that is no digit, or the integer is too great or too small. A sign may stand first. The
characters are taken one by one, and the first that does not fit ends the conversion, so that a
character that is no digit goes unnoticed behind an overflow.

For the digits of a literal, only one of the four can happen. They have a value, which is their
positional one (`Numeral.ofDigits_eq`), and the conversion gives it or finds it too great
(`Conversion.ofText_eq`).
-/

namespace Bitwise

/-! ## Positional values -/

namespace Numeral

/-- The value of a literal is the sum of its digits, each times a power of the base. -/
theorem ofDigits_eq (base : Nat) (digits : List Char) :
    ofDigits base digits = Nat.ofDigits base (digits.reverse.map digitValue) := by
  have shift (value : Nat) : digits.foldl (fun value c => value * base + digitValue c) value =
      Nat.ofDigits base (digits.reverse.map digitValue) + base ^ digits.length * value := by
    induction digits generalizing value with
    | nil => simp
    | cons c cs ih =>
      rw [List.foldl_cons, ih, List.reverse_cons, List.map_append, Nat.ofDigits_append,
        List.length_map, List.length_reverse, List.length_cons, List.map_singleton,
        Nat.ofDigits_singleton, pow_succ]
      ring
  rw [ofDigits, shift, Nat.mul_zero, Nat.add_zero]

/-- A literal that is not malformed has digits, and all of them are digits of its radix. -/
theorem digits_of_malformation?_eq_none {lexeme : List Char} (h : malformation? lexeme = none) :
    (split lexeme).2 ≠ [] ∧ ∀ c ∈ (split lexeme).2, (split lexeme).1.isDigit c = true := by
  rw [malformation?] at h
  split at h
  next radix digits hsplit =>
    rw [hsplit]
    split at h
    · cases h
    · next hhead =>
      split at h
      · next hall =>
        refine ⟨?_, List.all_eq_true.1 hall⟩
        rintro rfl
        exact hhead rfl
      · cases h

end Numeral

/-! ## Conversion -/

namespace Conversion

/-- Why a text is no signed 64-bit integer. -/
inductive Fault
  /-- There is nothing to convert. -/
  | empty
  /-- A character is no digit of the base, or there is nothing but a sign. -/
  | invalidDigit
  | positiveOverflow
  | negativeOverflow
  deriving DecidableEq

/-- The words for a fault. -/
def Fault.message : Fault → String
  | .empty => "cannot parse integer from empty string"
  | .invalidDigit => "invalid digit found in string"
  | .positiveOverflow => ParseError.outOfRange
  | .negativeOverflow => "number too small to fit in target type"

/-- The number that a character stands for as a digit. Letters go on after nine, and it does not
    matter whether they are capital. -/
def digit? (base : Nat) (c : Char) : Option Nat :=
  let value :=
    if c.isDigit then some (c.toNat - '0'.toNat)
    else if 'a' ≤ c ∧ c ≤ 'z' then some (c.toNat - 'a'.toNat + 10)
    else if 'A' ≤ c ∧ c ≤ 'Z' then some (c.toNat - 'A'.toNat + 10)
    else none
  value.filter (· < base)

/-- Puts a digit behind the digits of a value, away from zero in the direction of the sign. -/
def push (base : Nat) (sign value : Int) (c : Char) : Except Fault Int :=
  match digit? base c with
  | none => .error .invalidDigit
  | some d =>
    if Int64.maxValue.toInt < value * base + sign * d then .error .positiveOverflow
    else if value * base + sign * d < Int64.minValue.toInt then .error .negativeOverflow
    else .ok (value * base + sign * d)

/-- The integer that digits with a sign stand for. -/
def ofDigits (base : Nat) (sign : Int) (digits : List Char) : Except Fault Int64 :=
  (digits.foldlM (push base sign) 0).map Int64.ofInt

/-- The integer that a text stands for in a base. -/
def ofText (base : Nat) : List Char → Except Fault Int64
  | [] => .error .empty
  | ['+'] | ['-'] => .error .invalidDigit
  | '+' :: digits => ofDigits base 1 digits
  | '-' :: digits => ofDigits base (-1) digits
  | digits => ofDigits base 1 digits

section Digits

variable {radix : Radix} {c : Char} {digits : List Char}

/-- The digits of a radix are decimal digits, and letters if it is sixteen. -/
theorem isDigit_cases (h : radix.isDigit c = true) :
    c.isDigit = true ∨ radix = .hexadecimal ∧ c.isDigit = false ∧ 'a' ≤ c ∧ c ≤ 'f' := by
  cases hc : c.isDigit with
  | true => exact .inl rfl
  | false =>
    cases radix with
    | decimal => exact absurd (hc.symm.trans h) Bool.false_ne_true
    | binary =>
      rw [Radix.isDigit, Bool.or_eq_true, beq_iff_eq, beq_iff_eq] at h
      rcases h with rfl | rfl <;> cases hc
    | hexadecimal =>
      rw [Radix.isDigit, hc, Bool.false_or, Bool.and_eq_true, decide_eq_true_eq,
        decide_eq_true_eq] at h
      exact .inr ⟨rfl, rfl, h⟩

/-- A digit of a literal is less than the base. -/
theorem digitValue_lt (h : radix.isDigit c = true) : Numeral.digitValue c < radix.base := by
  rcases isDigit_cases h with hc | ⟨rfl, hc, -, hlast⟩
  · have below : c.toNat ≤ 0x39 := (Char.isDigit_iff_toNat.1 hc).2
    rw [Numeral.digitValue, if_pos hc]
    cases radix with
    | decimal =>
      show c.toNat - 0x30 < 10
      omega
    | binary =>
      rw [Radix.isDigit, Bool.or_eq_true, beq_iff_eq, beq_iff_eq] at h
      rcases h with rfl | rfl <;> decide
    | hexadecimal =>
      show c.toNat - 0x30 < 16
      omega
  · have below : c.toNat ≤ 0x66 := hlast
    rw [Numeral.digitValue, if_neg (ne_true_of_eq_false hc)]
    show c.toNat - 0x61 + 10 < 16
    omega

/-- The digits of literals are digits to the conversion, and stand for the same. -/
theorem digit?_of_isDigit (h : radix.isDigit c = true) :
    digit? radix.base c = some (Numeral.digitValue c) := by
  have less : decide (Numeral.digitValue c < radix.base) = true :=
    decide_eq_true (digitValue_lt h)
  rw [digit?]
  rcases isDigit_cases h with hc | ⟨-, hc, hfirst, hlast⟩
  · rw [Numeral.digitValue, if_pos hc] at less ⊢
    rw [if_pos hc, Option.filter_some, if_pos less]
  · have letter : 'a' ≤ c ∧ c ≤ 'z' := ⟨hfirst, Char.le_trans hlast (by decide)⟩
    rw [Numeral.digitValue, if_neg (ne_true_of_eq_false hc)] at less ⊢
    rw [if_neg (ne_true_of_eq_false hc), if_pos letter, Option.filter_some, if_pos less]

/-- A digit of a literal is put behind a value unless that makes it too great. -/
theorem push_of_isDigit (h : radix.isDigit c = true) (value : Nat) :
    push radix.base 1 value c =
      if value * radix.base + Numeral.digitValue c < 2 ^ 63 then
        .ok ((value * radix.base + Numeral.digitValue c : Nat) : Int)
      else .error .positiveOverflow := by
  have sum : (value : Int) * radix.base + 1 * (Numeral.digitValue c : Nat) =
      ((value * radix.base + Numeral.digitValue c : Nat) : Int) := by
    push_cast
    ring
  have greatest : Int64.maxValue.toInt = 2 ^ 63 - 1 := rfl
  have least : Int64.minValue.toInt = -2 ^ 63 := rfl
  rw [push, digit?_of_isDigit h]
  simp only [sum, greatest, least]
  split
  · next hgreat => rw [if_neg (by omega)]
  · next hgreat => rw [if_neg (by omega), if_pos (by omega)]

/-- The value of digits does not fall when more of them follow. -/
theorem le_foldl (base value : Nat) (hbase : 0 < base) (digits : List Char) :
    value ≤ digits.foldl (fun value c => value * base + Numeral.digitValue c) value := by
  induction digits generalizing value with
  | nil => exact Nat.le_refl _
  | cons c cs ih =>
    calc value ≤ value * base := Nat.le_mul_of_pos_right value hbase
      _ ≤ value * base + Numeral.digitValue c := Nat.le_add_right _ _
      _ ≤ _ := ih _

theorem base_pos (radix : Radix) : 0 < radix.base := by
  cases radix <;> decide

/-- Going on from a value, the conversion reaches the positional value if that is not too great. -/
theorem foldlM_push (h : ∀ c ∈ digits, radix.isDigit c = true) (value : Nat)
    (hvalue : value < 2 ^ 63) :
    digits.foldlM (push radix.base 1) (value : Int) =
      if digits.foldl (fun value c => value * radix.base + Numeral.digitValue c) value < 2 ^ 63 then
        .ok ((digits.foldl (fun value c => value * radix.base + Numeral.digitValue c) value : Nat) :
          Int)
      else .error .positiveOverflow := by
  induction digits generalizing value with
  | nil => exact (if_pos hvalue).symm
  | cons c cs ih =>
    obtain ⟨hc, hcs⟩ := List.forall_mem_cons.1 h
    rw [List.foldlM_cons, push_of_isDigit hc, List.foldl_cons]
    split
    · next hnext => exact ih hcs _ hnext
    · next hnext =>
      -- what is too great stays so
      have grows := le_foldl radix.base (value * radix.base + Numeral.digitValue c)
        (base_pos radix) cs
      rw [if_neg (by omega)]
      rfl

/-- Digits of a literal are converted to their positional value, unless that is too great. -/
theorem ofText_eq (hne : digits ≠ []) (h : ∀ c ∈ digits, radix.isDigit c = true) :
    ofText radix.base digits =
      if Numeral.ofDigits radix.base digits < 2 ^ 63 then
        .ok (Int64.ofNat (Numeral.ofDigits radix.base digits))
      else .error .positiveOverflow := by
  have unsigned : ofText radix.base digits = ofDigits radix.base 1 digits := by
    have digit : ∀ c ∈ digits.head?, c ≠ '+' ∧ c ≠ '-' := by
      intro c hc
      have hdigit := h c (List.mem_of_mem_head? hc)
      constructor <;> rintro rfl <;> cases radix <;> cases hdigit
    rw [ofText.eq_def]
    split
    · exact absurd rfl hne
    · exact absurd rfl (digit '+' rfl).1
    · exact absurd rfl (digit '-' rfl).2
    · exact absurd rfl (digit '+' rfl).1
    · exact absurd rfl (digit '-' rfl).2
    · rfl
  have folded := foldlM_push h 0 (by decide)
  rw [unsigned, ofDigits, Numeral.ofDigits]
  rw [Nat.cast_zero] at folded
  rw [folded]
  split
  · rfl
  · rfl

end Digits

end Conversion

/-! ## Literals -/

theorem Lexeme.malformation?_eq_none {lexeme : List Char} (h : Lexeme .number lexeme) :
    Numeral.malformation? lexeme = none := by
  generalize hk : TokenKind.number = kind at h
  cases h with
  | sign hs =>
    subst hk
    rw [signKind?.eq_def] at hs
    split at hs <;> cases hs
  | shift _ => cases hk
  | identifier _ _ => cases hk
  | number _ _ hm => exact hm

/-- A token for a number is the literal that its digits are converted to, or too great. -/
theorem Token.literal_cases {t : Token} (h : Lexeme .number t.text.toList) :
    (∃ value, Conversion.ofText (Numeral.split t.text.toList).1.base
        (Numeral.split t.text.toList).2 = .ok value ∧ t.literal = .ok (.literal value t.span)) ∨
      Conversion.ofText (Numeral.split t.text.toList).1.base (Numeral.split t.text.toList).2 =
        .error .positiveOverflow ∧ t.literal = .error (.numberTooLarge t.text t.span) := by
  obtain ⟨hne, hdigits⟩ := Numeral.digits_of_malformation?_eq_none h.malformation?_eq_none
  have value : Numeral.value t.text.toList = Numeral.ofDigits
    (Numeral.split t.text.toList).1.base (Numeral.split t.text.toList).2 := rfl
  rw [Conversion.ofText_eq hne hdigits, Token.literal, Numeral.toInt64?, ← value]
  by_cases hvalue : Numeral.value t.text.toList < 2 ^ 63
  · rw [if_pos hvalue]
    refine .inl ⟨_, rfl, ?_⟩
    rw [if_pos (show _ < Nat.pow 2 63 from hvalue)]
  · rw [if_neg hvalue]
    refine .inr ⟨rfl, ?_⟩
    rw [if_neg (show ¬_ < Nat.pow 2 63 from hvalue)]

end Bitwise
