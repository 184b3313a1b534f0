import Bitwise.Proofs.Literals
import Bitwise.Proofs.WordArithmetic

/-!
# Shown values can be typed

What is shown of a value can be typed again, if `0b` or `0x` is put before the digits of the bases
two and sixteen. A value that is not negative comes back from all three texts. A negative one comes
back from none: in base ten it has a sign that is no token, and the other digits stand for its bit
pattern, which is `2 ^ 64` more than the value and too great for a literal. It can be typed as the
complement of a number, also if it is the least of all values, of which there is no opposite.

The reason for the first part is that `Nat.toDigits` writes digits as the scanner reads them
(`Radix.written_typed`). It writes them without leading zeros, and so no two values are shown alike
(`render_injective`).
-/

namespace Bitwise

open Grammar (literalValue)
open Text (byteLength)
open Unicode (isBlank)

/-! ## Digits without leading zeros -/

namespace Numeral

/-- Digits of a number without leading zeros: only a zero that stands alone stands first. -/
structure Canonical (radix : Radix) (n : Nat) (digits : List Char) : Prop where
  ne_nil : digits ≠ []
  isDigit : ∀ c ∈ digits, radix.isDigit c = true
  alone : digits.head? = some '0' → digits = ['0']
  value : positional radix digits = n

variable {radix : Radix} {n : Nat} {source : String} {digits : List Char} {v : Int64}

/-- Only the digits of zero begin with a zero. -/
theorem eq_zero_of_head?_toDigits (h : (Nat.toDigits radix.base n).head? = some '0') : n = 0 := by
  have first : Nat.toDigits radix.base n ≠ [] ∧
      ((Nat.toDigits radix.base n).head? = some '0' → n = 0) := by
    refine toDigits_induction (motive := fun n ds => ds ≠ [] ∧ (ds.head? = some '0' → n = 0))
      (fun d hd => ⟨List.cons_ne_nil _ _, fun h => ?_⟩)
      (fun n d ds positive _ ⟨hne, hds⟩ => ⟨by simp, fun h => ?_⟩) n
    · rw [← (digitChar_of_lt d hd).2, Option.some.inj h]
      rfl
    · rw [List.head?_append_of_ne_nil _ hne] at h
      exact absurd (hds h) positive.ne'
  exact first.2 h

theorem notMem_toDigits {c : Char} (h : radix.isDigit c = false) (n : Nat) :
    c ∉ Nat.toDigits radix.base n :=
  fun hc => Bool.false_ne_true (h.symm.trans (isDigit_of_mem_toDigits radix n c hc))

theorem positional_toDigits (radix : Radix) (n : Nat) :
    positional radix (Nat.toDigits radix.base n) = n :=
  (ofDigits_eq _ _).symm.trans (ofDigits_toDigits radix n)

theorem canonical_toDigits (radix : Radix) (n : Nat) :
    Canonical radix n (Nat.toDigits radix.base n) where
  ne_nil := Nat.toDigits_ne_nil
  isDigit := isDigit_of_mem_toDigits radix n
  alone h := by rw [eq_zero_of_head?_toDigits h, Nat.toDigits_zero]
  value := positional_toDigits radix n

/-! ## What numbers come to -/

namespace Written

/-- The literal of a number that a word can stand for is this word. -/
theorem literalValue_eq (h : Written source.toList radix digits)
    (hv : (positional radix digits : Int) = v.toInt) :
    Numeral.value source.toList < Nat.pow 2 63 ∧ literalValue source = v := by
  have inRange : Numeral.value source.toList < 2 ^ 63 := by
    have := v.toInt_lt
    rw [h.value_eq]
    omega
  refine ⟨inRange, Int64.toInt_inj.1 ?_⟩
  rw [literalValue, Int64.toInt_ofNat_of_lt inRange, h.value_eq, hv]

theorem filter_isParen (h : Written source.toList radix digits) :
    source.toList.filter isParen = [] :=
  h.lexeme.filter_isParen 0

/-- A number that is typed comes to its value. -/
theorem evalText_eq (h : Written source.toList radix digits)
    (hv : (positional radix digits : Int) = v.toInt) (env : Environment) :
    (evalText source).run env = .ok v env := by
  obtain ⟨inRange, rfl⟩ := h.literalValue_eq hv
  have written := Grammar.written_chain
    (Grammar.written_single (Grammar.written_number h.lexeme inRange))
  obtain ⟨node, hnode, hexpr⟩ :=
    exists_parse_of_written written (Text.nestedWithin_of_filter_eq_nil h.filter_isParen)
  rw [evalText_of_ok hnode]
  cases node <;> cases hexpr
  rfl

/-- A number that is typed behind the sign `~` comes to the complement of its value. -/
theorem evalText_complement_eq (h : Written source.toList radix digits)
    (hv : (positional radix digits : Int) = v.toInt) (env : Environment) :
    (evalText ("~" ++ source)).run env = .ok (~~~v) env := by
  obtain ⟨inRange, rfl⟩ := h.literalValue_eq hv
  have text : ("~" ++ source).toList = '~' :: source.toList := String.toList_append
  have written := Grammar.written_chain
    (Grammar.written_single (Grammar.written_complement h.lexeme inRange))
  have parens : ('~' :: source.toList).filter isParen = [] := h.filter_isParen
  rw [← text] at written parens
  obtain ⟨node, hnode, hexpr⟩ :=
    exists_parse_of_written written (Text.nestedWithin_of_filter_eq_nil parens)
  rw [evalText_of_ok hnode]
  cases node with
  | complement operand _ =>
    cases operand <;> cases hexpr
    rfl
  | _ => cases hexpr

/-- A number that is typed and too great is at fault as a whole. -/
theorem parse_eq_numberTooLarge (h : Written source.toList radix digits)
    (hv : 2 ^ 63 ≤ positional radix digits) :
    parse source = .error (.numberTooLarge source ⟨0, byteLength source.toList⟩) := by
  have outOfRange : 2 ^ 63 - 1 < positional radix digits := by omega
  have tokens : tokenize source = [] ++ ⟨.number, source, ⟨0, byteLength source.toList⟩⟩ ::
      [.atEnd (byteLength source.toList)] := tokenize_of_written h
  exact parse_eq_error_of_feed (p := .initial) tokens rfl TokenKind.noConfusion
    (feed_numberTooLarge h rfl rfl outOfRange)

end Written

end Numeral

/-- No token begins with a minus sign. -/
theorem parse_eq_lexical_of_minus {source : String} {cs : List Char}
    (h : source.toList = '-' :: cs) :
    parse source = .error (.lexical "unexpected '-' at 0" ⟨0, 1⟩) := by
  have scans : Token.Scans 0 ['-'] cs _ :=
    .unexpected rfl rfl (by decide +kernel) (by decide)
  have noBlank : ∀ c ∈ ['-'].head?, isBlank c = false := by
    rintro c ⟨⟩
    decide +kernel
  have tokens : tokenize source = [] ++ Token.illegal (.unexpected '-' 0) 0 ['-'] :: [] := by
    show tokensAt 0 source.toList = _
    rw [h]
    exact scans.tokensAt_append noBlank
  exact parse_eq_error_of_feed (p := .initial) tokens rfl TokenKind.noConfusion
    (Parser.feed_of_illegal rfl _)

/-! ## What is shown -/

namespace Radix

/-- The number whose digits are shown: in base ten the distance from zero, and otherwise the bit
    pattern. -/
def magnitude : Radix → Int64 → Nat
  | .decimal, v => v.toInt.natAbs
  | _, v => pattern v

/-- What is shown before the digits. -/
def sign : Radix → Int64 → List Char
  | .decimal, v => if v < 0 then ['-'] else []
  | _, _ => []

/-- What is shown of a value, as it is typed: only base ten is not announced. -/
def typed : Radix → Int64 → String
  | .decimal, v => decimal.format v
  | .binary, v => "0b" ++ binary.format v
  | .hexadecimal, v => "0x" ++ hexadecimal.format v

variable {radix : Radix} {v w : Int64}

/-- The bit pattern of a value is the value itself, or `2 ^ 64` more. -/
theorem pattern_eq (v : Int64) :
    (pattern v : Int) = if 0 ≤ v.toInt then v.toInt else v.toInt + 2 ^ 64 := by
  have word := BitVec.toInt_eq_toNat_cond v.toBitVec
  rw [v.toInt_toBitVec] at word
  rw [pattern]
  split at word <;> split <;> omega

theorem toList_format (radix : Radix) (v : Int64) :
    (radix.format v).toList = radix.sign v ++ Nat.toDigits radix.base (radix.magnitude v) := by
  cases radix with
  | decimal =>
    have negative : v < 0 ↔ ¬0 ≤ v.toInt := by
      rw [Int64.lt_iff_toInt_lt, Int.not_le]
      rfl
    rw [format, Int.toString_eq_repr, Int.repr_eq_if, sign, magnitude]
    simp only [negative]
    split
    · next h =>
      have distance : v.toInt.toNat = v.toInt.natAbs := by omega
      rw [Nat.toList_repr, distance]
      rfl
    · next h =>
      have distance : (-v.toInt).toNat = v.toInt.natAbs := by omega
      rw [String.toList_append, Nat.toList_repr, distance]
      rfl
  | binary | hexadecimal => exact String.toList_ofList

theorem toList_typed (radix : Radix) (v : Int64) :
    (radix.typed v).toList = radix.lead ++ (radix.format v).toList := by
  cases radix with
  | decimal => rfl
  | binary | hexadecimal => exact String.toList_append

theorem sign_of_nonneg (h : 0 ≤ v) (radix : Radix) : radix.sign v = [] := by
  cases radix with
  | decimal => exact if_neg (Int64.not_lt.2 h)
  | binary | hexadecimal => rfl

theorem sign_of_ne (h : radix ≠ .decimal) (v : Int64) : radix.sign v = [] := by
  cases radix with
  | decimal => exact absurd rfl h
  | binary | hexadecimal => rfl

theorem magnitude_of_nonneg (h : 0 ≤ v) (radix : Radix) :
    (radix.magnitude v : Int) = v.toInt := by
  have nonneg : 0 ≤ v.toInt := Int64.le_iff_toInt_le.1 h
  have bits := pattern_eq v
  cases radix with
  | decimal => exact Int.natAbs_of_nonneg nonneg
  | binary | hexadecimal => rwa [if_pos nonneg] at bits

/-- The bit pattern of a negative value is greater than any value. -/
theorem magnitude_of_neg (h : v < 0) (hradix : radix ≠ .decimal) :
    (radix.magnitude v : Int) = v.toInt + 2 ^ 64 := by
  have negative : ¬0 ≤ v.toInt := Int.not_le.2 (Int64.lt_iff_toInt_lt.1 h)
  have bits := pattern_eq v
  rw [if_neg negative] at bits
  cases radix with
  | decimal => exact absurd rfl hradix
  | binary | hexadecimal => exact bits

/-- Without a sign, what is typed is a number. -/
theorem written_typed (h : radix.sign v = []) :
    Numeral.Written (radix.typed v).toList radix (Nat.toDigits radix.base (radix.magnitude v)) where
  eq := by rw [toList_typed, toList_format, h, List.nil_append]
  ne_nil := Nat.toDigits_ne_nil
  isDigit := Numeral.isDigit_of_mem_toDigits radix _

/-- A value can be told from its sign and its digits. -/
theorem eq_of_sign_eq (hsign : radix.sign v = radix.sign w)
    (hmagnitude : radix.magnitude v = radix.magnitude w) : v = w := by
  cases radix with
  | decimal =>
    have zero : (0 : Int64).toInt = 0 := rfl
    simp only [sign, Int64.lt_iff_toInt_lt, zero] at hsign
    rw [magnitude, magnitude] at hmagnitude
    refine Int64.toInt_inj.1 ?_
    split at hsign <;> split at hsign <;> first | omega | cases hsign
  | binary | hexadecimal => exact Int64.toBitVec_inj.1 (BitVec.eq_of_toNat_eq hmagnitude)

theorem sign_eq_takeWhile (radix : Radix) (v : Int64) :
    radix.sign v = (radix.format v).toList.takeWhile (· == '-') := by
  have minus : ∀ c ∈ radix.sign v, (c == '-') = true := by
    cases radix with
    | decimal => rw [sign]; split <;> simp
    | binary | hexadecimal => exact List.forall_mem_nil _
  have digit : ∀ c ∈ (Nat.toDigits radix.base (radix.magnitude v)).head?, (c == '-') = false := by
    intro c hc
    refine beq_eq_false_iff_ne.2 ?_
    rintro rfl
    have noDigit : radix.isDigit '-' = false := by cases radix <;> rfl
    exact Numeral.notMem_toDigits noDigit _ (List.mem_of_mem_head? hc)
  rw [toList_format, takeWhile_append_of_head minus digit]

/-- Two values are shown alike in no radix. -/
theorem format_injective (radix : Radix) : Function.Injective radix.format := by
  intro v w h
  have hsign : radix.sign v = radix.sign w := by rw [sign_eq_takeWhile, h, ← sign_eq_takeWhile]
  have shown : (radix.format v).toList = (radix.format w).toList := by rw [h]
  rw [toList_format, toList_format, hsign] at shown
  have digits := congrArg (Numeral.positional radix) (List.append_cancel_left shown)
  rw [Numeral.positional_toDigits, Numeral.positional_toDigits] at digits
  exact eq_of_sign_eq hsign digits

/-- Only the sign and digits are shown. -/
theorem notMem_format {c : Char} (hsign : c ≠ '-') (hdigit : radix.isDigit c = false)
    (v : Int64) : c ∉ (radix.format v).toList := by
  intro h
  rw [toList_format] at h
  rcases List.mem_append.1 h with h | h
  · rw [sign_eq_takeWhile] at h
    have minus : (c == '-') = true := mem_takeWhile_eq_true (p := (· == '-')) h
    exact hsign (beq_iff_eq.1 minus)
  · exact Numeral.notMem_toDigits hdigit _ h

/-- A value is shown on one line. -/
theorem lineFeed_notMem_format (radix : Radix) (v : Int64) : '\n' ∉ (radix.format v).toList :=
  notMem_format (by decide) (by cases radix <;> rfl) v

end Radix

/-- The first line shows the value in base ten. -/
theorem exists_toList_render (v : Int64) : ∃ rest,
    (render v).toList = ("dec: ".toList ++ (Radix.decimal.format v).toList) ++ '\n' :: rest := by
  refine ⟨("bin: " ++ Radix.binary.format v ++ "\n" ++
    ("hex: " ++ Radix.hexadecimal.format v)).toList, ?_⟩
  simp [render, Radix.all, Radix.label]

theorem render_injective : Function.Injective render := by
  intro v w h
  obtain ⟨rest, hv⟩ := exists_toList_render v
  obtain ⟨rest', hw⟩ := exists_toList_render w
  have oneLine (v : Int64) : '\n' ∉ "dec: ".toList ++ (Radix.decimal.format v).toList := by
    rw [List.mem_append, not_or]
    exact ⟨by decide, Radix.lineFeed_notMem_format .decimal v⟩
  have line := eq_of_append_cons_eq (oneLine v) (oneLine w) (hv.symm.trans (h ▸ hw))
  exact Radix.format_injective .decimal (String.toList_inj.1 (List.append_cancel_left line))

/-! ## Typing what is shown -/

/-- What is shown of a value, and what it comes to when it is typed. -/
structure TypedBack (v : Int64) : Prop where
  /-- A value that is not negative comes back from all of its texts. -/
  nonneg : 0 ≤ v → ∀ radix env, (evalText (Radix.typed radix v)).run env = .ok v env
  /-- The sign of a negative value is no token. -/
  signed : v < 0 → ∀ env, (evalText (Radix.decimal.typed v)).run env =
    .error (.parse (.lexical "unexpected '-' at 0" ⟨0, 1⟩)) env
  /-- The bit pattern of a negative value is `2 ^ 64` more than the value, and too great. -/
  unsigned : v < 0 → ∀ radix, radix ≠ .decimal →
    (Numeral.positional radix (radix.format v).toList : Int) = v.toInt + 2 ^ 64 ∧
      ∀ env, (evalText (radix.typed v)).run env = .error (.parse
        (.numberTooLarge (radix.typed v) ⟨0, byteLength (radix.typed v).toList⟩)) env
  /-- A negative value comes back as the complement of one that can be typed. -/
  complement : v < 0 → (-(v + 1)).toInt = -(v.toInt + 1) ∧
    ∀ env, (evalText ("~" ++ Radix.decimal.format (-(v + 1)))).run env = .ok v env
  /-- There are no leading zeros. -/
  canonical : ∀ radix, ∃ digits, (radix.format v).toList = radix.sign v ++ digits ∧
    Numeral.Canonical radix (radix.magnitude v) digits

theorem neg_add_one_eq (v : Int64) : -(v + 1) = ~~~v := by
  rw [Int64.not_eq_neg_sub, Int64.neg_add]

/-- A negative value is the complement of one that is not negative. -/
theorem complement_nonneg {v : Int64} (h : v < 0) : 0 ≤ ~~~v := by
  have negative : v.toInt < 0 := Int64.lt_iff_toInt_lt.1 h
  have complement : 0 ≤ (~~~v).toInt := by
    rw [toInt_complement]
    omega
  exact Int64.le_iff_toInt_le.2 complement

theorem typedBack (v : Int64) : TypedBack v where
  nonneg h radix env := by
    refine (Radix.written_typed (Radix.sign_of_nonneg h radix)).evalText_eq ?_ env
    rw [Numeral.positional_toDigits, Radix.magnitude_of_nonneg h]
  signed h env := by
    have shown := Radix.toList_format .decimal v
    rw [Radix.sign, if_pos h] at shown
    exact evalText_of_error (parse_eq_lexical_of_minus shown) env
  unsigned h radix hradix := by
    have sign := Radix.sign_of_ne hradix v
    have value := Radix.magnitude_of_neg h hradix
    refine ⟨?_, fun env => evalText_of_error ?_ env⟩
    · rw [Radix.toList_format, sign, List.nil_append, Numeral.positional_toDigits, value]
    · refine (Radix.written_typed sign).parse_eq_numberTooLarge ?_
      have := v.le_toInt
      rw [Numeral.positional_toDigits]
      omega
  complement h := by
    rw [neg_add_one_eq, toInt_complement]
    refine ⟨rfl, fun env => ?_⟩
    have nonneg := complement_nonneg h
    have number := Radix.written_typed (Radix.sign_of_nonneg nonneg .decimal)
    have back := number.evalText_complement_eq (v := ~~~v) ?_ env
    · rwa [Int64.not_not] at back
    · rw [Numeral.positional_toDigits, Radix.magnitude_of_nonneg nonneg]
  canonical radix := ⟨_, Radix.toList_format radix v, Numeral.canonical_toDigits radix _⟩

/-- All values can be typed as they are shown, or as the complement of a value as it is shown, and
    no two values are shown alike. -/
theorem shown_values_are_typed_back :
    (∀ v, TypedBack v) ∧ (∀ radix, Function.Injective (Radix.format radix)) ∧
      Function.Injective render :=
  ⟨typedBack, Radix.format_injective, render_injective⟩

end Bitwise
