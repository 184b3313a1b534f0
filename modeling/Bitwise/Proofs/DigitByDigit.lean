import Bitwise.Proofs.Partition

/-!
# Numbers digit by digit

The scanner takes all letters and digits that stand together for a number, and it looks at them only
when it has them all. A reader that goes from one character to the next (`Numeral.read`) takes
digits as long as they are digits of the radix, and decides at the first character that is none.

The two agree on every number of every text (`tokenize_reads_digit_by_digit`): the same lexeme or
the same diagnostic. What the scanner takes too much is a letter or a digit after the digits, and at
that the reader stops with an error as well.
-/

namespace Bitwise

open Text (byteLength)
open Unicode (isBlank isDecimalDigit isLetter)

namespace Numeral

/-! ## Reading -/

/-- Reads digits one by one. A letter or another digit must not stand after them. -/
def readDigits (radix : Radix) : List Char → Except String (List Char)
  | [] => .ok []
  | c :: cs =>
    if radix.isDigit c then (readDigits radix cs).map (c :: ·)
    else if isLetter c || isDecimalDigit c then .error "malformed number"
    else .ok []

/-- Reads digits, of which there has to be one. -/
def readSomeDigits (radix : Radix) (missing : String) : List Char → Except String (List Char)
  | [] => .error missing
  | c :: cs =>
    if radix.isDigit c then (readDigits radix cs).map (c :: ·)
    else .error missing

/-- Reads a number at the head of a text: the lexeme, or what is wrong with it. -/
def read : List Char → Except String (List Char)
  | '0' :: 'b' :: cs =>
    (readSomeDigits .binary "malformed binary number" cs).map ('0' :: 'b' :: ·)
  | '0' :: 'x' :: cs =>
    (readSomeDigits .hexadecimal "malformed hex number" cs).map ('0' :: 'x' :: ·)
  | cs => readDigits .decimal cs

/-! ## Reading and looking at the whole -/

/-- Digits of all radices go on numbers. -/
theorem isNumberPart_of_radix {radix : Radix} {c : Char} (h : radix.isDigit c = true) :
    isNumberPart c = true := by
  cases radix with
  | decimal => exact isNumberPart_of_isDigit h
  | binary =>
    rw [Radix.isDigit, Bool.or_eq_true, beq_iff_eq, beq_iff_eq] at h
    rcases h with rfl | rfl <;> exact isNumberPart_of_isDigit rfl
  | hexadecimal =>
    rw [Radix.isDigit, Bool.or_eq_true] at h
    rcases h with h | h
    · exact isNumberPart_of_isDigit h
    · -- the letters from a to f lie in the second range of letters
      rw [Bool.and_eq_true, decide_eq_true_eq, decide_eq_true_eq] at h
      have above : 0x61 ≤ c.toNat := h.1
      have below : c.toNat ≤ 0x66 := h.2
      have letter : isLetter c = true := by
        rw [isLetter, Unicode.letters, Unicode.Ranges.contains, if_neg (by omega),
          Unicode.Ranges.contains_cons_of_le (by simp only; omega)]
        exact decide_eq_true above
      rw [isNumberPart, letter, Bool.true_or]

theorem isDigit_eq_false {c : Char} (h : isNumberPart c = false) (radix : Radix) :
    radix.isDigit c = false := by
  refine eq_false_of_ne_true fun digit => ?_
  rw [isNumberPart_of_radix digit] at h
  cases h

section

variable {word rest : List Char}

/-- Digits are read from letters and digits that stand together exactly if they are all digits of
    the radix. -/
theorem readDigits_append (radix : Radix) (hword : ∀ c ∈ word, isNumberPart c = true)
    (hrest : ∀ c ∈ rest.head?, isNumberPart c = false) :
    readDigits radix (word ++ rest) =
      if word.all radix.isDigit then .ok word else .error "malformed number" := by
  induction word with
  | nil =>
    cases rest with
    | nil => rfl
    | cons c rest =>
      have none : isNumberPart c = false := hrest c rfl
      have stops := isDigit_eq_false none radix
      rw [isNumberPart] at none
      simp [readDigits, stops, none]
  | cons c word ih =>
    obtain ⟨hc, hword⟩ := List.forall_mem_cons.1 hword
    rw [isNumberPart] at hc
    rw [List.cons_append, readDigits, ih hword, List.all_cons]
    by_cases digit : radix.isDigit c = true
    · by_cases all : word.all radix.isDigit = true <;> simp [digit, all, Except.map]
    · simp [digit, hc]

theorem readSomeDigits_append (radix : Radix) (missing : String)
    (hword : ∀ c ∈ word, isNumberPart c = true)
    (hrest : ∀ c ∈ rest.head?, isNumberPart c = false) :
    readSomeDigits radix missing (word ++ rest) =
      if !word.head?.any radix.isDigit then .error missing
      else if word.all radix.isDigit then .ok word else .error "malformed number" := by
  cases word with
  | nil =>
    cases rest with
    | nil => rfl
    | cons c rest =>
      have stops := isDigit_eq_false (hrest c rfl) radix
      simp [readSomeDigits, stops]
  | cons c word =>
    have digits := readDigits_append radix (List.forall_mem_cons.1 hword).2 hrest
    rw [List.cons_append, readSomeDigits, digits, List.all_cons]
    by_cases digit : radix.isDigit c = true
    · by_cases all : word.all radix.isDigit = true <;> simp [digit, all, Except.map]
    · simp [digit]

/-- What announces a radix goes on numbers, and so it does not stand behind one. -/
theorem exists_of_append_eq_cons {c a d : Char} {cs ds : List Char} (hd : isNumberPart d = true)
    (hrest : ∀ e ∈ rest.head?, isNumberPart e = false) (h : c :: cs ++ rest = a :: d :: ds) :
    ∃ digits, c :: cs = a :: d :: digits := by
  obtain ⟨rfl, htail : cs ++ rest = d :: ds⟩ := List.cons.inj h
  cases cs with
  | nil =>
    rw [List.nil_append] at htail
    subst htail
    rw [hrest d rfl] at hd
    cases hd
  | cons e cs =>
    obtain ⟨rfl, -⟩ := List.cons.inj htail
    exact ⟨cs, rfl⟩

/-- The verdict on a lexeme as a whole is that of reading it digit by digit. -/
theorem read_append {c : Char} {cs : List Char} (hc : c.isDigit = true)
    (hcs : ∀ d ∈ cs, isNumberPart d = true) (hrest : ∀ d ∈ rest.head?, isNumberPart d = false) :
    read (c :: cs ++ rest) = match malformation? (c :: cs) with
      | none => .ok (c :: cs)
      | some reason => .error reason.message := by
  generalize hword : c :: cs = word
  rw [malformation?.eq_def]
  fun_cases split word with
  | case1 digits =>
    obtain ⟨rfl, rfl⟩ := List.cons.inj hword
    rw [List.cons_append, List.cons_append, read,
      readSomeDigits_append _ _ (List.forall_mem_cons.1 hcs).2 hrest]
    dsimp only
    split_ifs <;> rfl
  | case2 digits =>
    obtain ⟨rfl, rfl⟩ := List.cons.inj hword
    rw [List.cons_append, List.cons_append, read,
      readSomeDigits_append _ _ (List.forall_mem_cons.1 hcs).2 hrest]
    dsimp only
    split_ifs <;> rfl
  | case3 _ notBinary notHexadecimal =>
    subst hword
    have all : ∀ d ∈ c :: cs, isNumberPart d = true :=
      List.forall_mem_cons.2 ⟨isNumberPart_of_isDigit hc, hcs⟩
    have decimal : read (c :: cs ++ rest) = readDigits .decimal (c :: cs ++ rest) := by
      refine read.eq_3 _ (fun ds h => ?_) fun ds h => ?_
      · obtain ⟨digits, hdigits⟩ := exists_of_append_eq_cons (by decide +kernel) hrest h
        exact notBinary digits hdigits
      · obtain ⟨digits, hdigits⟩ := exists_of_append_eq_cons (by decide +kernel) hrest h
        exact notHexadecimal digits hdigits
    have first : (c :: cs).head?.any Radix.decimal.isDigit = true := hc
    rw [decimal, readDigits_append _ all hrest]
    simp only [first, Bool.not_true, Bool.false_eq_true, if_false]
    split_ifs <;> rfl

end

end Numeral

/-! ## Numbers in a text -/

/-- A token is what reading has come to at an offset: a number with just this lexeme, or illegal
    with just this diagnostic. -/
def Token.IsVerdict (t : Token) (offset : Nat) : Except String (List Char) → Prop
  | .ok lexeme => t = ofLexeme .number offset lexeme
  | .error diagnostic => t.kind = .illegal ∧ t.text = diagnostic

theorem Token.isVerdict_number (offset : Nat) {c : Char} (hc : c.isDigit = true) (cs : List Char) :
    (number offset (c :: cs.takeWhile isNumberPart)).IsVerdict offset (Numeral.read (c :: cs)) := by
  have parts : c :: cs = c :: cs.takeWhile isNumberPart ++ cs.dropWhile isNumberPart := by
    rw [List.cons_append, List.takeWhile_append_dropWhile]
  have hword : ∀ d ∈ cs.takeWhile isNumberPart, isNumberPart d = true :=
    fun d => mem_takeWhile_eq_true
  have verdict := Numeral.read_append hc hword (head?_dropWhile_eq_false isNumberPart cs)
  rw [← parts] at verdict
  rw [verdict, number]
  cases Numeral.malformation? (c :: cs.takeWhile isNumberPart) with
  | none => exact rfl
  | some reason => exact ⟨rfl, rfl⟩

/-- A token that begins with a digit is what is read there digit by digit. -/
theorem Token.Scans.isVerdict {offset : Nat} {piece rest cs : List Char} {t : Token} {c : Char}
    (h : Token.Scans offset piece rest t) (htext : piece ++ rest = c :: cs)
    (hc : c.isDigit = true) : t.IsVerdict offset (Numeral.read (c :: cs)) := by
  have scanned := h.scan_append
  rw [htext, scan_number hc, Prod.mk.injEq] at scanned
  exact scanned.1 ▸ isVerdict_number offset hc cs

/-- Wherever a token begins with a digit, it is what is read there digit by digit. -/
theorem tokenize_reads_digit_by_digit {source : String} {before after : List Char} {c : Char}
    {t : Token} (ht : t ∈ tokenize source) (hsource : source.toList = before ++ c :: after)
    (hstart : t.span.start = byteLength before) (hc : c.isDigit = true) :
    t.IsVerdict (byteLength before) (Numeral.read (c :: after)) := by
  have divided : Divided 0 source.toList (tokenize source) := divided_tokensAt 0 source.toList
  rcases divided.exists_scans_of_mem ht with rfl | ⟨before', piece, rest, hparts, -, hs⟩
  · -- the end of the text stands behind the digit
    have behind := Text.byteLength_lt_append_cons before after c
    rw [← hsource, ← hstart] at behind
    exact absurd behind (by simp [Token.atEnd, Span.point])
  · rw [Nat.zero_add] at hs
    rw [hs.span_eq] at hstart
    obtain ⟨rfl, htext⟩ := Text.append_inj_byteLength (hparts.symm.trans hsource) hstart
    exact hs.isVerdict htext hc

/-- The reader stops at a letter behind the digits, and the scanner takes it in and refuses all. -/
theorem tokenize_reads_digit_by_digit_tail :
    ⟨.illegal, "malformed number", ⟨3, 8⟩⟩ ∈ tokenize "é|0b1xy" ∧
      Token.IsVerdict ⟨.illegal, "malformed number", ⟨3, 8⟩⟩ (byteLength ['é', '|'])
        (Numeral.read ['0', 'b', '1', 'x', 'y']) := by
  have token : ⟨.illegal, "malformed number", ⟨3, 8⟩⟩ ∈ tokenize "é|0b1xy" := by decide +kernel
  have text : "é|0b1xy".toList = ['é', '|'] ++ '0' :: ['b', '1', 'x', 'y'] := by decide
  exact ⟨token, tokenize_reads_digit_by_digit token text (by decide) rfl⟩

end Bitwise
