import Bitwise.Proofs.Evaluation
import Mathlib.Data.Int.ModEq
import Mathlib.Data.Rat.Floor

/-!
# Operators as integer arithmetic

What the operators do to 64-bit words, said in terms of the integers that the words stand for. A
shift to the left multiplies by a power of two and keeps the remainder modulo `2 ^ 64`; a shift to
the right divides by one and rounds down. The count is the remainder of the right operand modulo
64, whatever its sign. The other operators act on each bit of the two's complement form, and `~`
takes an integer `n` to `-(n + 1)`.

So all operators have a result for all operands, and it is the exact one as long as that is in
range. In particular a shift to the left can be undone by a shift to the right exactly if the
product is in range (`operators_are_exact`).
-/

namespace Bitwise

/-! ## Words and integers -/

/-- A bit of the two's complement form of an integer: the integer is divided by the power of two,
    rounded down, and the bit is set if that is odd. -/
def bit (n : Int) (i : Nat) : Bool :=
  n / 2 ^ i % 2 = 1

/-- The integers that a word can stand for. -/
def InWord (n : Int) : Prop :=
  -2 ^ 63 ≤ n ∧ n < 2 ^ 63

theorem inWord_toInt (v : Int64) : InWord v.toInt :=
  ⟨v.le_toInt, v.toInt_lt⟩

/-- There is one integer of each remainder that a word can stand for. -/
theorem InWord.eq_of_modEq {m n : Int} (hm : InWord m) (hn : InWord n)
    (h : m ≡ n [ZMOD 2 ^ 64]) : m = n := by
  obtain ⟨hm, hm'⟩ := hm
  obtain ⟨hn, hn'⟩ := hn
  rw [Int.ModEq] at h
  omega

/-- The bits of a word depend only on the remainder. -/
theorem bit_congr {m n : Int} (h : m ≡ n [ZMOD 2 ^ 64]) {i : Nat} (hi : i < 64) :
    bit m i = bit n i := by
  obtain ⟨q, rfl⟩ := Int.modEq_iff_add_fac.1 h
  -- what is added is a multiple of twice the power of two
  have split : (2 : Int) ^ 64 * q = 2 * (2 ^ (63 - i) * q) * 2 ^ i := by
    have powers : (2 : Int) ^ 64 = 2 * 2 ^ (63 - i) * 2 ^ i := by
      rw [← pow_succ', ← pow_add]
      congr 1
      omega
    rw [powers]
    ring
  have positive : (2 : Int) ^ i ≠ 0 := by positivity
  rw [bit, bit, split, Int.add_mul_ediv_right _ _ positive, Int.add_mul_emod_self_left]

/-- The bit pattern of a word has the remainder of its integer. -/
theorem toNat_modEq_toInt (v : Int64) : (v.toBitVec.toNat : Int) ≡ v.toInt [ZMOD 2 ^ 64] := by
  rw [← v.toInt_toBitVec, BitVec.toInt_eq_toNat_bmod]
  exact Int.bmod_emod.symm

theorem getLsbD_eq_bit (v : Int64) {i : Nat} (hi : i < 64) :
    v.toBitVec.getLsbD i = bit v.toInt i := by
  rw [← bit_congr (toNat_modEq_toInt v) hi, ← BitVec.testBit_toNat,
    Nat.testBit_eq_decide_div_mod_eq, bit]
  norm_cast

/-! ## Shifts -/

/-- The count of a shift by an operand: its remainder, which is not negative. -/
def shiftCount (r : Int64) : Nat :=
  (r.toInt % 64).toNat

theorem shiftCount_lt (r : Int64) : shiftCount r < 64 := by
  rw [shiftCount]
  omega

theorem toNat_smod_eq (r : Int64) : (r.toBitVec.smod 64).toNat = shiftCount r := by
  have value : (r.toBitVec.smod 64).toInt = r.toInt % 64 := by
    rw [BitVec.toInt_smod, r.toInt_toBitVec]
    exact Int.fmod_eq_emod_of_nonneg _ (by decide)
  have nonneg : 0 ≤ (r.toBitVec.smod 64).toInt := by
    rw [value]
    omega
  rw [shiftCount, ← value, BitVec.toInt_eq_toNat_cond]
  rw [BitVec.toInt_eq_toNat_cond] at nonneg
  omega

variable {l r : Int64}

theorem toInt_shl_modEq (l r : Int64) :
    (BinaryOperator.shl.apply l r).toInt ≡ l.toInt * 2 ^ shiftCount r [ZMOD 2 ^ 64] := by
  have value : (BinaryOperator.shl.apply l r).toInt =
      ((l.toBitVec.toNat * 2 ^ shiftCount r : Nat) : Int).bmod (2 ^ 64) := by
    rw [BinaryOperator.apply, ← Int64.toInt_toBitVec, Int64.toBitVec_shiftLeft,
      BitVec.shiftLeft_eq', BitVec.toInt_shiftLeft, toNat_smod_eq, Nat.shiftLeft_eq]
  rw [value]
  refine (show _ ≡ _ [ZMOD 2 ^ 64] from Int.bmod_emod).trans ?_
  push_cast
  exact (toNat_modEq_toInt l).mul_right _

theorem toInt_shr (l r : Int64) :
    (BinaryOperator.shr.apply l r).toInt = l.toInt / 2 ^ shiftCount r := by
  rw [BinaryOperator.apply, ← Int64.toInt_toBitVec, Int64.toBitVec_shiftRight,
    BitVec.toInt_sshiftRight', toNat_smod_eq, Int.shiftRight_eq_div_pow, l.toInt_toBitVec]
  norm_cast

/-- A shift to the left multiplies exactly if the product is in range. -/
theorem toInt_shl_eq_iff : (BinaryOperator.shl.apply l r).toInt = l.toInt * 2 ^ shiftCount r ↔
    InWord (l.toInt * 2 ^ shiftCount r) :=
  ⟨fun h => h ▸ inWord_toInt _, fun h => (inWord_toInt _).eq_of_modEq h (toInt_shl_modEq l r)⟩

/-- A shift back gives the operand only if no bits have been lost. -/
theorem shr_shl_eq_iff : BinaryOperator.shr.apply (BinaryOperator.shl.apply l r) r = l ↔
    InWord (l.toInt * 2 ^ shiftCount r) := by
  have positive : (0 : Int) < 2 ^ shiftCount r := by positivity
  rw [← Int64.toInt_inj, toInt_shr, ← toInt_shl_eq_iff]
  constructor
  · intro h
    -- the shifted word and the product differ by less than the power of two, and by a multiple of
    -- `2 ^ 64`, which is greater
    have below := Int.ediv_mul_le (BinaryOperator.shl.apply l r).toInt positive.ne'
    have above := Int.lt_ediv_add_one_mul_self (BinaryOperator.shl.apply l r).toInt positive
    have small : (2 : Int) ^ shiftCount r ≤ 2 ^ 63 :=
      pow_le_pow_right₀ (by decide) (Nat.le_of_lt_succ (shiftCount_lt r))
    have remainder := toInt_shl_modEq l r
    rw [h] at below above
    rw [add_mul, one_mul] at above
    rw [Int.ModEq] at remainder
    generalize l.toInt * 2 ^ shiftCount r = product at *
    omega
  · intro h
    rw [h, Int.mul_ediv_cancel _ positive.ne']

/-! ## Bits -/

theorem bit_and (l r : Int64) {i : Nat} (hi : i < 64) :
    bit (BinaryOperator.and.apply l r).toInt i = (bit l.toInt i && bit r.toInt i) := by
  rw [← getLsbD_eq_bit _ hi, ← getLsbD_eq_bit _ hi, ← getLsbD_eq_bit _ hi]
  exact BitVec.getLsbD_and

theorem bit_or (l r : Int64) {i : Nat} (hi : i < 64) :
    bit (BinaryOperator.or.apply l r).toInt i = (bit l.toInt i || bit r.toInt i) := by
  rw [← getLsbD_eq_bit _ hi, ← getLsbD_eq_bit _ hi, ← getLsbD_eq_bit _ hi]
  exact BitVec.getLsbD_or

theorem bit_xor (l r : Int64) {i : Nat} (hi : i < 64) :
    bit (BinaryOperator.xor.apply l r).toInt i = (bit l.toInt i ^^ bit r.toInt i) := by
  rw [← getLsbD_eq_bit _ hi, ← getLsbD_eq_bit _ hi, ← getLsbD_eq_bit _ hi]
  exact BitVec.getLsbD_xor

theorem toInt_complement (v : Int64) : (~~~v).toInt = -(v.toInt + 1) := by
  obtain ⟨low, high⟩ := inWord_toInt v
  rw [Int64.toInt_not, Int.bmod_eq_of_le (by push_cast; omega) (by push_cast; omega)]
  omega

/-! ## Operators -/

/-- What the operators make of two words, in terms of the integers that they stand for. -/
structure ExactOperators (l r : Int64) : Prop where
  /-- The operands of an operation have a result, in range, whatever they are. -/
  evaluated : ∀ op (t u : Node) span env env' env'', (Node.eval t).run env = .ok l env' →
    (Node.eval u).run env' = .ok r env'' →
      (Node.eval (.binary op t u span)).run env = .ok (op.apply l r) env'' ∧
        InWord (op.apply l r).toInt
  /-- The complement of an operand has one as well. -/
  complement : ∀ (t : Node) span env env', (Node.eval t).run env = .ok l env' →
    ∃ v, (Node.eval (.complement t span)).run env = .ok v env' ∧ v.toInt = -(l.toInt + 1) ∧
      InWord v.toInt
  /-- A shift to the left multiplies, modulo `2 ^ 64`, and no other word has this remainder. -/
  shl : ∀ v : Int64, v = BinaryOperator.shl.apply l r ↔
    v.toInt ≡ l.toInt * 2 ^ shiftCount r [ZMOD 2 ^ 64]
  /-- A shift to the right divides and rounds down. -/
  shr : (BinaryOperator.shr.apply l r).toInt = ⌊(l.toInt : ℚ) / 2 ^ shiftCount r⌋
  and : ∀ i < 64,
    bit (BinaryOperator.and.apply l r).toInt i = (bit l.toInt i && bit r.toInt i)
  or : ∀ i < 64,
    bit (BinaryOperator.or.apply l r).toInt i = (bit l.toInt i || bit r.toInt i)
  xor : ∀ i < 64,
    bit (BinaryOperator.xor.apply l r).toInt i = (bit l.toInt i ^^ bit r.toInt i)
  /-- A shift to the left can be undone exactly if the product is in range. -/
  undone : BinaryOperator.shr.apply (BinaryOperator.shl.apply l r) r = l ↔
    InWord (l.toInt * 2 ^ shiftCount r)

/-- The operators are exact arithmetic on the integers that 64-bit words stand for, and they have a
    result for all operands. -/
theorem operators_are_exact (l r : Int64) : ExactOperators l r where
  evaluated op t u span env env' env'' ht hu :=
    ⟨(Node.Outcome.binary (Node.run_eval_eq_iff.1 ht) (Node.run_eval_eq_iff.1 hu)).run_eval_eq,
      inWord_toInt _⟩
  complement t span env env' ht :=
    ⟨~~~l, (Node.Outcome.complement (Node.run_eval_eq_iff.1 ht)).run_eval_eq, toInt_complement l,
      inWord_toInt _⟩
  shl v := by
    refine ⟨fun h => h ▸ toInt_shl_modEq l r, fun h => Int64.toInt_inj.1 ?_⟩
    exact (inWord_toInt v).eq_of_modEq (inWord_toInt _) (h.trans (toInt_shl_modEq l r).symm)
  shr := by
    have floor := Rat.floor_intCast_div_natCast l.toInt (2 ^ shiftCount r)
    push_cast at floor
    rw [toInt_shr, floor]
  and _ := bit_and l r
  or _ := bit_or l r
  xor _ := bit_xor l r
  undone := shr_shl_eq_iff

/-- A count is never negative, and a shift may reach the sign. -/
example : BinaryOperator.shl.apply 1 (-1) = Int64.minValue := by decide

end Bitwise
