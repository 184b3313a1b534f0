import Bitwise.Proofs.Events
import Bitwise.Proofs.WordArithmetic

/-!
# Columns of bits

Only shifts move bits. All other operators compute each bit of a value from the bits that stand at
the same place in their operands, with no carry and no sign. So a tree without shifts computes every
column on its own: whoever knows the bits at one place of all values that are bound knows the bit at
this place of the result, and of all values that are bound afterwards.

This is a statement about two evaluations, in environments that agree at one bit
(`Environment.AgreeAt`) and may differ at all others. The environment is part of what is compared,
since an assignment puts a column into it that is read again later, and so is a failure, which comes
to both evaluations at the same place or to none (`columns_are_independent`).
-/

namespace Bitwise

/-! ## Operators -/

/-- Whether an operator moves bits. -/
def BinaryOperator.isShift : BinaryOperator → Bool
  | .shl | .shr => true
  | .and | .or | .xor => false

/-- Whether no operation of a tree is a shift. -/
def Tree.shiftFree {α : Type} : Tree α → Bool
  | .literal _ _ | .var _ _ => true
  | .complement t _ => t.shiftFree
  | .binary op l r _ => !op.isShift && l.shiftFree && r.shiftFree
  | .assign _ t _ => t.shiftFree

theorem Tree.shiftFree_binary {α : Type} {op : BinaryOperator} {l r : Tree α} {m : α} :
    (Tree.binary op l r m).shiftFree = true ↔
      op.isShift = false ∧ l.shiftFree = true ∧ r.shiftFree = true := by
  simp [shiftFree, and_assoc]

section Operators

variable {i : Nat} {l l' r r' v v' : Int64}

/-- A bit of a complement is set if it is not set in the operand. -/
theorem bit_complement (v : Int64) (hi : i < 64) : bit (~~~v).toInt i = !bit v.toInt i := by
  rw [← getLsbD_eq_bit _ hi, ← getLsbD_eq_bit _ hi, Int64.toBitVec_not, BitVec.getLsbD_not,
    decide_eq_true hi, Bool.true_and]

theorem bit_complement_congr (hi : i < 64) (h : bit v'.toInt i = bit v.toInt i) :
    bit (~~~v').toInt i = bit (~~~v).toInt i := by
  rw [bit_complement v' hi, bit_complement v hi, h]

/-- A bit of a result depends on the bits at its own place only, unless bits are moved. -/
theorem bit_apply_congr {op : BinaryOperator} (hop : op.isShift = false) (hi : i < 64)
    (hl : bit l'.toInt i = bit l.toInt i) (hr : bit r'.toInt i = bit r.toInt i) :
    bit (op.apply l' r').toInt i = bit (op.apply l r).toInt i := by
  cases op with
  | and => rw [bit_and l' r' hi, bit_and l r hi, hl, hr]
  | or => rw [bit_or l' r' hi, bit_or l r hi, hl, hr]
  | xor => rw [bit_xor l' r' hi, bit_xor l r hi, hl, hr]
  | shl | shr => exact absurd hop Bool.noConfusion

end Operators

/-! ## Environments -/

namespace Environment

variable {i : Nat} {env env' : Environment} {x : String} {v v' : Int64}

/-- Two environments bind the same names, to values that agree at a bit. -/
structure AgreeAt (i : Nat) (env env' : Environment) : Prop where
  binds_iff : ∀ x, env'.Binds x ↔ env.Binds x
  bit_eq : ∀ x v v', env.get? x = some v → env'.get? x = some v' →
    bit v'.toInt i = bit v.toInt i

theorem AgreeAt.refl (i : Nat) (env : Environment) : env.AgreeAt i env where
  binds_iff _ := Iff.rfl
  bit_eq x v v' hv hv' := by
    obtain rfl : v = v' := Option.some.inj (hv.symm.trans hv')
    rfl

/-- A name with a value has one in the other environment too. -/
theorem AgreeAt.exists_get? (h : env.AgreeAt i env') (hv : env.get? x = some v) :
    ∃ v', env'.get? x = some v' ∧ bit v'.toInt i = bit v.toInt i := by
  obtain ⟨v', hv'⟩ := (h.binds_iff x).2 ⟨v, hv⟩
  exact ⟨v', hv', h.bit_eq x v v' hv hv'⟩

theorem AgreeAt.get?_eq_none (h : env.AgreeAt i env') (hx : env.get? x = none) :
    env'.get? x = none := by
  rw [← not_binds_iff, h.binds_iff, not_binds_iff]
  exact hx

/-- An assignment of values that agree at the bit is seen at the bit alike. -/
theorem AgreeAt.insert (h : env.AgreeAt i env') (hv : bit v'.toInt i = bit v.toInt i)
    (x : String) : (env.insert x v).AgreeAt i (env'.insert x v') := by
  constructor
  · intro y
    by_cases hy : y = x
    · simp only [Binds, get?_insert, if_pos hy]
      exact ⟨fun _ => ⟨v, rfl⟩, fun _ => ⟨v', rfl⟩⟩
    · simp only [Binds, get?_insert, if_neg hy]
      exact h.binds_iff y
  · intro y w w' hw hw'
    rw [get?_insert] at hw hw'
    by_cases hy : y = x
    · rw [if_pos hy, Option.some.injEq] at hw hw'
      rw [← hw, ← hw', hv]
    · rw [if_neg hy] at hw hw'
      exact h.bit_eq y w w' hw hw'

end Environment

/-! ## Evaluations -/

/-- Two evaluations look the same to someone who sees one bit of every value: both have a value, or
    both fail at the same variable, and the environments agree afterwards. -/
inductive EvalResult.AlikeAt (i : Nat) : EvalResult → EvalResult → Prop
  | ok {v v' : Int64} {env env' : Environment} : bit v'.toInt i = bit v.toInt i →
    env.AgreeAt i env' → AlikeAt i (.ok v env) (.ok v' env')
  | error {e : UndefinedVariable} {env env' : Environment} : env.AgreeAt i env' →
    AlikeAt i (.error e env) (.error e env')

open EvalResult (AlikeAt)

namespace EvalResult.AlikeAt

variable {i : Nat} {v : Int64} {e : UndefinedVariable} {env : Environment} {r : EvalResult}

theorem exists_of_ok (h : AlikeAt i (.ok v env) r) : ∃ v' env', r = .ok v' env' ∧
    bit v'.toInt i = bit v.toInt i ∧ env.AgreeAt i env' := by
  cases h with
  | ok hbit after => exact ⟨_, _, rfl, hbit, after⟩

theorem exists_of_error (h : AlikeAt i (.error e env) r) :
    ∃ env', r = .error e env' ∧ env.AgreeAt i env' := by
  cases h with
  | error after => exact ⟨_, rfl, after⟩

end EvalResult.AlikeAt

/-- An evaluation without shifts has one that looks the same wherever the environment does. -/
theorem Node.Outcome.exists_alikeAt {i : Nat} (hi : i < 64) {t : Node} {env : Environment}
    {r : EvalResult} (h : t.Outcome env r) (ht : t.shiftFree = true) {env' : Environment}
    (agree : env.AgreeAt i env') : ∃ r', t.Outcome env' r' ∧ AlikeAt i r r' := by
  induction h generalizing env' with
  | literal => exact ⟨_, .literal, .ok rfl agree⟩
  | var hx =>
    obtain ⟨v', hv', hbit⟩ := agree.exists_get? hx
    exact ⟨_, .var hv', .ok hbit agree⟩
  | undefined hx => exact ⟨_, .undefined (agree.get?_eq_none hx), .error agree⟩
  | complement _ ih =>
    obtain ⟨_, h', alike⟩ := ih ht agree
    obtain ⟨_, _, rfl, hbit, after⟩ := alike.exists_of_ok
    exact ⟨_, .complement h', .ok (bit_complement_congr hi hbit) after⟩
  | complementFails _ ih =>
    obtain ⟨_, h', alike⟩ := ih ht agree
    obtain ⟨_, rfl, after⟩ := alike.exists_of_error
    exact ⟨_, .complementFails h', .error after⟩
  | binary _ _ ihl ihr =>
    obtain ⟨hop, hl, hr⟩ := Tree.shiftFree_binary.1 ht
    -- the right operand sees what the left one has assigned
    obtain ⟨_, hl', alike⟩ := ihl hl agree
    obtain ⟨_, _, rfl, hbit, between⟩ := alike.exists_of_ok
    obtain ⟨_, hr', alike'⟩ := ihr hr between
    obtain ⟨_, _, rfl, hbit', after⟩ := alike'.exists_of_ok
    exact ⟨_, .binary hl' hr', .ok (bit_apply_congr hop hi hbit hbit') after⟩
  | leftFails _ ih =>
    obtain ⟨-, hl, -⟩ := Tree.shiftFree_binary.1 ht
    obtain ⟨_, h', alike⟩ := ih hl agree
    obtain ⟨_, rfl, after⟩ := alike.exists_of_error
    exact ⟨_, .leftFails h', .error after⟩
  | rightFails _ _ ihl ihr =>
    obtain ⟨-, hl, hr⟩ := Tree.shiftFree_binary.1 ht
    obtain ⟨_, hl', alike⟩ := ihl hl agree
    obtain ⟨_, _, rfl, -, between⟩ := alike.exists_of_ok
    obtain ⟨_, hr', alike'⟩ := ihr hr between
    obtain ⟨_, rfl, after⟩ := alike'.exists_of_error
    exact ⟨_, .rightFails hl' hr', .error after⟩
  | @assign x _ _ _ _ _ _ ih =>
    obtain ⟨_, h', alike⟩ := ih ht agree
    obtain ⟨_, _, rfl, hbit, after⟩ := alike.exists_of_ok
    exact ⟨_, .assign h', .ok hbit (after.insert hbit x)⟩
  | assignFails _ ih =>
    obtain ⟨_, h', alike⟩ := ih ht agree
    obtain ⟨_, rfl, after⟩ := alike.exists_of_error
    exact ⟨_, .assignFails h', .error after⟩

/-- A tree without shifts computes every column of bits on its own. In environments that agree at a
    bit, its evaluations have values that agree at the bit, or they fail at the same variable, and
    in either case the environments agree at the bit afterwards. -/
theorem columns_are_independent {i : Nat} (hi : i < 64) {t : Node} (ht : t.shiftFree = true)
    {env env' : Environment} (agree : env.AgreeAt i env') :
    AlikeAt i ((Node.eval t).run env) ((Node.eval t).run env') := by
  obtain ⟨r', h', alike⟩ := Node.Outcome.exists_alikeAt hi (Node.run_eval_eq_iff.1 rfl) ht agree
  rw [Node.run_eval_eq_iff.2 h']
  exact alike

/-- The tree of `((m = a ^ ~3) & b) | w`, where `w` has no value: the evaluations fail after they
    have assigned values that agree at the bit of the number four. -/
theorem columns_are_independent_partway :
    let t : Node := .binary .or (.binary .and (.assign "m" (.binary .xor (.var "a" ⟨6, 7⟩)
      (.complement (.literal 3 ⟨11, 12⟩) ⟨10, 12⟩) ⟨6, 12⟩) ⟨1, 13⟩) (.var "b" ⟨16, 17⟩) ⟨0, 18⟩)
      (.var "w" ⟨21, 22⟩) ⟨0, 22⟩
    let env := Environment.ofList [("a", 5), ("b", 12)]
    let env' := Environment.ofList [("a", -4), ("b", 7)]
    t.shiftFree = true ∧ env.AgreeAt 2 env' ∧
      (Node.eval t).run env =
        .error ⟨"w", ⟨21, 22⟩⟩ (.ofList [("a", 5), ("b", 12), ("m", -7)]) ∧
      (Node.eval t).run env' =
        .error ⟨"w", ⟨21, 22⟩⟩ (.ofList [("a", -4), ("b", 7), ("m", 0)]) ∧
      (Environment.ofList [("a", 5), ("b", 12), ("m", -7)]).AgreeAt 2
        (.ofList [("a", -4), ("b", 7), ("m", 0)]) := by
  intro t env env'
  have four : bit (-4 : Int64).toInt 2 = bit (5 : Int64).toInt 2 := by decide
  have seven : bit (7 : Int64).toInt 2 = bit (12 : Int64).toInt 2 := by decide
  have agree : env.AgreeAt 2 env' :=
    ((Environment.AgreeAt.refl 2 ∅).insert four "a").insert seven "b"
  have fails : (Node.eval t).run env =
      .error ⟨"w", ⟨21, 22⟩⟩ (.ofList [("a", 5), ("b", 12), ("m", -7)]) := rfl
  have fails' : (Node.eval t).run env' =
      .error ⟨"w", ⟨21, 22⟩⟩ (.ofList [("a", -4), ("b", 7), ("m", 0)]) := rfl
  have alike := columns_are_independent (by decide : 2 < 64) (rfl : t.shiftFree = true) agree
  rw [fails, fails'] at alike
  obtain ⟨_, same, after⟩ := alike.exists_of_error
  cases same
  exact ⟨rfl, agree, fails, fails', after⟩

end Bitwise
