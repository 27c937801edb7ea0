import GameBoy.Alu
import Mathlib.Data.Nat.Bitwise
import Mathlib.Tactic.Common

/-!
# The bits of a byte

What masks, changes of a single bit and shifts by one place do to a byte, in terms of the bits and
of the integer. The law of
a shift is an equation between integers: to the left, twice the byte with the bit that enters is the
result with the bit that leaves, which counts 256 (`Rotation.exact_left`); to the right, the same
holds with the byte and the result exchanged (`Rotation.exact_right`). All seven ways to move the
bits of a byte obey one of the two and differ only in the bit that enters.
-/

namespace GameBoy

/-! ## Masks -/

variable (b : UInt8) {v : UInt8} {i : ℕ}

/-- A mask of one bit keeps this bit. -/
lemma and_eq_ite_testBit (bit : v.toNat = 2 ^ i) :
    b &&& v = if b.toNat.testBit i then v else 0 := by
  apply UInt8.toNat_inj.1
  rw [UInt8.toNat_and, bit, Nat.and_two_pow]
  cases b.toNat.testBit i with
  | false => exact Nat.zero_mul _
  | true => exact (Nat.one_mul _).trans bit.symm

/-- A mask of one bit tests this bit. -/
lemma and_bne_zero (bit : v.toNat = 2 ^ i) : (b &&& v != 0) = b.toNat.testBit i := by
  have some : v ≠ 0 := by
    rintro rfl
    exact absurd bit.symm (Nat.two_pow_pos i).ne'
  rw [and_eq_ite_testBit b bit]
  cases b.toNat.testBit i with
  | false => rfl
  | true => exact bne_iff_ne.2 some

/-- There are four flags in a byte. -/
lemma Flags.toByte_ofByte : (ofByte b).toByte = b &&& 0xF0 := by
  have four : (0xF0 : UInt8) = 0x80 ||| 0x40 ||| 0x20 ||| 0x10 := by decide
  have distrib (x y : UInt8) : b &&& (x ||| y) = b &&& x ||| b &&& y :=
    UInt8.toBitVec_inj.1 BitVec.and_or_distrib_left
  rw [four, distrib, distrib, distrib, toByte, ofByte, and_bne_zero b (v := 0x80) (i := 7) rfl,
    and_bne_zero b (v := 0x40) (i := 6) rfl, and_bne_zero b (v := 0x20) (i := 5) rfl,
    and_bne_zero b (v := 0x10) (i := 4) rfl, and_eq_ite_testBit b (v := 0x80) (i := 7) rfl,
    and_eq_ite_testBit b (v := 0x40) (i := 6) rfl, and_eq_ite_testBit b (v := 0x20) (i := 5) rfl,
    and_eq_ite_testBit b (v := 0x10) (i := 4) rfl]

/-! ## Single bits -/

namespace Alu

variable (n : Fin 8) (k : ℕ)

lemma toNat_bit : (bit n).toNat = 2 ^ n.val := by
  revert n
  decide

lemma testBit_bit : (bit n).toNat.testBit k = decide (n.val = k) := by
  rw [toNat_bit, Nat.testBit_two_pow]

/-- Setting a bit keeps the others. -/
lemma testBit_setBit :
    (setBit n b).toNat.testBit k = if n.val = k then true else b.toNat.testBit k := by
  rw [setBit, UInt8.toNat_or, Nat.testBit_or, testBit_bit]
  by_cases here : n.val = k
  · rw [decide_eq_true here, if_pos here, Bool.or_true]
  · rw [decide_eq_false here, if_neg here, Bool.or_false]

/-- Clearing a bit keeps the others. -/
lemma testBit_resetBit (place : k < 8) :
    (resetBit n b).toNat.testBit k = if n.val = k then false else b.toNat.testBit k := by
  have complement : (~~~bit n).toNat = 2 ^ 8 - ((bit n).toNat + 1) := by
    rw [UInt8.toNat_not, Nat.sub_sub, Nat.add_comm]
    rfl
  rw [resetBit, UInt8.toNat_and, Nat.testBit_and, complement,
    Nat.testBit_two_pow_sub_succ (bit n).toNat_lt, testBit_bit, decide_eq_true place,
    Bool.true_and]
  by_cases here : n.val = k
  · rw [decide_eq_true here, if_pos here, Bool.not_true, Bool.and_false]
  · rw [decide_eq_false here, if_neg here, Bool.not_false, Bool.and_true]

/-- The zero flag after the test of a bit tells that the bit is clear. -/
lemma testBit_eq (f : Flags) :
    testBit n b f =
      { zero := !b.toNat.testBit n
        subtract := false
        halfCarry := true
        carry := f.carry } := by
  have zero : (b &&& bit n == 0) = !b.toNat.testBit n := by
    rw [← and_bne_zero b (toNat_bit n), bne, Bool.not_not]
  rw [testBit, zero]

end Alu

/-! ## Shifts by one place -/

/-- A byte moved to the left makes room for a bit on the right. -/
lemma toNat_shiftLeft_or (k : Bool) :
    (b <<< 1 ||| if k then 0x01 else 0x00).toNat = 2 * b.toNat % 256 + k.toNat := by
  have room : 2 * b.toNat % 256 = (b.toNat % 128) <<< 1 := by
    rw [Nat.shiftLeft_eq]
    omega
  have moved : (b <<< 1).toNat = 2 * b.toNat % 256 := by
    rw [UInt8.toNat_shiftLeft]
    change b.toNat <<< 1 % 256 = _
    rw [Nat.shiftLeft_eq, Nat.mul_comm]
  have bit : (if k then 0x01 else 0x00 : UInt8).toNat = k.toNat := by cases k <;> rfl
  rw [UInt8.toNat_or, moved, bit, room, ← Nat.shiftLeft_add_eq_or_of_lt k.toNat_lt]

/-- A byte moved to the right makes room for a bit on the left. -/
lemma toNat_shiftRight_or (k : Bool) :
    (b >>> 1 ||| if k then 0x80 else 0x00).toNat = b.toNat / 2 + 128 * k.toNat := by
  have small : b.toNat / 2 < 2 ^ 7 := by
    have lt := b.toNat_lt
    omega
  have moved : (b >>> 1).toNat = b.toNat / 2 := by
    rw [UInt8.toNat_shiftRight]
    rfl
  have bit : (if k then 0x80 else 0x00 : UInt8).toNat = k.toNat <<< 7 := by cases k <;> rfl
  rw [UInt8.toNat_or, moved, bit, Nat.or_comm, ← Nat.shiftLeft_add_eq_or_of_lt small,
    Nat.shiftLeft_eq, Nat.add_comm, Nat.mul_comm]

namespace Rotation

/-- The bits move to the left. -/
def isLeft : Rotation → Bool
  | left | leftThroughCarry | shiftLeft => true
  | right | rightThroughCarry | shiftRightArithmetic | shiftRightLogical => false

variable (op : Rotation) (x : UInt8) (c : Bool)

/-- The bit that leaves is the highest or the lowest. -/
lemma carryOut_eq : op.carryOut x = x.toNat.testBit (if op.isLeft then 7 else 0) := by
  cases op with
  | left | leftThroughCarry | shiftLeft => exact and_bne_zero x rfl
  | right | rightThroughCarry | shiftRightArithmetic | shiftRightLogical =>
    exact and_bne_zero x rfl

/-- To the left, the byte is doubled. -/
theorem exact_left (moves : op.isLeft) :
    (op.result x c).toNat + 256 * (op.carryOut x).toNat = 2 * x.toNat + (op.carryIn x c).toNat := by
  have lt := x.toNat_lt
  have result : (op.result x c).toNat = 2 * x.toNat % 256 + (op.carryIn x c).toNat := by
    cases op with
    | left | leftThroughCarry | shiftLeft => exact toNat_shiftLeft_or x _
    | _ => cases moves
  rw [result, carryOut_eq, if_pos moves, Nat.toNat_testBit]
  omega

/-- To the right, the byte is halved. -/
theorem exact_right (moves : op.isLeft = false) :
    2 * (op.result x c).toNat + (op.carryOut x).toNat = x.toNat + 256 * (op.carryIn x c).toNat := by
  have result : (op.result x c).toNat = x.toNat / 2 + 128 * (op.carryIn x c).toNat := by
    cases op with
    | right | rightThroughCarry | shiftRightArithmetic | shiftRightLogical =>
      exact toNat_shiftRight_or x _
    | _ => cases moves
  rw [result, carryOut_eq, if_neg (Bool.eq_false_iff.1 moves), Nat.toNat_testBit]
  omega

/-- The bit that enters is on the side from which the bits move. -/
lemma testBit_result :
    (op.result x c).toNat.testBit (if op.isLeft then 0 else 7) = op.carryIn x c := by
  have hx := x.toNat_lt
  have hr := (op.result x c).toNat_lt
  have leaves := (op.carryOut x).toNat_lt
  have enters := (op.carryIn x c).toNat_lt
  rw [Bool.eq_iff_iff, Nat.testBit_eq_decide_div_mod_eq, decide_eq_true_iff,
    ← Bool.toNat_eq_one (b := op.carryIn x c)]
  by_cases moves : op.isLeft
  · have exact := op.exact_left x c moves
    rw [if_pos moves, pow_zero, Nat.div_one]
    omega
  · have exact := op.exact_right x c (Bool.eq_false_iff.2 moves)
    rw [if_neg moves]
    omega

end Rotation

end GameBoy
