import GameBoy.Alu
import GameBoy.Memory.IoPage
import Mathlib.Algebra.Ring.Nat
import Mathlib.Tactic.Common

/-!
# Checked arithmetic

The functions of the machine compute with numbers that are as large as they need to be. A machine
that has registers of 8, 16 and 32 bits, arrays of fixed sizes and a bounded number of nested calls
can come to the end of each of these. An operation of such a machine is `Checked`: it yields a
`Fault` where it is used outside of its range.

This file has the checked operations on numbers, and with them the functions of `Alu` as such a
machine carries them out. Each is proved equal to the function that it stands for, and so it has no
faults: `Checked α` holds the values of `α` as `.ok`, and nothing else is reached.
-/

namespace GameBoy

/-- How an operation can be used outside of its range. -/
inductive Fault where
  /-- A sum is too large, a difference negative, or a shift too wide. -/
  | overflow
  /-- There is nothing at an index. -/
  | outOfBounds (index size : ℕ)
  /-- The page of hardware registers is accessed at an address outside of it. -/
  | outsideIoPage (e : OutsideIoPage)
  /-- A function calls itself once more than it may. -/
  | nested
  deriving DecidableEq, Repr

/-- A value, unless an operation was used outside of its range. -/
abbrev Checked := Except Fault

namespace Checked

/-- What follows a value is done with that value. -/
@[simp] theorem ok_bind {α β : Type} (a : α) (f : α → Checked β) :
    (Except.ok a : Checked α) >>= f = f a := rfl

/-- A sum in a register of some bits. -/
def sum (bits a b : ℕ) : Checked ℕ := if a + b < 2 ^ bits then .ok (a + b) else .error .overflow

/-- A difference, which cannot be negative. -/
def difference (a b : ℕ) : Checked ℕ := if b ≤ a then .ok (a - b) else .error .overflow

/-- A byte moved to the left by less than its width. -/
def shiftLeft (x : UInt8) (n : ℕ) : Checked UInt8 :=
  if n < 8 then .ok (x <<< UInt8.ofNat n) else .error .overflow

/-- A byte moved to the right by less than its width. -/
def shiftRight (x : UInt8) (n : ℕ) : Checked UInt8 :=
  if n < 8 then .ok (x >>> UInt8.ofNat n) else .error .overflow

section Range

variable {bits a b n : ℕ}

lemma sum_eq (h : a + b < 2 ^ bits) : sum bits a b = .ok (a + b) := if_pos h

lemma difference_eq (h : b ≤ a) : difference a b = .ok (a - b) := if_pos h

lemma shiftLeft_eq (x : UInt8) (h : n < 8) : shiftLeft x n = .ok (x <<< UInt8.ofNat n) := if_pos h

lemma shiftRight_eq (x : UInt8) (h : n < 8) : shiftRight x n = .ok (x >>> UInt8.ofNat n) :=
  if_pos h

end Range

/-- The checks are not idle: a sum of two bytes need not be a byte. -/
example : sum 8 0xFF 0x01 = .error .overflow := by decide

end Checked

open Checked

namespace Alu

/-! ## Sums and differences -/

/-- The sum of two bytes and a carry: in a word for the byte and the carry out of it, and in a byte
for the lower halves. -/
def addChecked (x y : UInt8) (carry : Bool) : Checked (UInt8 × Flags) := do
  let partly ← sum 16 x.toNat y.toNat
  let total ← sum 16 partly carry.toNat
  let halves ← sum 8 (x.toNat % 0x10) (y.toNat % 0x10)
  let half ← sum 8 halves carry.toNat
  let result := UInt8.ofNat total
  return (result,
    { zero := result == 0, subtract := false, halfCarry := 0x0F < half, carry := 0xFF < total })

/-- The difference of two bytes less a borrow. The byte itself wraps around; what is compared for
the borrows out of it is a word, and a byte for the lower halves. -/
def subtractChecked (x y : UInt8) (borrow : Bool) : Checked (UInt8 × Flags) := do
  let result := x - y - UInt8.ofNat borrow.toNat
  let taken ← sum 16 y.toNat borrow.toNat
  let half ← sum 8 (y.toNat % 0x10) borrow.toNat
  return (result,
    { zero := result == 0, subtract := true, halfCarry := x.toNat % 0x10 < half
      carry := x.toNat < taken })

/-- The byte after another; the carry is kept. -/
def incrementChecked (x : UInt8) (f : Flags) : Checked (UInt8 × Flags) := do
  let (result, g) ← addChecked x 1 false
  return (result, { g with carry := f.carry })

/-- The byte before another; the carry is kept. -/
def decrementChecked (x : UInt8) (f : Flags) : Checked (UInt8 × Flags) := do
  let (result, g) ← subtractChecked x 1 false
  return (result, { g with carry := f.carry })

/-- The sum of two words. The word itself wraps around, and so tells its carry; what is added for
the half carry fits into a word. -/
def addWordsChecked (x y : UInt16) (f : Flags) : Checked (UInt16 × Flags) := do
  let half ← sum 16 (x.toNat % 0x1000) (y.toNat % 0x1000)
  return (x + y,
    { zero := f.zero, subtract := false, halfCarry := 0x0FFF < half
      carry := 0xFFFF < x.toNat + y.toNat })

/-- A word moved by a signed byte, with the carries of the lower byte. -/
def addOffsetChecked (w : UInt16) (e : Int8) : Checked (UInt16 × Flags) := do
  let half ← sum 16 (w.toNat % 0x10) (e.toUInt8.toNat % 0x10)
  let byte ← sum 16 (w.toNat % 0x100) e.toUInt8.toNat
  return (Word.displace w e,
    { zero := false, subtract := false, halfCarry := 0x0F < half, carry := 0xFF < byte })

@[simp] theorem addChecked_eq (x y : UInt8) (carry : Bool) :
    addChecked x y carry = .ok (add x y carry) := by
  have hx := x.toNat_lt
  have hy := y.toNat_lt
  have hc := carry.toNat_le
  unfold addChecked
  rw [sum_eq (by omega), ok_bind, sum_eq (by omega), ok_bind, sum_eq (by omega), ok_bind,
    sum_eq (by omega)]
  rfl

@[simp] theorem subtractChecked_eq (x y : UInt8) (borrow : Bool) :
    subtractChecked x y borrow = .ok (subtract x y borrow) := by
  have hy := y.toNat_lt
  have hb := borrow.toNat_le
  unfold subtractChecked
  rw [sum_eq (by omega), ok_bind, sum_eq (by omega)]
  rfl

@[simp] theorem incrementChecked_eq (x : UInt8) (f : Flags) :
    incrementChecked x f = .ok (increment x f) := by
  rw [incrementChecked, addChecked_eq]
  rfl

@[simp] theorem decrementChecked_eq (x : UInt8) (f : Flags) :
    decrementChecked x f = .ok (decrement x f) := by
  rw [decrementChecked, subtractChecked_eq]
  rfl

@[simp] theorem addWordsChecked_eq (x y : UInt16) (f : Flags) :
    addWordsChecked x y f = .ok (addWords x y f) := by
  rw [addWordsChecked, sum_eq (by omega)]
  rfl

@[simp] theorem addOffsetChecked_eq (w : UInt16) (e : Int8) :
    addOffsetChecked w e = .ok (addOffset w e) := by
  have he := e.toUInt8.toNat_lt
  unfold addOffsetChecked
  rw [sum_eq (by omega), ok_bind, sum_eq (by omega)]
  rfl

/-! ## Single bits -/

/-- The byte that has only bit `n` set. -/
def bitChecked (n : ℕ) : Checked UInt8 := shiftLeft 1 n

@[simp] theorem bitChecked_eq (n : Fin 8) : bitChecked n = .ok (bit n) := shiftLeft_eq 1 n.isLt

end Alu

/-- What becomes of the accumulator and the flags when an operation meets a byte. -/
def Arithmetic.applyChecked (op : Arithmetic) (a x : UInt8) (f : Flags) :
    Checked (UInt8 × Flags) :=
  match op with
  | .add => Alu.addChecked a x false
  | .addWithCarry => Alu.addChecked a x f.carry
  | .subtract => Alu.subtractChecked a x false
  | .subtractWithCarry => Alu.subtractChecked a x f.carry
  | .compare => do
    let (_, g) ← Alu.subtractChecked a x false
    return (a, g)
  | .and | .xor | .or => return op.apply a x f

@[simp] theorem Arithmetic.applyChecked_eq (op : Arithmetic) (a x : UInt8) (f : Flags) :
    op.applyChecked a x f = .ok (op.apply a x f) := by
  cases op with
  | add | addWithCarry => exact Alu.addChecked_eq a x _
  | subtract | subtractWithCarry => exact Alu.subtractChecked_eq a x _
  | compare =>
    rw [applyChecked, Alu.subtractChecked_eq]
    rfl
  | and | xor | or => rfl

/-- The byte after a movement of its bits by one place. The bit that enters on the left is moved
there from the right. -/
def Rotation.resultChecked (op : Rotation) (x : UInt8) (carry : Bool) : Checked UInt8 :=
  let entering := UInt8.ofNat (op.carryIn x carry).toNat
  match op with
  | left | leftThroughCarry | shiftLeft => do
    let moved ← Checked.shiftLeft x 1
    return moved ||| entering
  | right | rightThroughCarry | shiftRightArithmetic | shiftRightLogical => do
    let moved ← shiftRight x 1
    let first ← Checked.shiftLeft entering 7
    return moved ||| first

@[simp] theorem Rotation.resultChecked_eq (op : Rotation) (x : UInt8) (carry : Bool) :
    op.resultChecked x carry = .ok (op.result x carry) := by
  have last (b : Bool) : UInt8.ofNat b.toNat = if b then 0x01 else 0x00 := by cases b <;> rfl
  have first (b : Bool) : UInt8.ofNat b.toNat <<< 7 = if b then 0x80 else 0x00 := by cases b <;> rfl
  cases op with
  | left | leftThroughCarry | shiftLeft =>
    rw [resultChecked, shiftLeft_eq x (by decide), ok_bind, last]
    rfl
  | right | rightThroughCarry | shiftRightArithmetic | shiftRightLogical =>
    rw [resultChecked, shiftRight_eq x (by decide), ok_bind, shiftLeft_eq _ (by decide), ok_bind]
    exact congrArg (fun bit => Except.ok (x >>> 1 ||| bit)) (first _)

end GameBoy
