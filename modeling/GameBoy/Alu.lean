import GameBoy.Cpu.Flags
import GameBoy.Word

/-!
# Arithmetic and logic

The operations on bytes and words behind the instructions, as functions from operands to a result
and flags. Each says exactly which flags it sets; those that keep a flag take the flags from
before.
-/

namespace GameBoy

namespace Alu

/-- The sum of two bytes and a carry. -/
def add (x y : UInt8) (carry : Bool) : UInt8 × Flags :=
  let sum := x.toNat + y.toNat + carry.toNat
  let result := UInt8.ofNat sum
  (result,
    { zero := result == 0
      subtract := false
      halfCarry := 0x0F < x.toNat % 0x10 + y.toNat % 0x10 + carry.toNat
      carry := 0xFF < sum })

/-- The difference of two bytes less a borrow. -/
def subtract (x y : UInt8) (borrow : Bool) : UInt8 × Flags :=
  let result := x - y - UInt8.ofNat borrow.toNat
  (result,
    { zero := result == 0
      subtract := true
      halfCarry := x.toNat % 0x10 < y.toNat % 0x10 + borrow.toNat
      carry := x.toNat < y.toNat + borrow.toNat })

/-- The flags of a bitwise operation: only a conjunction sets the half carry. -/
def logicFlags (result : UInt8) (halfCarry : Bool) : Flags where
  zero := result == 0
  subtract := false
  halfCarry := halfCarry
  carry := false

/-- The byte after another; the carry is kept. -/
def increment (x : UInt8) (f : Flags) : UInt8 × Flags :=
  let (result, g) := add x 1 false
  (result, { g with carry := f.carry })

/-- The byte before another; the carry is kept. -/
def decrement (x : UInt8) (f : Flags) : UInt8 × Flags :=
  let (result, g) := subtract x 1 false
  (result, { g with carry := f.carry })

/-- The sum of two words. The carries are those out of bits 11 and 15, and the zero flag is
kept. -/
def addWords (x y : UInt16) (f : Flags) : UInt16 × Flags :=
  (x + y,
    { zero := f.zero
      subtract := false
      halfCarry := 0x0FFF < x.toNat % 0x1000 + y.toNat % 0x1000
      carry := 0xFFFF < x.toNat + y.toNat })

/-- A word moved by a signed byte. The carries are those of adding the offset as an unsigned byte
to the lower byte of the word. -/
def addOffset (w : UInt16) (e : Int8) : UInt16 × Flags :=
  let offset := e.toUInt8.toNat
  (Word.displace w e,
    { zero := false
      subtract := false
      halfCarry := 0x0F < w.toNat % 0x10 + offset % 0x10
      carry := 0xFF < w.toNat % 0x100 + offset })

/-- Turns the result of adding or subtracting two bytes of two decimal digits each into two decimal
digits. The flags tell which operation it was and where it carried. -/
def decimalAdjust (x : UInt8) (f : Flags) : UInt8 × Flags :=
  let tens := f.carry || (!f.subtract && decide (0x99 < x))
  let ones := f.halfCarry || (!f.subtract && decide (0x09 < x &&& 0x0F))
  let correction := (if tens then 0x60 else 0) + (if ones then 0x06 else 0)
  let result := if f.subtract then x - correction else x + correction
  (result, { zero := result == 0, subtract := f.subtract, halfCarry := false, carry := tens })

/-- The byte that has only bit `n` set. -/
def bit (n : Fin 8) : UInt8 := 1 <<< UInt8.ofNat n.val

/-- The flags that tell whether bit `n` of a byte is clear; the carry is kept. -/
def testBit (n : Fin 8) (x : UInt8) (f : Flags) : Flags where
  zero := x &&& bit n == 0
  subtract := false
  halfCarry := true
  carry := f.carry

/-- A byte with bit `n` set. -/
def setBit (n : Fin 8) (x : UInt8) : UInt8 := x ||| bit n

/-- A byte with bit `n` clear. -/
def resetBit (n : Fin 8) (x : UInt8) : UInt8 := x &&& ~~~bit n

/-- A byte with its halves exchanged. -/
def swap (x : UInt8) : UInt8 := x <<< 4 ||| x >>> 4

end Alu

/-- An operation on the accumulator and another byte. -/
inductive Arithmetic where
  /-- Addition. -/
  | add
  /-- Addition of a byte and the carry. -/
  | addWithCarry
  /-- Subtraction. -/
  | subtract
  /-- Subtraction of a byte and the carry. -/
  | subtractWithCarry
  /-- Bitwise conjunction. -/
  | and
  /-- Bitwise exclusive disjunction. -/
  | xor
  /-- Bitwise disjunction. -/
  | or
  /-- Subtraction for the flags alone. -/
  | compare
  deriving DecidableEq, Repr

/-- What becomes of the accumulator `a` and the flags when an operation meets the byte `x`. -/
def Arithmetic.apply (op : Arithmetic) (a x : UInt8) (f : Flags) : UInt8 × Flags :=
  match op with
  | .add => Alu.add a x false
  | .addWithCarry => Alu.add a x f.carry
  | .subtract => Alu.subtract a x false
  | .subtractWithCarry => Alu.subtract a x f.carry
  | .and => (a &&& x, Alu.logicFlags (a &&& x) true)
  | .xor => (a ^^^ x, Alu.logicFlags (a ^^^ x) false)
  | .or => (a ||| x, Alu.logicFlags (a ||| x) false)
  | .compare => (a, (Alu.subtract a x false).2)

/-- A movement of the bits of a byte by one place. -/
inductive Rotation where
  /-- To the left, the bit that leaves enters on the right. -/
  | left
  /-- To the left through the carry. -/
  | leftThroughCarry
  /-- To the right, the bit that leaves enters on the left. -/
  | right
  /-- To the right through the carry. -/
  | rightThroughCarry
  /-- To the left, zero enters. -/
  | shiftLeft
  /-- To the right, the sign bit stays. -/
  | shiftRightArithmetic
  /-- To the right, zero enters. -/
  | shiftRightLogical
  deriving DecidableEq, Repr

namespace Rotation

/-- The bit that leaves the byte. -/
def carryOut (op : Rotation) (x : UInt8) : Bool :=
  match op with
  | left | leftThroughCarry | shiftLeft => x &&& 0x80 != 0
  | right | rightThroughCarry | shiftRightArithmetic | shiftRightLogical => x &&& 0x01 != 0

/-- The bit that enters the byte, when `carry` is the flag before. -/
def carryIn (op : Rotation) (x : UInt8) (carry : Bool) : Bool :=
  match op with
  | left | right => op.carryOut x
  | leftThroughCarry | rightThroughCarry => carry
  | shiftLeft | shiftRightLogical => false
  | shiftRightArithmetic => x &&& 0x80 != 0

/-- The byte after the movement. -/
def result (op : Rotation) (x : UInt8) (carry : Bool) : UInt8 :=
  match op with
  | left | leftThroughCarry | shiftLeft =>
    x <<< 1 ||| (if op.carryIn x carry then 0x01 else 0x00)
  | right | rightThroughCarry | shiftRightArithmetic | shiftRightLogical =>
    x >>> 1 ||| (if op.carryIn x carry then 0x80 else 0x00)

end Rotation

end GameBoy
