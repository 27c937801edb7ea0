import GameBoy.Instruction.Basic

/-!
# Opcodes

The first byte of an instruction, its opcode, determines how many bytes follow and what they mean.
`Encoding.ofOpcode?` states this as the grid in which the opcodes are commonly laid out, sixteen
rows by the upper digit and sixteen columns by the lower. The first and the last four rows repeat
their columns, so that a column is written once with the four entries that fill it; the eight rows
between encode two operands each. Opcode `0xCB` is a prefix: the byte after it selects one of 256
further instructions, `Instruction.prefixed`.
-/

namespace GameBoy

/-- What an opcode says: an instruction, or how the bytes after the opcode complete it. -/
inductive Encoding where
  /-- The opcode is the whole instruction. -/
  | alone (i : Instruction)
  /-- A byte follows. -/
  | withByte (f : UInt8 → Instruction)
  /-- A word follows, lower byte first. -/
  | withWord (f : UInt16 → Instruction)

namespace Encoding

/-- The number of bytes of the instruction, the opcode included. -/
def length : Encoding → UInt16
  | alone _ => 1
  | withByte _ => 2
  | withWord _ => 3

/-- A signed byte follows. -/
def withOffset (f : Int8 → Instruction) : Encoding := withByte fun n => f n.toInt8

end Encoding

namespace Opcode

/-- The place of an opcode's row in its group of four. -/
def row (op : UInt8) : Fin 4 := Fin.ofNat 4 (op.toNat / 0x10)

/-- The entry of a column for one of four rows. -/
def entry {α : Type} (r : Fin 4) (first second third fourth : α) : α :=
  match r with
  | 0 => first
  | 1 => second
  | 2 => third
  | 3 => fourth

/-- The source encoded in the lower three bits. -/
def source (op : UInt8) : Source :=
  match Register.ofLowBits? op with
  | some r => .register r
  | none => .memory .hl

/-- The place encoded in the lower three bits. -/
def location (op : UInt8) : Location :=
  match Register.ofLowBits? op with
  | some r => .register r
  | none => .atHl

/-- The destination encoded in the middle three bits. -/
def middleDestination (op : UInt8) : Destination :=
  match Register.ofMiddleBits? op with
  | some r => .register r
  | none => .memory .hl

/-- The place encoded in the middle three bits. -/
def middleLocation (op : UInt8) : Location :=
  match Register.ofMiddleBits? op with
  | some r => .register r
  | none => .atHl

/-- The bit number in the middle three bits. -/
def bitNumber (op : UInt8) : Fin 8 := Fin.ofNat 8 (op.toNat / 8)

/-- The operation encoded in the middle three bits. -/
def arithmetic (op : UInt8) : Arithmetic :=
  match bitNumber op with
  | 0 => .add
  | 1 => .addWithCarry
  | 2 => .subtract
  | 3 => .subtractWithCarry
  | 4 => .and
  | 5 => .xor
  | 6 => .or
  | 7 => .compare

/-- The word register in a row, where the fourth is the stack pointer. -/
def pair (r : Fin 4) : Pair := entry r .bc .de .hl .sp

/-- The word register in a row, where the fourth is the accumulator with the flags. -/
def stackPair (r : Fin 4) : Pair := entry r .bc .de .hl .af

/-- The pointer in a row. -/
def pointer (r : Fin 4) : Pointer := entry r .bc .de .hlUp .hlDown

end Opcode

open Opcode

/-- The instruction that the byte after the prefix stands for: by quarters, a movement of bits, a
test, a clearing or a setting of a bit. -/
def Instruction.prefixed (op : UInt8) : Instruction :=
  if op < 0x40 then
    match bitNumber op with
    | 0 => .rotate .left (location op)
    | 1 => .rotate .right (location op)
    | 2 => .rotate .leftThroughCarry (location op)
    | 3 => .rotate .rightThroughCarry (location op)
    | 4 => .rotate .shiftLeft (location op)
    | 5 => .rotate .shiftRightArithmetic (location op)
    | 6 => .swap (location op)
    | 7 => .rotate .shiftRightLogical (location op)
  else if op < 0x80 then .testBit (bitNumber op) (source op)
  else if op < 0xC0 then .resetBit (bitNumber op) (location op)
  else .setBit (bitNumber op) (location op)

namespace Encoding

/-- Rows `0` to `3`: loads of constants, pointers, counting, turns of the accumulator, short
jumps. -/
def ofFirstRows (op : UInt8) : Encoding :=
  let r := row op
  match op &&& 0x0F with
  | 0x0 => entry r (alone .nop) (withByte fun _ => .stop)
      (withOffset (.jumpByIf .nz)) (withOffset (.jumpByIf .nc))
  | 0x1 => withWord (.loadPair (pair r))
  | 0x2 => alone (.load (.memory (pointer r)) .accumulator)
  | 0x3 => alone (.incrementPair (pair r))
  | 0x4 | 0xC => alone (.increment (middleLocation op))
  | 0x5 | 0xD => alone (.decrement (middleLocation op))
  | 0x6 | 0xE => withByte fun n => .load (middleDestination op) (.immediate n)
  | 0x7 => alone (entry r (.rotate .left .accumulator) (.rotate .leftThroughCarry .accumulator)
      .decimalAdjust .setCarry)
  | 0x8 => entry r (withWord .storeSp) (withOffset .jumpBy)
      (withOffset (.jumpByIf .z)) (withOffset (.jumpByIf .c))
  | 0x9 => alone (.addHl (pair r))
  | 0xA => alone (.load .accumulator (.memory (pointer r)))
  | 0xB => alone (.decrementPair (pair r))
  | _ => alone (entry r (.rotate .right .accumulator) (.rotate .rightThroughCarry .accumulator)
      .complement .complementCarry)

/-- Rows `C` to `F`: jumps, calls and returns, the stack, constants in arithmetic, the last page.
Eleven of their opcodes have no meaning. -/
def ofLastRows? (op : UInt8) : Option Encoding :=
  let r := row op
  match op &&& 0x0F with
  | 0x0 => entry r (alone (.retIf .nz)) (alone (.retIf .nc))
      (withByte fun n => .load (.memory (.highPage n)) .accumulator)
      (withByte fun n => .load .accumulator (.memory (.highPage n)))
  | 0x1 => some (alone (.pop (stackPair r)))
  | 0x2 => entry r (withWord (.jumpIf .nz)) (withWord (.jumpIf .nc))
      (alone (.load (.memory .highPageC) .accumulator))
      (alone (.load .accumulator (.memory .highPageC)))
  | 0x3 => entry r (some (withWord .jump)) none none (some (alone .disableInterrupts))
  | 0x4 => entry r (some (withWord (.callIf .nz))) (some (withWord (.callIf .nc))) none none
  | 0x5 => some (alone (.push (stackPair r)))
  | 0x6 | 0xE => withByte fun n => .arithmetic (arithmetic op) (.immediate n)
  | 0x7 | 0xF => some (alone (.restart (op &&& 0x38)))
  | 0x8 => entry r (alone (.retIf .z)) (alone (.retIf .c)) (withOffset .addSp)
      (withOffset .loadHlSp)
  | 0x9 => some (alone (entry r .ret .retInterrupt .jumpHl .loadSpHl))
  | 0xA => entry r (withWord (.jumpIf .z)) (withWord (.jumpIf .c))
      (withWord fun a => .load (.memory (.direct a)) .accumulator)
      (withWord fun a => .load .accumulator (.memory (.direct a)))
  | 0xB => entry r (some (withByte Instruction.prefixed)) none none
      (some (alone .enableInterrupts))
  | 0xC => entry r (some (withWord (.callIf .z))) (some (withWord (.callIf .c))) none none
  | _ => entry r (some (withWord .call)) none none none

/-- The meaning of an opcode, none if it has no meaning. -/
def ofOpcode? (op : UInt8) : Option Encoding :=
  if op < 0x40 then some (ofFirstRows op)
  else if op = 0x76 then some (alone .halt)
  else if op < 0x80 then some (alone (.load (middleDestination op) (source op)))
  else if op < 0xC0 then some (alone (.arithmetic (arithmetic op) (source op)))
  else ofLastRows? op

end Encoding

end GameBoy
