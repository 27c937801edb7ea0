import GameBoy.Instruction.Decode
import Mathlib.Data.Fin.VecNotation
import Mathlib.Data.Fintype.Basic
import Mathlib.Tactic.FinCases

/-!
# The octal table of the opcodes

Written in octal, an opcode has three digits, and the encoding of the instructions follows them: the
first digit chooses a block, the last a column of it, and the digit between names a register, a
condition or an operation. `Octal.table` states the encoding in this form, with the instruction's
length in bytes. It knows nothing of the grid of sixteen rows by which `Encoding.ofOpcode?` finds
the meaning of an opcode; the main statement is that decoding reads off the octal table all the
same.
-/

namespace GameBoy

namespace Octal

/-! ## What a digit names -/

/-- The byte registers by their codes, where `6` stands for the byte in memory at `HL`. -/
def register? : Fin 8 → Option Register :=
  ![some .b, some .c, some .d, some .e, some .h, some .l, none, some .a]

/-- The byte with a code, as something to be read. -/
def source (i : Fin 8) : Source := (register? i).elim (.memory .hl) .register

/-- The byte with a code, as something to be written. -/
def destination (i : Fin 8) : Destination := (register? i).elim (.memory .hl) .register

/-- The byte with a code, as something to be changed in place. -/
def location (i : Fin 8) : Location := (register? i).elim .atHl .register

/-- The word registers. -/
def pair : Fin 4 → Pair := ![.bc, .de, .hl, .sp]

/-- The word registers that can be pushed and popped. -/
def stackPair : Fin 4 → Pair := ![.bc, .de, .hl, .af]

/-- The pointers by which the accumulator is loaded and stored. -/
def pointer : Fin 4 → Pointer := ![.bc, .de, .hlUp, .hlDown]

/-- The conditions. -/
def condition : Fin 4 → Condition := ![.nz, .z, .nc, .c]

/-- The operations on the accumulator. -/
def operation : Fin 8 → Arithmetic :=
  ![.add, .addWithCarry, .subtract, .subtractWithCarry, .and, .xor, .or, .compare]

/-- The movements of bits in a byte. -/
def movement : Fin 8 → Location → Instruction :=
  ![.rotate .left, .rotate .right, .rotate .leftThroughCarry, .rotate .rightThroughCarry,
    .rotate .shiftLeft, .rotate .shiftRightArithmetic, .swap, .rotate .shiftRightLogical]

/-- The instructions on the accumulator and the flags that need no operand. -/
def adjustment : Fin 8 → Instruction :=
  ![.rotate .left .accumulator, .rotate .right .accumulator,
    .rotate .leftThroughCarry .accumulator, .rotate .rightThroughCarry .accumulator,
    .decimalAdjust, .complement, .setCarry, .complementCarry]

/-- The returns and the uses of `HL` as an address. -/
def departure : Fin 4 → Instruction := ![.ret, .retInterrupt, .jumpHl, .loadSpHl]

/-- The first part of a middle digit, which is made of two. -/
def half (y : Fin 8) : Fin 4 := ⟨y / 2, by omega⟩

/-- The second part of a middle digit is zero. -/
def Even (y : Fin 8) : Prop := y.val % 2 = 0

instance (y : Fin 8) : Decidable (Even y) := inferInstanceAs (Decidable (_ = _))

/-! ## The table -/

section Table

variable (x : Fin 4) (y z : Fin 8) (n : UInt8) (nn : UInt16)

/-- The first block: short jumps, loads of constants, pointers, counting, adjustments. The byte
after the opcode is `n`, and the word after it `nn`. -/
def firstBlock : Instruction × UInt16 :=
  match z with
  | 0 =>
    match y with
    | 0 => (.nop, 1)
    | 1 => (.storeSp nn, 3)
    | 2 => (.stop, 2)
    | 3 => (.jumpBy n.toInt8, 2)
    | y => (.jumpByIf (condition ⟨y - 4, by omega⟩) n.toInt8, 2)
  | 1 => if Even y then (.loadPair (pair (half y)) nn, 3) else (.addHl (pair (half y)), 1)
  | 2 =>
    if Even y then (.load (.memory (pointer (half y))) .accumulator, 1)
    else (.load .accumulator (.memory (pointer (half y))), 1)
  | 3 => if Even y then (.incrementPair (pair (half y)), 1) else (.decrementPair (pair (half y)), 1)
  | 4 => (.increment (location y), 1)
  | 5 => (.decrement (location y), 1)
  | 6 => (.load (destination y) (.immediate n), 2)
  | 7 => (adjustment y, 1)

/-- The second block: loads. In the place of the load from memory to itself stands the wait for an
interrupt. -/
def secondBlock : Instruction × UInt16 :=
  if y.val = 6 ∧ z.val = 6 then (.halt, 1) else (.load (destination y) (source z), 1)

/-- The third block: operations on the accumulator. -/
def thirdBlock : Instruction × UInt16 := (.arithmetic (operation y) (source z), 1)

/-- The table behind the prefix. -/
def extended : Instruction :=
  match x with
  | 0 => movement y (location z)
  | 1 => .testBit y (source z)
  | 2 => .resetBit y (location z)
  | 3 => .setBit y (location z)

/-- The digits of a byte in octal. -/
def digits (v : UInt8) : Fin 4 × Fin 8 × Fin 8 :=
  have := v.toNat_lt
  (⟨v.toNat / 64, by omega⟩, ⟨v.toNat / 8 % 8, by omega⟩, ⟨v.toNat % 8, by omega⟩)

/-- The fourth block: jumps, calls and returns, the stack, the last page, the prefix, constants in
arithmetic. Eleven places are empty. -/
def fourthBlock? : Option (Instruction × UInt16) :=
  match z with
  | 0 =>
    if h : y.val < 4 then some (.retIf (condition ⟨y, h⟩), 1)
    else if y.val = 4 then some (.load (.memory (.highPage n)) .accumulator, 2)
    else if y.val = 5 then some (.addSp n.toInt8, 2)
    else if y.val = 6 then some (.load .accumulator (.memory (.highPage n)), 2)
    else some (.loadHlSp n.toInt8, 2)
  | 1 => if Even y then some (.pop (stackPair (half y)), 1) else some (departure (half y), 1)
  | 2 =>
    if h : y.val < 4 then some (.jumpIf (condition ⟨y, h⟩) nn, 3)
    else if y.val = 4 then some (.load (.memory .highPageC) .accumulator, 1)
    else if y.val = 5 then some (.load (.memory (.direct nn)) .accumulator, 3)
    else if y.val = 6 then some (.load .accumulator (.memory .highPageC), 1)
    else some (.load .accumulator (.memory (.direct nn)), 3)
  | 3 =>
    if y.val = 0 then some (.jump nn, 3)
    else if y.val = 1 then some (extended (digits n).1 (digits n).2.1 (digits n).2.2, 2)
    else if y.val = 6 then some (.disableInterrupts, 1)
    else if y.val = 7 then some (.enableInterrupts, 1)
    else none
  | 4 => if h : y.val < 4 then some (.callIf (condition ⟨y, h⟩) nn, 3) else none
  | 5 =>
    if Even y then some (.push (stackPair (half y)), 1)
    else if y.val = 1 then some (.call nn, 3)
    else none
  | 6 => some (.arithmetic (operation y) (.immediate n), 2)
  | 7 => some (.restart (UInt8.ofNat (8 * y)), 1)

/-- The instruction at an opcode with the digits `x`, `y`, `z`, and its length in bytes. -/
def table : Option (Instruction × UInt16) :=
  match x with
  | 0 => some (firstBlock y z n nn)
  | 1 => some (secondBlock y z)
  | 2 => some (thirdBlock y z)
  | 3 => fourthBlock? y z n nn

end Table

/-! ## The digits of an opcode -/

/-- The byte with given digits in octal. -/
def code (x : Fin 4) (y z : Fin 8) : UInt8 := UInt8.ofNat (64 * x + 8 * y + z)

/-- A byte is determined by its digits. -/
lemma eq_code {v : UInt8} {x : Fin 4} {y z : Fin 8}
    (h : v.toNat = 64 * x.val + 8 * y.val + z.val) : v = code x y z := by
  rw [code, ← h, UInt8.ofNat_toNat]

/-- A byte is that of its digits. -/
lemma code_digits (v : UInt8) : code (digits v).1 (digits v).2.1 (digits v).2.2 = v := by
  refine (eq_code ?_).symm
  simp only [digits]
  omega

variable (x : Fin 4) (y z : Fin 8)

/-- The value of a byte is that of its digits in base eight. -/
lemma toNat_code : (code x y z).toNat = 64 * x + 8 * y + z := by
  have small : 64 * x.val + 8 * y.val + z.val < 2 ^ 8 := by omega
  exact UInt8.toNat_ofNat_of_lt' small

/-- The last digit is in the lower three bits. -/
lemma ofLowBits?_eq_register? : Register.ofLowBits? (code x y z) = register? z := by
  have last : code x y z &&& 7 = UInt8.ofNat z := by
    have small : z.val < 2 ^ 8 := by omega
    rw [← UInt8.toNat_inj, UInt8.toNat_and, toNat_code, UInt8.toNat_ofNat_of_lt' small]
    refine (Nat.and_two_pow_sub_one_eq_mod _ 3).trans ?_
    omega
  unfold Register.ofLowBits?
  rw [last]
  fin_cases z <;> rfl

/-- The middle digit is in the middle three bits. -/
lemma ofMiddleBits?_eq_register? : Register.ofMiddleBits? (code x y z) = register? y := by
  have moved : code x y z >>> 3 = code 0 ⟨x, by omega⟩ y := by
    rw [← UInt8.toNat_inj, UInt8.toNat_shiftRight, toNat_code, toNat_code]
    refine (Nat.shiftRight_eq_div_pow _ 3).trans ?_
    simp only [Fin.val_zero]
    omega
  rw [Register.ofMiddleBits?, moved, ofLowBits?_eq_register?]

/-- The middle digit is the number of a bit. -/
lemma bitNumber_code : Opcode.bitNumber (code x y z) = y := by
  have value : (code x y z).toNat / 8 % 8 = y.val := by
    rw [toNat_code]
    omega
  exact Fin.ext value

/-- The first digit is the block. -/
lemma code_lt_iff :
    (code x y z < 0x40 ↔ x = 0) ∧ (code x y z < 0x80 ↔ x < 2) ∧ (code x y z < 0xC0 ↔ x < 3) := by
  simp only [UInt8.lt_iff_toNat_lt, toNat_code, UInt8.reduceToNat, Fin.ext_iff, Fin.lt_def]
  refine ⟨?_, ?_, ?_⟩ <;> omega

/-- Where the wait for an interrupt is found. -/
lemma code_eq_halt_iff : code x y z = 0x76 ↔ x = 1 ∧ y.val = 6 ∧ z.val = 6 := by
  simp only [← UInt8.toNat_inj, toNat_code, UInt8.reduceToNat, Fin.ext_iff]
  omega

lemma source_code : Opcode.source (code x y z) = source z := by
  rw [Opcode.source, ofLowBits?_eq_register?, source]
  cases register? z <;> rfl

lemma location_code : Opcode.location (code x y z) = location z := by
  rw [Opcode.location, ofLowBits?_eq_register?, location]
  cases register? z <;> rfl

lemma middleDestination_code : Opcode.middleDestination (code x y z) = destination y := by
  rw [Opcode.middleDestination, ofMiddleBits?_eq_register?, destination]
  cases register? y <;> rfl

lemma arithmetic_code : Opcode.arithmetic (code x y z) = operation y := by
  rw [Opcode.arithmetic, bitNumber_code]
  fin_cases y <;> rfl

/-! ## Block by block -/

/-- Behind the prefix, the digits mean what the table says. -/
lemma prefixed_code : Instruction.prefixed (code x y z) = extended x y z := by
  obtain ⟨first, second, third⟩ := code_lt_iff x y z
  unfold Instruction.prefixed extended
  rw [bitNumber_code, source_code, location_code]
  simp only [first, second, third]
  match x with
  | 0 => fin_cases y <;> rfl
  | 1 | 2 | 3 => rfl

/-- What an encoding stands for when its operand is at an address, with its length. -/
def reading (m : Memory) (a : UInt16) (e : Encoding) : Instruction × UInt16 :=
  (e.complete m a, e.length)

variable (m : Memory) (a : UInt16)

lemma reading_firstBlock :
    (Encoding.ofOpcode? (code 0 y z)).map (reading m a) =
      some (firstBlock y z (m.read a) (m.readWord a)) := by
  -- The grid keeps its rows apart by the middle digit, so nothing short of an entry compares.
  fin_cases z <;> fin_cases y <;> rfl

lemma reading_secondBlock :
    (Encoding.ofOpcode? (code 1 y z)).map (reading m a) = some (secondBlock y z) := by
  obtain ⟨first, second, -⟩ := code_lt_iff 1 y z
  unfold Encoding.ofOpcode? secondBlock
  rw [if_neg (by rw [first]; decide), if_pos (second.2 (by decide)), middleDestination_code,
    source_code]
  simp only [code_eq_halt_iff, true_and]
  split_ifs <;> rfl

lemma reading_thirdBlock :
    (Encoding.ofOpcode? (code 2 y z)).map (reading m a) = some (thirdBlock y z) := by
  obtain ⟨first, second, third⟩ := code_lt_iff 2 y z
  have wait : code 2 y z ≠ 0x76 := by
    rw [ne_eq, code_eq_halt_iff]
    exact fun h => absurd h.1 (by decide)
  unfold Encoding.ofOpcode? thirdBlock
  rw [if_neg (by rw [first]; decide), if_neg wait, if_neg (by rw [second]; decide),
    if_pos (third.2 (by decide)), arithmetic_code, source_code]
  rfl

lemma reading_fourthBlock :
    (Encoding.ofOpcode? (code 3 y z)).map (reading m a) =
      fourthBlock? y z (m.read a) (m.readWord a) := by
  have behindPrefix (v : UInt8) :
      Instruction.prefixed v = extended (digits v).1 (digits v).2.1 (digits v).2.2 := by
    rw [← prefixed_code, code_digits]
  fin_cases z <;> fin_cases y <;>
    first
    | rfl
    | exact congrArg (fun i => some (i, 2)) (behindPrefix _)

/-- The table says of the digits what the encoding says of the opcode. -/
lemma reading_code :
    (Encoding.ofOpcode? (code x y z)).map (reading m a) =
      table x y z (m.read a) (m.readWord a) := by
  match x with
  | 0 => exact reading_firstBlock y z m a
  | 1 => exact reading_secondBlock y z m a
  | 2 => exact reading_thirdBlock y z m a
  | 3 => exact reading_fourthBlock y z m a

/-- Decoding reads off the table at the digits of the opcode. -/
lemma decode_code {m : Memory} {pc : UInt16} {x : Fin 4} {y z : Fin 8}
    (h : m.read pc = code x y z) :
    Instruction.decode m pc =
      match table x y z (m.read (pc + 1)) (m.readWord (pc + 1)) with
      | some (i, length) => .ok (i, pc + length)
      | none => .error ⟨m.read pc, pc⟩ := by
  rw [← reading_code, ← h, Instruction.decode]
  cases Encoding.ofOpcode? (m.read pc) <;> rfl

end Octal

/-- **Decoding reads off the octal table.** Whatever the memory holds and wherever the opcode is,
the instruction found is that of the table at the opcode's digits, completed by the byte or the word
behind the opcode, and the next instruction follows it; in an empty place of the table the opcode
has no meaning. Addresses wrap around. -/
theorem decode_eq_octalTable (m : Memory) (pc : UInt16) (x : Fin 4) (y z : Fin 8)
    (h : (m.read pc).toNat = 64 * x.val + 8 * y.val + z.val) :
    Instruction.decode m pc =
      match Octal.table x y z (m.read (pc + 1))
        (Word.ofBytes (m.read (pc + 2)) (m.read (pc + 1))) with
      | some (i, length) => .ok (i, pc + length)
      | none => .error ⟨m.read pc, pc⟩ := by
  have next : pc + 1 + 1 = pc + 2 := UInt16.add_assoc pc 1 1
  rw [← next, Octal.decode_code (Octal.eq_code h)]
  rfl

/-- A jump whose opcode is at the last address and whose operand is at the first two. -/
theorem decode_eq_octalTable_wrapped :
    (((Memory.powerOn.write 0xFFFF 0xC3).writeWord 0x0000 0x1234).read 0xFFFF).toNat =
        64 * 3 + 8 * 0 + 3 ∧
      Instruction.decode ((Memory.powerOn.write 0xFFFF 0xC3).writeWord 0x0000 0x1234) 0xFFFF =
        .ok (.jump 0x1234, 0x0002) := by
  have opcode : (((Memory.powerOn.write 0xFFFF 0xC3).writeWord 0x0000 0x1234).read 0xFFFF).toNat =
      64 * 3 + 8 * 0 + 3 := by decide +kernel
  have operand : Word.ofBytes
      (((Memory.powerOn.write 0xFFFF 0xC3).writeWord 0x0000 0x1234).read (0xFFFF + 2))
      (((Memory.powerOn.write 0xFFFF 0xC3).writeWord 0x0000 0x1234).read (0xFFFF + 1)) =
        0x1234 := by
    decide +kernel
  refine ⟨opcode, ?_⟩
  rw [decode_eq_octalTable _ 0xFFFF 3 0 3 opcode, operand]
  rfl

end GameBoy
