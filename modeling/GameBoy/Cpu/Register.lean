/-!
# Registers and register pairs

An instruction names one of seven byte registers, or one of five words: four pairs of registers,
the accumulator's partner being the flags, and the stack pointer. A byte register is encoded in
three bits; the code six stands for the byte in memory at `HL` instead.
-/

namespace GameBoy

/-- A byte register. -/
inductive Register where
  | a | b | c | d | e | h | l
  deriving DecidableEq, Repr

namespace Register

/-- All registers. -/
def all : List Register := [a, b, c, d, e, h, l]

/-- The name of a register. -/
def name : Register → String
  | a => "A" | b => "B" | c => "C" | d => "D" | e => "E" | h => "H" | l => "L"

/-- The register with a given name. -/
def ofName? (s : String) : Option Register := all.find? fun r => r.name == s

/-- The three-bit code of a register. -/
def code : Register → UInt8
  | b => 0 | c => 1 | d => 2 | e => 3 | h => 4 | l => 5 | a => 7

/-- The register encoded in bits 0 to 2 of an opcode, none for the byte at `HL`. -/
def ofLowBits? (opcode : UInt8) : Option Register := all.find? fun r => r.code == opcode &&& 7

/-- The register encoded in bits 3 to 5 of an opcode, none for the byte at `HL`. -/
def ofMiddleBits? (opcode : UInt8) : Option Register := ofLowBits? (opcode >>> 3)

end Register

/-- A word register: a pair of byte registers, the accumulator with the flags, or the stack
pointer. -/
inductive Pair where
  | af | bc | de | hl | sp
  deriving DecidableEq, Repr

namespace Pair

/-- All word registers. -/
def all : List Pair := [af, bc, de, hl, sp]

/-- The name of a word register. -/
def name : Pair → String
  | af => "AF" | bc => "BC" | de => "DE" | hl => "HL" | sp => "SP"

/-- The word register with a given name. -/
def ofName? (s : String) : Option Pair := all.find? fun p => p.name == s

end Pair

end GameBoy
