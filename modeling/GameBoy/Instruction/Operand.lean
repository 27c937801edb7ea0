import GameBoy.Cpu.Basic

/-!
# Operands

Where an instruction finds a byte, where it puts one, and on what its execution can depend. A
`Pointer` is a way to name a byte in memory; the other kinds of operand are made from it and from
the byte registers. The accumulator has a form of its own beside its form as a register, because
instructions that imply it can differ from those that name it.
-/

namespace GameBoy

/-- A way to name a byte in memory. -/
inductive Pointer where
  /-- The address in `BC`. -/
  | bc
  /-- The address in `DE`. -/
  | de
  /-- The address in `HL`. -/
  | hl
  /-- The address in `HL`, which moves up afterwards. -/
  | hlUp
  /-- The address in `HL`, which moves down afterwards. -/
  | hlDown
  /-- A given address. -/
  | direct (address : UInt16)
  /-- A given address on the last page. -/
  | highPage (offset : UInt8)
  /-- The address on the last page that register `C` gives. -/
  | highPageC
  deriving DecidableEq, Repr

namespace Pointer

/-- The address that a pointer names. -/
def address (p : Pointer) (c : Cpu) : UInt16 :=
  match p with
  | bc => c.bc
  | de => c.de
  | hl | hlUp | hlDown => c.hl
  | direct a => a
  | highPage n => Word.ofBytes 0xFF n
  | highPageC => Word.ofBytes 0xFF c.c

/-- The processor after a pointer was used. -/
def advance (p : Pointer) (c : Cpu) : Cpu :=
  match p with
  | hlUp => c.setHl (c.hl + 1)
  | hlDown => c.setHl (c.hl - 1)
  | bc | de | hl | direct _ | highPage _ | highPageC => c

end Pointer

/-- A byte that an instruction reads. -/
inductive Source where
  /-- A register. -/
  | register (r : Register)
  /-- The accumulator, implied. -/
  | accumulator
  /-- A byte of the instruction. -/
  | immediate (n : UInt8)
  /-- A byte in memory. -/
  | memory (p : Pointer)
  deriving DecidableEq, Repr

/-- A byte that an instruction writes. -/
inductive Destination where
  /-- A register. -/
  | register (r : Register)
  /-- The accumulator, implied. -/
  | accumulator
  /-- A byte in memory. -/
  | memory (p : Pointer)
  deriving DecidableEq, Repr

/-- A byte that an instruction changes in place. -/
inductive Location where
  /-- A register. -/
  | register (r : Register)
  /-- The accumulator, implied. -/
  | accumulator
  /-- The byte in memory at `HL`. -/
  | atHl
  deriving DecidableEq, Repr

/-- A condition on the flags. -/
inductive Condition where
  /-- The zero flag is clear. -/
  | nz
  /-- The zero flag is set. -/
  | z
  /-- The carry flag is clear. -/
  | nc
  /-- The carry flag is set. -/
  | c
  deriving DecidableEq, Repr

namespace Condition

/-- All conditions. -/
def all : List Condition := [nz, z, nc, c]

/-- The name of a condition. -/
def name : Condition → String
  | nz => "NZ"
  | z => "Z"
  | nc => "NC"
  | c => "C"

/-- The condition with a given name. -/
def ofName? (s : String) : Option Condition := all.find? fun cc => cc.name == s

/-- The condition holds. -/
def holds (cc : Condition) (f : Flags) : Bool :=
  match cc with
  | nz => !f.zero
  | z => f.zero
  | nc => !f.carry
  | c => f.carry

end Condition

end GameBoy
