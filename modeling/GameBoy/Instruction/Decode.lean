import GameBoy.Hex
import GameBoy.Instruction.Opcode
import GameBoy.Memory.Basic

/-!
# Decoding

`Instruction.decode` finds the instruction at an address and the address of the next one. Memory is
only read, and the bytes after the opcode are taken as data if the encoding asks for them; an
instruction at the end of the address space continues at its beginning.
-/

namespace GameBoy

/-- An opcode without a meaning. -/
structure IllegalOpcode where
  /-- The opcode. -/
  opcode : UInt8
  /-- Where it was found. -/
  pc : UInt16
  deriving DecidableEq, Repr

/-- The wording of the error. -/
def IllegalOpcode.message (e : IllegalOpcode) : String :=
  s!"illegal opcode {Hex.byte e.opcode} at address {Hex.word e.pc}"

/-- The instruction of an encoding, completed by the bytes from an address on. -/
def Encoding.complete (e : Encoding) (m : Memory) (a : UInt16) : Instruction :=
  match e with
  | alone i => i
  | withByte f => f (m.read a)
  | withWord f => f (m.readWord a)

/-- The instruction at an address, and the address of the next one. -/
def Instruction.decode (m : Memory) (pc : UInt16) :
    Except IllegalOpcode (Instruction × UInt16) :=
  let opcode := m.read pc
  match Encoding.ofOpcode? opcode with
  | some e => .ok (e.complete m (pc + 1), pc + e.length)
  | none => .error ⟨opcode, pc⟩

end GameBoy
