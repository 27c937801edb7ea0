import GameBoy.Memory.Cell
import GameBoy.Memory.IoPage

/-!
# Memory

`Memory` is everything behind the processor's address bus: the stores of the regions and the page
of hardware registers. `read` and `write` go through the cell that an address names; words are kept
with their lower byte first. `load` puts a program into the ROM, all or nothing.
-/

namespace GameBoy

/-- The contents of the address space. -/
structure Memory where
  /-- The program. Nothing protects it from being written. -/
  rom : Vector UInt8 0x8000
  /-- The video RAM. -/
  videoRam : Vector UInt8 0x2000
  /-- The cartridge's RAM. -/
  externalRam : Vector UInt8 0x2000
  /-- The work RAM. -/
  workRam : Vector UInt8 0x2000
  /-- The sprite attributes. -/
  objectMemory : Vector UInt8 0xA0
  /-- The page of hardware registers. -/
  io : IoPage
  /-- The processor's own RAM. -/
  highRam : Vector UInt8 0x7F
  /-- The interrupts that are enabled. -/
  interruptEnable : UInt8
  deriving DecidableEq

/-- A program that does not fit into the ROM. -/
structure ProgramTooLarge where
  /-- The size of the program in bytes. -/
  size : Nat
  deriving DecidableEq, Repr

namespace Memory

/-- The number of bytes in the ROM. -/
def romSize : Nat := 0x8000

/-- What is read where nothing is stored. -/
def openBus : UInt8 := 0xFF

/-- Memory at power-on: zero everywhere but in the hardware registers. -/
def powerOn : Memory where
  rom := Vector.replicate _ 0
  videoRam := Vector.replicate _ 0
  externalRam := Vector.replicate _ 0
  workRam := Vector.replicate _ 0
  objectMemory := Vector.replicate _ 0
  io := IoPage.powerOn
  highRam := Vector.replicate _ 0
  interruptEnable := 0

/-- The byte in a cell. -/
def get (m : Memory) : Cell → UInt8
  | .rom i => getElem m.rom i i.isLt
  | .videoRam i => getElem m.videoRam i i.isLt
  | .externalRam i => getElem m.externalRam i i.isLt
  | .workRam i => getElem m.workRam i i.isLt
  | .objectMemory i => getElem m.objectMemory i i.isLt
  | .unusable => openBus
  | .io i => m.io.get i
  | .highRam i => getElem m.highRam i i.isLt
  | .interruptEnable => m.interruptEnable

/-- Puts a byte into a cell. -/
def set (m : Memory) (c : Cell) (v : UInt8) : Memory :=
  match c with
  | .rom i => { m with rom := m.rom.set i v i.isLt }
  | .videoRam i => { m with videoRam := m.videoRam.set i v i.isLt }
  | .externalRam i => { m with externalRam := m.externalRam.set i v i.isLt }
  | .workRam i => { m with workRam := m.workRam.set i v i.isLt }
  | .objectMemory i => { m with objectMemory := m.objectMemory.set i v i.isLt }
  | .unusable => m
  | .io i => { m with io := m.io.set i v }
  | .highRam i => { m with highRam := m.highRam.set i v i.isLt }
  | .interruptEnable => { m with interruptEnable := v }

/-- A cell holds what was put into it, the page of hardware registers and the missing cell apart. -/
theorem get_set_same (m : Memory) (c : Cell) (v : UInt8) (plain : ∀ i, c ≠ .io i)
    (present : c ≠ .unusable) : (m.set c v).get c = v := by
  cases c <;> simp_all [get, set]

/-- Putting a byte into a cell keeps the others, except that hardware registers can depend on each
other. -/
theorem get_set_of_ne (m : Memory) (c d : Cell) (v : UInt8) (ne : c ≠ d)
    (plain : ∀ i, d ≠ .io i) : (m.set c v).get d = m.get d := by
  cases c <;> cases d <;> simp_all [get, set, Fin.val_inj]

/-- The byte at an address. -/
def read (m : Memory) (a : UInt16) : UInt8 := m.get (Cell.ofAddress a)

/-- Writes a byte to an address. -/
def write (m : Memory) (a : UInt16) (v : UInt8) : Memory := m.set (Cell.ofAddress a) v

/-- The word at an address, lower byte first; the address after the last is the first. -/
def readWord (m : Memory) (a : UInt16) : UInt16 := Word.ofBytes (m.read (a + 1)) (m.read a)

/-- Writes a word to an address: its lower byte, and then its upper byte to the next address. -/
def writeWord (m : Memory) (a : UInt16) (w : UInt16) : Memory :=
  (m.write a (Word.low w)).write (a + 1) (Word.high w)

/-- Adds one to the byte at an address. -/
def increment (m : Memory) (a : UInt16) : Memory := m.write a (m.read a + 1)

/-- Takes one from the byte at an address. -/
def decrement (m : Memory) (a : UInt16) : Memory := m.write a (m.read a - 1)

/-- Puts a program into the ROM and fills the rest of it with zeros. -/
def load (m : Memory) (program : Array UInt8) : Except ProgramTooLarge Memory :=
  if romSize < program.size then .error ⟨program.size⟩
  else .ok { m with rom := Vector.ofFn fun i => program.getD i 0 }

/-- The interrupts that are both requested and enabled. -/
def pendingInterrupts (m : Memory) : UInt8 :=
  m.interruptEnable &&& m.io.requests &&& Interrupt.mask

/-- Requests an interrupt. -/
def request (m : Memory) (i : Interrupt) : Memory := { m with io := m.io.request i }

/-- Withdraws the request of an interrupt. -/
def withdraw (m : Memory) (i : Interrupt) : Memory := { m with io := m.io.withdraw i }

/-- The serial output that nobody has collected yet. -/
def serialOutput (m : Memory) : Array UInt8 := m.io.serialOutput

/-- Empties the serial output. -/
def clearSerial (m : Memory) : Memory := { m with io := m.io.clearSerial }

end Memory

/-- The wording of the error. -/
def ProgramTooLarge.message (e : ProgramTooLarge) : String :=
  s!"program is {e.size} bytes, larger than the ROM capacity of {Memory.romSize} bytes"

end GameBoy
