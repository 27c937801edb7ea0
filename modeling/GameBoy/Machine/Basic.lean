import GameBoy.Hex
import GameBoy.Instruction.Basic
import GameBoy.Memory.Basic

/-!
# The machine

A `Machine` is the processor together with the memory it runs against. This file holds what
instructions are made of: reading and writing their operands, and the stack, which grows downwards
and keeps the lower byte of a word at the lower address.
-/

namespace GameBoy

/-- A processor and its memory. -/
structure Machine where
  /-- The processor. -/
  cpu : Cpu
  /-- The memory. -/
  memory : Memory
  /-- The clock cycles that the last step took. -/
  lastCycles : Nat
  deriving DecidableEq

namespace Machine

/-- The machine at power-on. -/
def powerOn : Machine where
  cpu := Cpu.powerOn
  memory := Memory.powerOn
  lastCycles := 0

/-- Changes the memory. -/
def write (m : Machine) (a : UInt16) (v : UInt8) : Machine :=
  { m with memory := m.memory.write a v }

/-- Changes the accumulator and the flags. -/
def setResult (m : Machine) (v : UInt8) (f : Flags) : Machine :=
  { m with cpu := { m.cpu with a := v, flags := f } }

/-- Changes the flags. -/
def setFlags (m : Machine) (f : Flags) : Machine := { m with cpu := { m.cpu with flags := f } }

/-- Goes on at an address. -/
def goto (m : Machine) (a : UInt16) : Machine := { m with cpu := { m.cpu with pc := a } }

/-! ## Operands -/

/-- The byte that a source yields. -/
def readSource (m : Machine) : Source → UInt8
  | .register r => m.cpu.get r
  | .accumulator => m.cpu.a
  | .immediate n => n
  | .memory p => m.memory.read (p.address m.cpu)

/-- The machine after a source was read: only a moving pointer leaves a trace. -/
def afterSource (m : Machine) : Source → Machine
  | .memory p => { m with cpu := p.advance m.cpu }
  | .register _ | .accumulator | .immediate _ => m

/-- Puts a byte where a destination says. -/
def store (m : Machine) (d : Destination) (v : UInt8) : Machine :=
  match d with
  | .register r => { m with cpu := m.cpu.set r v }
  | .accumulator => { m with cpu := { m.cpu with a := v } }
  | .memory p =>
    let a := p.address m.cpu
    { m with cpu := p.advance m.cpu, memory := m.memory.write a v }

/-- The byte at a location. -/
def byteAt (m : Machine) : Location → UInt8
  | .register r => m.cpu.get r
  | .accumulator => m.cpu.a
  | .atHl => m.memory.read m.cpu.hl

/-- Replaces the byte at a location and the flags. -/
def replace (m : Machine) (x : Location) (v : UInt8) (f : Flags) : Machine :=
  match x with
  | .register r => { m with cpu := { m.cpu.set r v with flags := f } }
  | .accumulator => m.setResult v f
  | .atHl => (m.write m.cpu.hl v).setFlags f

/-! ## The stack -/

/-- Pushes a word: its upper byte goes below the last word, and its lower byte below that. -/
def push (m : Machine) (w : UInt16) : Machine :=
  let a := m.cpu.sp - 1
  let b := m.cpu.sp - 2
  { m with
    cpu := { m.cpu with sp := b }
    memory := (m.memory.write a (Word.high w)).write b (Word.low w) }

/-- The word on top of the stack. -/
def top (m : Machine) : UInt16 :=
  Word.ofBytes (m.memory.read (m.cpu.sp + 1)) (m.memory.read m.cpu.sp)

/-- Removes the word on top of the stack. -/
def drop (m : Machine) : Machine := { m with cpu := { m.cpu with sp := m.cpu.sp + 2 } }

/-- Pushes the address of the next instruction and goes on at another. -/
def call (m : Machine) (a : UInt16) : Machine := (m.push m.cpu.pc).goto a

/-- Goes on at the address on top of the stack, which is removed. -/
def ret (m : Machine) : Machine := m.drop.goto m.top

end Machine

end GameBoy
