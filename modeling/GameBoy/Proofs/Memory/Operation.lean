import GameBoy.Memory.Basic

/-!
# Operations on the memory

What the outside of the machine can do with the memory: write bytes and words, count a byte up or
down, load a program, write a hardware register through the page, request or withdraw an
interrupt, and collect the serial output. A program that does not fit into the ROM leaves the
memory as it is.
-/

namespace GameBoy

namespace Memory

/-- An operation on the memory. -/
inductive Operation where
  /-- Writes a byte. -/
  | write (a : UInt16) (v : UInt8)
  /-- Writes a word. -/
  | writeWord (a w : UInt16)
  /-- Adds one to a byte. -/
  | increment (a : UInt16)
  /-- Takes one from a byte. -/
  | decrement (a : UInt16)
  /-- Loads a program. -/
  | load (program : Array UInt8)
  /-- Writes a byte to a place in the page of hardware registers. -/
  | writeIo (i : IoOffset) (v : UInt8)
  /-- Requests an interrupt. -/
  | request (i : Interrupt)
  /-- Withdraws the request of an interrupt. -/
  | withdraw (i : Interrupt)
  /-- Collects the serial output. -/
  | clearSerial
  deriving DecidableEq, Repr

/-- The memory with a program in the ROM, or as it was if the program does not fit. -/
def loadOrKeep (m : Memory) (program : Array UInt8) : Memory :=
  match m.load program with
  | .ok m' => m'
  | .error _ => m

/-- The memory after an operation. -/
def perform (m : Memory) : Operation → Memory
  | .write a v => m.write a v
  | .writeWord a w => m.writeWord a w
  | .increment a => m.increment a
  | .decrement a => m.decrement a
  | .load program => m.loadOrKeep program
  | .writeIo i v => { m with io := m.io.set i v }
  | .request i => m.request i
  | .withdraw i => m.withdraw i
  | .clearSerial => m.clearSerial

/-- The memory after a sequence of operations. -/
def performAll (m : Memory) (ops : List Operation) : Memory := ops.foldl perform m

end Memory

end GameBoy
