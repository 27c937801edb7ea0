import GameBoy.Alu
import GameBoy.Instruction.Operand

/-!
# Instructions

The instructions of the processor, by what they do. How they are encoded is said in
`Instruction.Decode`, how long they take in `Instruction.Cycles`, and what they do in
`Machine.Execute`.
-/

namespace GameBoy

/-- An instruction. -/
inductive Instruction where
  /-- Copies a byte. -/
  | load (d : Destination) (s : Source)
  /-- Puts a given word into a word register. -/
  | loadPair (p : Pair) (w : UInt16)
  /-- Stores the stack pointer at a given address. -/
  | storeSp (address : UInt16)
  /-- Copies `HL` into the stack pointer. -/
  | loadSpHl
  /-- Puts the stack pointer, moved by an offset, into `HL`. -/
  | loadHlSp (e : Int8)
  /-- Pushes a word register. -/
  | push (p : Pair)
  /-- Pops a word register. -/
  | pop (p : Pair)
  /-- Combines the accumulator with a byte. -/
  | arithmetic (op : Arithmetic) (s : Source)
  /-- Adds one to a byte. -/
  | increment (x : Location)
  /-- Takes one from a byte. -/
  | decrement (x : Location)
  /-- Adds a word register to `HL`. -/
  | addHl (p : Pair)
  /-- Adds one to a word register. -/
  | incrementPair (p : Pair)
  /-- Takes one from a word register. -/
  | decrementPair (p : Pair)
  /-- Moves the stack pointer by an offset. -/
  | addSp (e : Int8)
  /-- Moves the bits of a byte by one place. -/
  | rotate (op : Rotation) (x : Location)
  /-- Exchanges the halves of a byte. -/
  | swap (x : Location)
  /-- Tests a bit. -/
  | testBit (n : Fin 8) (s : Source)
  /-- Sets a bit. -/
  | setBit (n : Fin 8) (x : Location)
  /-- Clears a bit. -/
  | resetBit (n : Fin 8) (x : Location)
  /-- Inverts the carry. -/
  | complementCarry
  /-- Sets the carry. -/
  | setCarry
  /-- Makes the result of decimal arithmetic decimal. -/
  | decimalAdjust
  /-- Inverts the accumulator. -/
  | complement
  /-- Jumps to an address. -/
  | jump (address : UInt16)
  /-- Jumps to the address in `HL`. -/
  | jumpHl
  /-- Jumps to an address on a condition. -/
  | jumpIf (cc : Condition) (address : UInt16)
  /-- Jumps by an offset from the next instruction. -/
  | jumpBy (e : Int8)
  /-- Jumps by an offset from the next instruction on a condition. -/
  | jumpByIf (cc : Condition) (e : Int8)
  /-- Calls a routine. -/
  | call (address : UInt16)
  /-- Calls a routine on a condition. -/
  | callIf (cc : Condition) (address : UInt16)
  /-- Returns from a routine. -/
  | ret
  /-- Returns from a routine on a condition. -/
  | retIf (cc : Condition)
  /-- Returns from an interrupt's handler and accepts interrupts again. -/
  | retInterrupt
  /-- Calls a routine on the first page. -/
  | restart (n : UInt8)
  /-- Waits for an interrupt. -/
  | halt
  /-- Waits for a button. -/
  | stop
  /-- Refuses interrupts from the next instruction on. -/
  | disableInterrupts
  /-- Accepts interrupts from the next instruction on. -/
  | enableInterrupts
  /-- Does nothing. -/
  | nop
  deriving DecidableEq, Repr

end GameBoy
