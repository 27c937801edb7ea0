import GameBoy.Instruction.Basic

/-!
# The duration of instructions

How many clock cycles an instruction takes. Each access to memory takes four, the fetch of the
instruction's bytes included, and some instructions take further time inside the processor. A
conditional instruction takes longer when its condition holds.
-/

namespace GameBoy

/-- The cycles for reaching a byte in memory, with the fetch of its address. -/
def Pointer.cycles : Pointer → Nat
  | .bc | .de | .hl | .hlUp | .hlDown | .highPageC => 4
  | .highPage _ => 8
  | .direct _ => 12

/-- The cycles for reading a byte. -/
def Source.cycles : Source → Nat
  | .register _ | .accumulator => 0
  | .immediate _ => 4
  | .memory p => p.cycles

/-- The cycles for writing a byte. -/
def Destination.cycles : Destination → Nat
  | .register _ | .accumulator => 0
  | .memory p => p.cycles

/-- The cycles of an instruction behind the opcode prefix that changes a byte in place; the forms
that imply the accumulator have no prefix. -/
def Location.prefixedCycles : Location → Nat
  | .accumulator => 4
  | .register _ => 8
  | .atHl => 16

/-- The cycles of an increment or a decrement. -/
def Location.cycles : Location → Nat
  | .accumulator | .register _ => 4
  | .atHl => 12

/-- The cycles that an instruction takes when the flags are `f` before it. -/
def Instruction.cycles (i : Instruction) (f : Flags) : Nat :=
  match i with
  | .load d s => 4 + d.cycles + s.cycles
  | .arithmetic _ s => 4 + s.cycles
  | .increment x | .decrement x => x.cycles
  | .rotate _ x | .swap x | .setBit _ x | .resetBit _ x => x.prefixedCycles
  | .testBit _ s => 8 + s.cycles
  | .complementCarry | .setCarry | .decimalAdjust | .complement | .jumpHl | .halt | .stop
  | .disableInterrupts | .enableInterrupts | .nop => 4
  | .loadSpHl | .addHl _ | .incrementPair _ | .decrementPair _ => 8
  | .loadPair _ _ | .pop _ | .loadHlSp _ | .jumpBy _ => 12
  | .push _ | .addSp _ | .jump _ | .ret | .retInterrupt | .restart _ => 16
  | .storeSp _ => 20
  | .call _ => 24
  | .jumpIf cc _ => if cc.holds f then 16 else 12
  | .jumpByIf cc _ => if cc.holds f then 12 else 8
  | .callIf cc _ => if cc.holds f then 24 else 12
  | .retIf cc => if cc.holds f then 20 else 8

end GameBoy
