import GameBoy.Instruction.Basic
import GameBoy.Term

/-!
# Instructions as text

Instructions are shown as terms, with their operands as arguments. Numbers are decimal, offsets
signed. `Instruction.text` shows an instruction and `Instruction.ofText?` reads one.
-/

namespace GameBoy

/-- A number as a term. -/
def Term.ofNat (n : Nat) : Term := .leaf (toString n)

/-- The number that a term shows, if it is below a bound. -/
def Term.toNat? (bound : Nat) : Term → Option Nat
  | .node name [] => do
    let n ← name.toNat?
    if n < bound then some n else none
  | _ => none

/-- The byte that a term shows. -/
def Term.toByte? (t : Term) : Option UInt8 := (t.toNat? 0x100).map UInt8.ofNat

/-- The word that a term shows. -/
def Term.toWord? (t : Term) : Option UInt16 := (t.toNat? 0x10000).map UInt16.ofNat

/-- The bit number that a term shows. -/
def Term.toBit? (t : Term) : Option (Fin 8) :=
  (t.toNat? 8).map fun n => ⟨n % 8, Nat.mod_lt n (by decide)⟩

/-- An offset as a term. -/
def Term.ofOffset (e : Int8) : Term := .leaf (toString e.toInt)

/-- The offset that a term shows. -/
def Term.toOffset? : Term → Option Int8
  | .node name [] => do
    let n ← name.toInt?
    if -0x80 ≤ n ∧ n < 0x80 then some (Int8.ofInt n) else none
  | _ => none

/-- A register as a term. -/
def Register.term (r : Register) : Term := .node "Register" [.leaf r.name]

/-- The register that a term names. -/
def Register.ofTerm? : Term → Option Register
  | .node "Register" [.node name []] => ofName? name
  | _ => none

/-- The word register that a term names. -/
def Pair.ofTerm? : Term → Option Pair
  | .node name [] => ofName? name
  | _ => none

/-- The condition that a term names. -/
def Condition.ofTerm? : Term → Option Condition
  | .node name [] => ofName? name
  | _ => none

/-- A pointer as a term. -/
def Pointer.term : Pointer → Term
  | bc => .leaf "IndirectBC"
  | de => .leaf "IndirectDE"
  | hl => .leaf "IndirectHL"
  | hlUp => .leaf "IndirectHLInc"
  | hlDown => .leaf "IndirectHLDec"
  | direct a => .node "Direct" [.ofNat a.toNat]
  | highPage n => .node "FFDirect" [.ofNat n.toNat]
  | highPageC => .leaf "FFIndirectC"

/-- The pointer that a term names. -/
def Pointer.ofTerm? : Term → Option Pointer
  | .node "IndirectBC" [] => some bc
  | .node "IndirectDE" [] => some de
  | .node "IndirectHL" [] => some hl
  | .node "IndirectHLInc" [] => some hlUp
  | .node "IndirectHLDec" [] => some hlDown
  | .node "Direct" [a] => a.toWord?.map direct
  | .node "FFDirect" [n] => n.toByte?.map highPage
  | .node "FFIndirectC" [] => some highPageC
  | _ => none

/-- A source as a term. -/
def Source.term : Source → Term
  | register r => r.term
  | accumulator => .leaf "Accumulator"
  | immediate n => .node "Immediate" [.ofNat n.toNat]
  | memory p => p.term

/-- The source that a term names. -/
def Source.ofTerm? : Term → Option Source
  | .node "Accumulator" [] => some accumulator
  | .node "Immediate" [n] => n.toByte?.map immediate
  | t => ((Register.ofTerm? t).map register).or ((Pointer.ofTerm? t).map memory)

/-- A destination as a term. -/
def Destination.term : Destination → Term
  | register r => r.term
  | accumulator => .leaf "Accumulator"
  | memory p => p.term

/-- The destination that a term names. -/
def Destination.ofTerm? : Term → Option Destination
  | .node "Accumulator" [] => some accumulator
  | t => ((Register.ofTerm? t).map register).or ((Pointer.ofTerm? t).map memory)

/-- A location as a term. -/
def Location.term : Location → Term
  | register r => r.term
  | accumulator => .leaf "Accumulator"
  | atHl => .leaf "IndirectHL"

/-- The location that a term names. -/
def Location.ofTerm? : Term → Option Location
  | .node "Accumulator" [] => some accumulator
  | .node "IndirectHL" [] => some atHl
  | t => (Register.ofTerm? t).map register

/-- The name of an operation. -/
def Arithmetic.name : Arithmetic → String
  | add => "Add"
  | addWithCarry => "AddWithCarry"
  | subtract => "Subtract"
  | subtractWithCarry => "SubtractWithCarry"
  | and => "And"
  | xor => "Xor"
  | or => "Or"
  | compare => "Compare"

/-- The operation with a given name. -/
def Arithmetic.ofName? (s : String) : Option Arithmetic :=
  [add, addWithCarry, subtract, subtractWithCarry, and, xor, or, compare].find? fun op =>
    op.name == s

/-- The name of a movement of bits. -/
def Rotation.name : Rotation → String
  | left => "RotateLeft"
  | leftThroughCarry => "RotateLeftThruCarry"
  | right => "RotateRight"
  | rightThroughCarry => "RotateRightThruCarry"
  | shiftLeft => "ShiftLeft"
  | shiftRightArithmetic => "ArithmeticShiftRight"
  | shiftRightLogical => "LogicalShiftRight"

/-- The movement of bits with a given name. -/
def Rotation.ofName? (s : String) : Option Rotation :=
  [left, leftThroughCarry, right, rightThroughCarry, shiftLeft, shiftRightArithmetic,
    shiftRightLogical].find? fun op => op.name == s

namespace Instruction

/-- An instruction as a term. -/
def term : Instruction → Term
  | load d s => .node "Load" [d.term, s.term]
  | loadPair p w => .node "LoadRegisterPairImmediate" [.leaf p.name, .ofNat w.toNat]
  | storeSp a => .node "LoadDirectStackPointer" [.ofNat a.toNat]
  | loadSpHl => .leaf "LoadStackPointerHL"
  | loadHlSp e => .node "LoadHLStackPointerOffset" [.ofOffset e]
  | push p => .node "PushStack" [.leaf p.name]
  | pop p => .node "PopStack" [.leaf p.name]
  | arithmetic op s => .node op.name [s.term]
  | increment x => .node "Increment" [x.term]
  | decrement x => .node "Decrement" [x.term]
  | addHl p => .node "AddHLRegister" [.leaf p.name]
  | incrementPair p => .node "IncRegisterPair" [.leaf p.name]
  | decrementPair p => .node "DecRegisterPair" [.leaf p.name]
  | addSp e => .node "AddSPImmediate" [.ofOffset e]
  | rotate op x => .node op.name [x.term]
  | swap x => .node "Swap" [x.term]
  | testBit n s => .node "TestBit" [.ofNat n.val, s.term]
  | setBit n x => .node "SetBit" [.ofNat n.val, x.term]
  | resetBit n x => .node "ResetBit" [.ofNat n.val, x.term]
  | complementCarry => .leaf "ComplementCarryFlag"
  | setCarry => .leaf "SetCarryFlag"
  | decimalAdjust => .leaf "DecimalAdjustAccumulator"
  | complement => .leaf "ComplementAccumulator"
  | jump a => .node "Jump" [.ofNat a.toNat]
  | jumpHl => .leaf "JumpHL"
  | jumpIf cc a => .node "JumpCond" [.leaf cc.name, .ofNat a.toNat]
  | jumpBy e => .node "RelativeJump" [.ofOffset e]
  | jumpByIf cc e => .node "RelativeJumpCond" [.leaf cc.name, .ofOffset e]
  | call a => .node "Call" [.ofNat a.toNat]
  | callIf cc a => .node "CallCond" [.leaf cc.name, .ofNat a.toNat]
  | ret => .leaf "Return"
  | retIf cc => .node "ReturnCond" [.leaf cc.name]
  | retInterrupt => .leaf "ReturnFromInterruptHandler"
  | restart n => .node "RestartCall" [.ofNat n.toNat]
  | halt => .leaf "Halt"
  | stop => .leaf "Stop"
  | disableInterrupts => .leaf "DisableInterrupts"
  | enableInterrupts => .leaf "EnableInterrupts"
  | nop => .leaf "NoOp"

/-- The instruction without operands that has a given name. -/
def ofName? (name : String) : Option Instruction :=
  [loadSpHl, complementCarry, setCarry, decimalAdjust, complement, jumpHl, ret, retInterrupt, halt,
    stop, disableInterrupts, enableInterrupts, nop].find? fun i => i.term.text == name

/-- The instruction with one operand that has a given name. -/
def ofOperand? (name : String) (x : Term) : Option Instruction :=
  match name with
  | "LoadDirectStackPointer" => x.toWord?.map storeSp
  | "LoadHLStackPointerOffset" => x.toOffset?.map loadHlSp
  | "PushStack" => (Pair.ofTerm? x).map push
  | "PopStack" => (Pair.ofTerm? x).map pop
  | "Increment" => (Location.ofTerm? x).map increment
  | "Decrement" => (Location.ofTerm? x).map decrement
  | "AddHLRegister" => (Pair.ofTerm? x).map addHl
  | "IncRegisterPair" => (Pair.ofTerm? x).map incrementPair
  | "DecRegisterPair" => (Pair.ofTerm? x).map decrementPair
  | "AddSPImmediate" => x.toOffset?.map addSp
  | "Swap" => (Location.ofTerm? x).map swap
  | "Jump" => x.toWord?.map jump
  | "RelativeJump" => x.toOffset?.map jumpBy
  | "Call" => x.toWord?.map call
  | "ReturnCond" => (Condition.ofTerm? x).map retIf
  | "RestartCall" => x.toByte?.map restart
  | _ =>
    match Arithmetic.ofName? name, Rotation.ofName? name with
    | some op, _ => (Source.ofTerm? x).map (arithmetic op)
    | none, some op => (Location.ofTerm? x).map (rotate op)
    | none, none => none

/-- The instruction with two operands that has a given name. -/
def ofOperands? (name : String) (x y : Term) : Option Instruction :=
  match name with
  | "Load" => do return load (← Destination.ofTerm? x) (← Source.ofTerm? y)
  | "LoadRegisterPairImmediate" => do return loadPair (← Pair.ofTerm? x) (← y.toWord?)
  | "TestBit" => do return testBit (← x.toBit?) (← Source.ofTerm? y)
  | "SetBit" => do return setBit (← x.toBit?) (← Location.ofTerm? y)
  | "ResetBit" => do return resetBit (← x.toBit?) (← Location.ofTerm? y)
  | "JumpCond" => do return jumpIf (← Condition.ofTerm? x) (← y.toWord?)
  | "RelativeJumpCond" => do return jumpByIf (← Condition.ofTerm? x) (← y.toOffset?)
  | "CallCond" => do return callIf (← Condition.ofTerm? x) (← y.toWord?)
  | _ => none

/-- The instruction that a term shows. -/
def ofTerm? : Term → Option Instruction
  | .node name [] => ofName? name
  | .node name [x] => ofOperand? name x
  | .node name [x, y] => ofOperands? name x y
  | _ => none

/-- An instruction as text. -/
def text (i : Instruction) : String := i.term.text

/-- The instruction that a text shows. -/
def ofText? (s : String) : Option Instruction := (Term.ofText? s).bind ofTerm?

end Instruction

end GameBoy
