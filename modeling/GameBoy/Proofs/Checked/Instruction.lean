import GameBoy.Machine.Step
import GameBoy.Proofs.Checked.Memory
import GameBoy.Proofs.Instruction.Encodable

/-!
# Checked instructions

Decoding an instruction, counting its cycles and executing it, carried out with checks. The
execution of an instruction that tests, sets or clears a bit moves a byte by the number of the bit
and does not ask whether there is such a bit: it relies on the decoder, which takes the number out
of three bits of the opcode. What an instruction does without memory and without a sum of its own is
that of `Machine.execute`.
-/

namespace GameBoy

open Checked

/-! ## Decoding -/

/-- The number in the middle three bits, which must be that of a bit. -/
def Opcode.bitNumberChecked (op : UInt8) : Checked (Fin 8) := do
  let n ← shiftRight (op &&& 0x38) 3
  if h : n.toNat < 8 then return ⟨n.toNat, h⟩ else .error .overflow

@[simp] theorem Opcode.bitNumberChecked_eq (op : UInt8) :
    bitNumberChecked op = .ok (bitNumber op) := by
  have value : ((op &&& 0x38) >>> 3).toNat = op.toNat / 8 % 8 := by
    rw [UInt8.toNat_shiftRight, UInt8.toNat_and]
    change (op.toNat &&& 0x38) >>> 3 = op.toNat / 8 % 8
    rw [Nat.shiftRight_and_distrib, Nat.shiftRight_eq_div_pow]
    exact Nat.and_two_pow_sub_one_eq_mod _ 3
  have small : ((op &&& 0x38) >>> 3).toNat < 8 := by
    rw [value]
    exact Nat.mod_lt _ (by decide)
  rw [bitNumberChecked, shiftRight_eq _ (by decide), ok_bind]
  change (if h : ((op &&& 0x38) >>> 3).toNat < 8 then _ else _) = _
  rw [dif_pos small]
  exact congrArg Except.ok (Fin.ext value)

namespace Instruction

/-- The instruction that the byte after the prefix stands for. Three quarters of them have the
number of a bit. -/
def prefixedChecked (op : UInt8) : Checked Instruction := do
  let n ← Opcode.bitNumberChecked op
  if op < 0x40 then return prefixed op
  else if op < 0x80 then return .testBit n (Opcode.source op)
  else if op < 0xC0 then return .resetBit n (Opcode.location op)
  else return .setBit n (Opcode.location op)

@[simp] theorem prefixedChecked_eq (op : UInt8) : prefixedChecked op = .ok (prefixed op) := by
  rw [prefixedChecked, Opcode.bitNumberChecked_eq, ok_bind]
  by_cases first : op < 0x40
  · rw [if_pos first]
    rfl
  rw [if_neg first, prefixed, if_neg first]
  by_cases second : op < 0x80
  · rw [if_pos second, if_pos second]
    rfl
  rw [if_neg second, if_neg second]
  by_cases third : op < 0xC0
  · rw [if_pos third, if_pos third]
    rfl
  · rw [if_neg third, if_neg third]
    rfl

end Instruction

/-- The instruction of an encoding, completed by the bytes from an address on. -/
def Encoding.completeChecked (e : Encoding) (m : Memory) (a : UInt16) : Checked Instruction :=
  match e with
  | alone i => return i
  | withByte f => do
    let n ← m.readChecked a
    return f n
  | withWord f => do
    let w ← m.readWordChecked a
    return f w

@[simp] theorem Encoding.completeChecked_eq (e : Encoding) (m : Memory) (a : UInt16) :
    e.completeChecked m a = .ok (e.complete m a) := by
  cases e with
  | alone i => rfl
  | withByte f =>
    rw [completeChecked, Memory.readChecked_eq]
    rfl
  | withWord f =>
    rw [completeChecked, Memory.readWordChecked_eq]
    rfl

namespace Instruction

/-- The instruction at an address, and the address of the next one. -/
def decodeChecked (m : Memory) (pc : UInt16) :
    Checked (Except IllegalOpcode (Instruction × UInt16)) := do
  let opcode ← m.readChecked pc
  if opcode = 0xCB then
    let second ← m.readChecked (pc + 1)
    let i ← prefixedChecked second
    return .ok (i, pc + 2)
  else
    match Encoding.ofOpcode? opcode with
    | some e =>
      let i ← e.completeChecked m (pc + 1)
      return .ok (i, pc + e.length)
    | none => return .error ⟨opcode, pc⟩

@[simp] theorem decodeChecked_eq (m : Memory) (pc : UInt16) :
    decodeChecked m pc = .ok (decode m pc) := by
  rw [decodeChecked, Memory.readChecked_eq, ok_bind, decode]
  generalize m.read pc = opcode
  by_cases prefixed' : opcode = 0xCB
  · subst prefixed'
    rw [if_pos rfl, Memory.readChecked_eq, ok_bind, prefixedChecked_eq]
    rfl
  · rw [if_neg prefixed']
    cases Encoding.ofOpcode? opcode with
    | none => rfl
    | some e =>
      dsimp only
      rw [Encoding.completeChecked_eq]
      rfl

/-- The cycles that an instruction takes, counted in 32 bits. -/
def cyclesChecked (i : Instruction) (f : Flags) : Checked ℕ :=
  match i with
  | .load d s => do
    let written ← sum 32 4 d.cycles
    sum 32 written s.cycles
  | .arithmetic _ s => sum 32 4 s.cycles
  | .testBit _ s => sum 32 8 s.cycles
  | _ => return i.cycles f

@[simp] theorem cyclesChecked_eq (i : Instruction) (f : Flags) :
    i.cyclesChecked f = .ok (i.cycles f) := by
  cases i with
  | load d s =>
    have hd := d.cycles_le
    have hs := s.cycles_le
    rw [cyclesChecked, sum_eq (by omega), ok_bind, sum_eq (by omega)]
    rfl
  | arithmetic op s | testBit n s =>
    have hs := s.cycles_le
    rw [cyclesChecked, sum_eq (by omega)]
    rfl
  | _ => rfl

end Instruction

namespace Machine

/-! ## Operands and the stack -/

/-- The byte that a source yields. -/
def readSourceChecked (m : Machine) : Source → Checked UInt8
  | .register r => return m.cpu.get r
  | .accumulator => return m.cpu.a
  | .immediate n => return n
  | .memory p => m.memory.readChecked (p.address m.cpu)

/-- Puts a byte where a destination says. -/
def storeChecked (m : Machine) (d : Destination) (v : UInt8) : Checked Machine :=
  match d with
  | .register r => return { m with cpu := m.cpu.set r v }
  | .accumulator => return { m with cpu := { m.cpu with a := v } }
  | .memory p => do
    let memory ← m.memory.writeChecked (p.address m.cpu) v
    return { m with cpu := p.advance m.cpu, memory := memory }

/-- The byte at a location. -/
def byteAtChecked (m : Machine) : Location → Checked UInt8
  | .register r => return m.cpu.get r
  | .accumulator => return m.cpu.a
  | .atHl => m.memory.readChecked m.cpu.hl

/-- Replaces the byte at a location and the flags. -/
def replaceChecked (m : Machine) (x : Location) (v : UInt8) (f : Flags) : Checked Machine :=
  match x with
  | .register r => return { m with cpu := { m.cpu.set r v with flags := f } }
  | .accumulator => return m.setResult v f
  | .atHl => do
    let memory ← m.memory.writeChecked m.cpu.hl v
    return { m with cpu := { m.cpu with flags := f }, memory := memory }

/-- Pushes a word, its upper byte first. -/
def pushChecked (m : Machine) (w : UInt16) : Checked Machine := do
  let upper ← m.memory.writeChecked (m.cpu.sp - 1) (Word.high w)
  let both ← upper.writeChecked (m.cpu.sp - 2) (Word.low w)
  return { m with cpu := { m.cpu with sp := m.cpu.sp - 2 }, memory := both }

/-- The word on top of the stack. -/
def topChecked (m : Machine) : Checked UInt16 := do
  let low ← m.memory.readChecked m.cpu.sp
  let high ← m.memory.readChecked (m.cpu.sp + 1)
  return Word.ofBytes high low

/-- Pushes the address of the next instruction and goes on at another. -/
def callChecked (m : Machine) (a : UInt16) : Checked Machine := do
  let pushed ← m.pushChecked m.cpu.pc
  return pushed.goto a

/-- Goes on at the address on top of the stack, which is removed. -/
def retChecked (m : Machine) : Checked Machine := do
  let a ← m.topChecked
  return m.drop.goto a

section Operands

variable (m : Machine)

@[simp] theorem readSourceChecked_eq (s : Source) :
    m.readSourceChecked s = .ok (m.readSource s) := by
  cases s with
  | register r | accumulator | immediate n => rfl
  | memory p => exact m.memory.readChecked_eq _

@[simp] theorem storeChecked_eq (d : Destination) (v : UInt8) :
    m.storeChecked d v = .ok (m.store d v) := by
  cases d with
  | register r | accumulator => rfl
  | memory p =>
    rw [storeChecked, Memory.writeChecked_eq]
    rfl

@[simp] theorem byteAtChecked_eq (x : Location) : m.byteAtChecked x = .ok (m.byteAt x) := by
  cases x with
  | register r | accumulator => rfl
  | atHl => exact m.memory.readChecked_eq _

@[simp] theorem replaceChecked_eq (x : Location) (v : UInt8) (f : Flags) :
    m.replaceChecked x v f = .ok (m.replace x v f) := by
  cases x with
  | register r | accumulator => rfl
  | atHl =>
    rw [replaceChecked, Memory.writeChecked_eq]
    rfl

@[simp] theorem pushChecked_eq (w : UInt16) : m.pushChecked w = .ok (m.push w) := by
  rw [pushChecked, Memory.writeChecked_eq, ok_bind, Memory.writeChecked_eq]
  rfl

@[simp] theorem topChecked_eq : m.topChecked = .ok m.top := by
  rw [topChecked, Memory.readChecked_eq, ok_bind, Memory.readChecked_eq]
  rfl

@[simp] theorem callChecked_eq (a : UInt16) : m.callChecked a = .ok (m.call a) := by
  rw [callChecked, pushChecked_eq]
  rfl

@[simp] theorem retChecked_eq : m.retChecked = .ok m.ret := by
  rw [retChecked, topChecked_eq]
  rfl

end Operands

/-! ## Execution -/

/-- Combines the accumulator with the byte of a source. -/
def arithmeticChecked (m : Machine) (op : Arithmetic) (s : Source) : Checked Machine := do
  let x ← m.readSourceChecked s
  let (v, f) ← op.applyChecked m.cpu.a x m.cpu.flags
  return (m.afterSource s).setResult v f

/-- Moves the bits of a byte by one place. -/
def rotateChecked (m : Machine) (op : Rotation) (x : Location) : Checked Machine := do
  let v ← m.byteAtChecked x
  let w ← op.resultChecked v m.cpu.flags.carry
  m.replaceChecked x w
    { zero := x != .accumulator && w == 0
      subtract := false
      halfCarry := false
      carry := op.carryOut v }

/-- Tells whether a bit of a byte is clear. -/
def testBitChecked (m : Machine) (n : ℕ) (s : Source) : Checked Machine := do
  let v ← m.readSourceChecked s
  let bit ← Alu.bitChecked n
  return (m.afterSource s).setFlags
    { zero := v &&& bit == 0, subtract := false, halfCarry := true, carry := m.cpu.flags.carry }

/-- Carries out an instruction. -/
def executeChecked (m : Machine) (i : Instruction) : Checked Machine :=
  match i with
  | .load d s => do
    let v ← m.readSourceChecked s
    (m.afterSource s).storeChecked d v
  | .storeSp a => do
    let memory ← m.memory.writeWordChecked a m.cpu.sp
    return { m with memory := memory }
  | .loadHlSp e => do
    let (w, f) ← Alu.addOffsetChecked m.cpu.sp e
    return { m with cpu := { m.cpu.setHl w with flags := f } }
  | .push p => m.pushChecked (m.cpu.getPair p)
  | .pop p => do
    let w ← m.topChecked
    return { m.drop with cpu := m.drop.cpu.setPair p w }
  | .arithmetic op s => m.arithmeticChecked op s
  | .increment x => do
    let v ← m.byteAtChecked x
    let (w, f) ← Alu.incrementChecked v m.cpu.flags
    m.replaceChecked x w f
  | .decrement x => do
    let v ← m.byteAtChecked x
    let (w, f) ← Alu.decrementChecked v m.cpu.flags
    m.replaceChecked x w f
  | .addHl p => do
    let (w, f) ← Alu.addWordsChecked m.cpu.hl (m.cpu.getPair p) m.cpu.flags
    return { m with cpu := { m.cpu.setHl w with flags := f } }
  | .addSp e => do
    let (w, f) ← Alu.addOffsetChecked m.cpu.sp e
    return { m with cpu := { m.cpu with sp := w, flags := f } }
  | .rotate op x => m.rotateChecked op x
  | .swap x => do
    let v ← m.byteAtChecked x
    let w := Alu.swap v
    m.replaceChecked x w { zero := w == 0, subtract := false, halfCarry := false, carry := false }
  | .testBit n s => m.testBitChecked n s
  | .setBit n x => do
    let v ← m.byteAtChecked x
    let bit ← Alu.bitChecked n
    m.replaceChecked x (v ||| bit) m.cpu.flags
  | .resetBit n x => do
    let v ← m.byteAtChecked x
    let bit ← Alu.bitChecked n
    m.replaceChecked x (v &&& ~~~bit) m.cpu.flags
  | .call a => m.callChecked a
  | .callIf cc a => if cc.holds m.cpu.flags then m.callChecked a else return m
  | .ret => m.retChecked
  | .retIf cc => if cc.holds m.cpu.flags then m.retChecked else return m
  | .retInterrupt => do
    let back ← m.retChecked
    return { back with cpu := { back.cpu with ime := true, pendingIme := none } }
  | .restart n => m.callChecked n.toUInt16
  | .loadPair _ _ | .loadSpHl | .incrementPair _ | .decrementPair _ | .complementCarry
  | .setCarry | .decimalAdjust | .complement | .jump _ | .jumpHl | .jumpIf _ _ | .jumpBy _
  | .jumpByIf _ _ | .halt | .stop | .disableInterrupts | .enableInterrupts | .nop =>
    return m.execute i

@[simp] theorem arithmeticChecked_eq (m : Machine) (op : Arithmetic) (s : Source) :
    m.arithmeticChecked op s = .ok (m.arithmetic op s) := by
  rw [arithmeticChecked, readSourceChecked_eq, ok_bind, Arithmetic.applyChecked_eq]
  rfl

@[simp] theorem rotateChecked_eq (m : Machine) (op : Rotation) (x : Location) :
    m.rotateChecked op x = .ok (m.rotate op x) := by
  rw [rotateChecked, byteAtChecked_eq, ok_bind, Rotation.resultChecked_eq, ok_bind,
    replaceChecked_eq]
  rfl

@[simp] theorem testBitChecked_eq (m : Machine) (n : Fin 8) (s : Source) :
    m.testBitChecked n s = .ok (m.execute (.testBit n s)) := by
  rw [testBitChecked, readSourceChecked_eq, ok_bind, Alu.bitChecked_eq]
  rfl

/-- Executing an instruction has no faults. -/
@[simp] theorem executeChecked_eq (m : Machine) (i : Instruction) :
    m.executeChecked i = .ok (m.execute i) := by
  cases i with
  | load d s =>
    rw [executeChecked, readSourceChecked_eq, ok_bind, storeChecked_eq]
    rfl
  | storeSp a =>
    rw [executeChecked, Memory.writeWordChecked_eq]
    rfl
  | loadHlSp e | addSp e =>
    rw [executeChecked, Alu.addOffsetChecked_eq]
    rfl
  | push p => exact m.pushChecked_eq _
  | pop p =>
    rw [executeChecked, topChecked_eq]
    rfl
  | arithmetic op s => exact m.arithmeticChecked_eq op s
  | increment x =>
    rw [executeChecked, byteAtChecked_eq, ok_bind, Alu.incrementChecked_eq, ok_bind]
    exact m.replaceChecked_eq x _ _
  | decrement x =>
    rw [executeChecked, byteAtChecked_eq, ok_bind, Alu.decrementChecked_eq, ok_bind]
    exact m.replaceChecked_eq x _ _
  | addHl p =>
    rw [executeChecked, Alu.addWordsChecked_eq]
    rfl
  | rotate op x => exact m.rotateChecked_eq op x
  | swap x =>
    rw [executeChecked, byteAtChecked_eq, ok_bind]
    exact m.replaceChecked_eq x _ _
  | testBit n s => exact m.testBitChecked_eq n s
  | setBit n x | resetBit n x =>
    rw [executeChecked, byteAtChecked_eq, ok_bind, Alu.bitChecked_eq, ok_bind]
    exact m.replaceChecked_eq x _ _
  | call a => exact m.callChecked_eq a
  | callIf cc a =>
    rw [executeChecked, execute]
    by_cases taken : cc.holds m.cpu.flags
    · rw [if_pos taken, if_pos taken, callChecked_eq]
    · rw [if_neg taken, if_neg taken]
      rfl
  | ret => exact m.retChecked_eq
  | retIf cc =>
    rw [executeChecked, execute]
    by_cases taken : cc.holds m.cpu.flags
    · rw [if_pos taken, if_pos taken, retChecked_eq]
    · rw [if_neg taken, if_neg taken]
      rfl
  | retInterrupt =>
    rw [executeChecked, retChecked_eq]
    rfl
  | restart n => exact m.callChecked_eq _
  | loadPair p w | loadSpHl | incrementPair p | decrementPair p | complementCarry | setCarry
  | decimalAdjust | complement | jump a | jumpHl | jumpIf cc a | jumpBy e | jumpByIf cc e | halt
  | stop | disableInterrupts | enableInterrupts | nop => rfl

/-- The number of a bit is not checked again: one that no opcode has would be a fault. -/
example (m : Machine) : m.testBitChecked 8 .accumulator = .error .overflow := rfl

end Machine

end GameBoy
