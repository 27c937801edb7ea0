import GameBoy.Proofs.Instruction.Length
import GameBoy.Proofs.Machine.WriteFootprint

/-!
# Instructions as programs on the address bus

An instruction has no other way to the memory than the address bus: it asks for a byte and goes on
with what it gets, or it puts a byte out. `BusProgram` is a computation of this form. It cannot look
at the memory in passing, so the addresses that go over the bus while it runs
(`BusProgram.accesses`) are all of the memory that it has to do with.

`Instruction.program` is an instruction in this form, and `Instruction.run_program` says that it is
the instruction: it makes the same of the registers and of the memory as `Machine.execute`. For an
instruction that has an encoding the accesses are told by the registers before it
(`Instruction.accesses_program`): it reads its operand, or the word on top of the stack, and then
writes. Decoding is such a program as well, `Instruction.fetch`.
-/

namespace GameBoy

/-- A computation that reaches the memory byte by byte over the address bus. -/
inductive BusProgram (α : Type) where
  /-- The computation has a result. -/
  | done (result : α)
  /-- A byte is read, and the computation depends on it. -/
  | read (a : UInt16) (next : UInt8 → BusProgram α)
  /-- A byte is written, and the computation goes on. -/
  | write (a : UInt16) (v : UInt8) (next : BusProgram α)

namespace BusProgram

variable {α : Type}

/-- The result of a program and the memory that it leaves. -/
def run : BusProgram α → Memory → α × Memory
  | done result, m => (result, m)
  | read a next, m => (next (m.read a)).run m
  | write a v next, m => next.run (m.write a v)

/-- The addresses that go over the bus while a program runs, the first first. -/
def accesses : BusProgram α → Memory → List UInt16
  | done _, _ => []
  | read a next, m => a :: (next (m.read a)).accesses m
  | write a v next, m => a :: next.accesses (m.write a v)

end BusProgram

/-! ## The parts of an instruction -/

/-- Reads a source and goes on with the byte. -/
def Source.readOnBus {α : Type} (s : Source) (c : Cpu) (next : UInt8 → BusProgram α) :
    BusProgram α :=
  match s with
  | .register r => next (c.get r)
  | .accumulator => next c.a
  | .immediate n => next n
  | .memory p => .read (p.address c) next

/-- The processor after a source was read. -/
def Source.advance (s : Source) (c : Cpu) : Cpu :=
  match s with
  | .memory p => p.advance c
  | .register _ | .accumulator | .immediate _ => c

/-- Puts a byte where a destination says. -/
def Destination.storeOnBus (d : Destination) (c : Cpu) (v : UInt8) : BusProgram Cpu :=
  match d with
  | .register r => .done (c.set r v)
  | .accumulator => .done { c with a := v }
  | .memory p => .write (p.address c) v (.done (p.advance c))

/-- Replaces the byte at a location by a function of it, which also yields the flags. -/
def Location.modifyOnBus (x : Location) (c : Cpu) (f : UInt8 → UInt8 × Flags) : BusProgram Cpu :=
  match x with
  | .register r => .done { c.set r (f (c.get r)).1 with flags := (f (c.get r)).2 }
  | .accumulator => .done { c with a := (f c.a).1, flags := (f c.a).2 }
  | .atHl => .read c.hl fun v => .write c.hl (f v).1 (.done { c with flags := (f v).2 })

/-- Pushes a word, its upper byte first, and goes on at an address. -/
def Cpu.pushOnBus (c : Cpu) (w next : UInt16) : BusProgram Cpu :=
  .write (c.sp - 1) (Word.high w)
    (.write (c.sp - 2) (Word.low w) (.done { c with sp := c.sp - 2, pc := next }))

/-- Pops a word, its lower byte first, and does something with it. -/
def Cpu.popOnBus (c : Cpu) (use : Cpu → UInt16 → Cpu) : BusProgram Cpu :=
  .read c.sp fun low => .read (c.sp + 1) fun high =>
    .done (use { c with sp := c.sp + 2 } (Word.ofBytes high low))

namespace Instruction

/-- What an instruction that does without the bus makes of the processor. Any memory will do. -/
def onRegisters (i : Instruction) (c : Cpu) : Cpu := (Machine.execute ⟨c, .powerOn, 0⟩ i).cpu

/-- An instruction as a program on the address bus, for a processor whose program counter has moved
past it. -/
def program (i : Instruction) (c : Cpu) : BusProgram Cpu :=
  match i with
  | .ret => c.popOnBus fun c w => { c with pc := w }
  | .retInterrupt => c.popOnBus fun c w => { c with pc := w, ime := true, pendingIme := none }
  | .load d s => s.readOnBus c (d.storeOnBus (s.advance c))
  | .storeSp a => .write a (Word.low c.sp) (.write (a + 1) (Word.high c.sp) (.done c))
  | .push p => c.pushOnBus (c.getPair p) c.pc
  | .pop p => c.popOnBus fun c w => c.setPair p w
  | .arithmetic op s =>
    s.readOnBus c fun v =>
      .done { s.advance c with
        a := (op.apply c.a v c.flags).1, flags := (op.apply c.a v c.flags).2 }
  | .increment x => x.modifyOnBus c fun v => Alu.increment v c.flags
  | .decrement x => x.modifyOnBus c fun v => Alu.decrement v c.flags
  | .rotate op x =>
    x.modifyOnBus c fun v =>
      let w := op.result v c.flags.carry
      (w, { zero := x != .accumulator && w == 0
            subtract := false
            halfCarry := false
            carry := op.carryOut v })
  | .swap x =>
    x.modifyOnBus c fun v =>
      (Alu.swap v,
        { zero := Alu.swap v == 0, subtract := false, halfCarry := false, carry := false })
  | .testBit n s =>
    s.readOnBus c fun v => .done { s.advance c with flags := Alu.testBit n v c.flags }
  | .setBit n x => x.modifyOnBus c fun v => (Alu.setBit n v, c.flags)
  | .resetBit n x => x.modifyOnBus c fun v => (Alu.resetBit n v, c.flags)
  | .call a => c.pushOnBus c.pc a
  | .callIf cc a => if cc.holds c.flags then c.pushOnBus c.pc a else .done c
  | .restart n => c.pushOnBus c.pc n.toUInt16
  | .retIf cc => if cc.holds c.flags then c.popOnBus fun c w => { c with pc := w } else .done c
  | i => .done (i.onRegisters c)

end Instruction

/-! ## The program is the instruction -/

section Run

variable (m : Machine)

lemma Source.run_readOnBus {α : Type} (s : Source) (next : UInt8 → BusProgram α) :
    (s.readOnBus m.cpu next).run m.memory = (next (m.readSource s)).run m.memory := by
  cases s <;> rfl

lemma Source.cpu_afterSource (s : Source) : (m.afterSource s).cpu = s.advance m.cpu := by
  cases s <;> rfl

lemma Destination.run_storeOnBus (d : Destination) (v : UInt8) :
    (d.storeOnBus m.cpu v).run m.memory = ((m.store d v).cpu, (m.store d v).memory) := by
  cases d <;> rfl

lemma Location.run_modifyOnBus (x : Location) (f : UInt8 → UInt8 × Flags) :
    (x.modifyOnBus m.cpu f).run m.memory =
      ((m.replace x (f (m.byteAt x)).1 (f (m.byteAt x)).2).cpu,
        (m.replace x (f (m.byteAt x)).1 (f (m.byteAt x)).2).memory) := by
  cases x <;> rfl

/-- **The program is the instruction.** Run on the memory of a machine, it yields the processor and
the memory that the machine has after the instruction was executed. -/
theorem Instruction.run_program (i : Instruction) :
    (i.program m.cpu).run m.memory = ((m.execute i).cpu, (m.execute i).memory) := by
  cases i with
  | load d s =>
    rw [program, s.run_readOnBus m, ← s.cpu_afterSource m, ← m.memory_afterSource s,
      d.run_storeOnBus]
    rfl
  | arithmetic op s | testBit n s =>
    rw [program, s.run_readOnBus m, ← s.cpu_afterSource m, BusProgram.run, ← m.memory_afterSource s]
    rfl
  | increment x | decrement x | rotate op x | swap x | setBit n x | resetBit n x =>
    rw [program, x.run_modifyOnBus m]
    rfl
  | callIf cc a | retIf cc =>
    rw [program, Machine.execute]
    split_ifs <;> rfl
  | jumpIf cc a | jumpByIf cc e =>
    simp only [program, onRegisters, Machine.execute]
    split_ifs <;> rfl
  | _ => rfl

end Run

/-! ## The addresses on the bus -/

/-- The address of a source, if it is in memory. -/
def Source.addressed (s : Source) (c : Cpu) : List UInt16 :=
  match s with
  | .memory p => [p.address c]
  | .register _ | .accumulator | .immediate _ => []

/-- The addresses that are read when a word is popped. -/
def Cpu.popped (c : Cpu) : List UInt16 := [c.sp, c.sp + 1]

/-- The addresses that an instruction reads as data when it starts with the given registers. A byte
that is changed in place is read first. -/
def Instruction.dataRead (i : Instruction) (c : Cpu) : List UInt16 :=
  match i with
  | .load _ s | .arithmetic _ s | .testBit _ s => s.addressed c
  | .increment x | .decrement x | .rotate _ x | .swap x | .setBit _ x | .resetBit _ x =>
    x.addressed c
  | .pop _ | .ret | .retInterrupt => c.popped
  | .retIf cc => if cc.holds c.flags then c.popped else []
  | _ => []

section Accesses

variable (c : Cpu) (m : Memory)

/-- A source is read, and then the program goes on, at addresses that do not depend on the byte. -/
lemma Source.accesses_readOnBus {α : Type} (s : Source) {next : UInt8 → BusProgram α}
    {rest : List UInt16} (others : ∀ v, (next v).accesses m = rest) :
    (s.readOnBus c next).accesses m = s.addressed c ++ rest := by
  cases s with
  | memory p => exact congrArg _ (others _)
  | _ => exact others _

lemma Destination.accesses_storeOnBus (d : Destination) (v : UInt8) :
    (d.storeOnBus c v).accesses m = d.written c := by
  cases d <;> rfl

lemma Location.accesses_modifyOnBus (x : Location) (f : UInt8 → UInt8 × Flags) :
    (x.modifyOnBus c f).accesses m = x.addressed c ++ x.addressed c := by
  cases x <;> rfl

/-- **The accesses of an instruction** that has an encoding: it reads its data and then writes. -/
theorem Instruction.accesses_program {i : Instruction} (encodable : i.isEncodable) :
    (i.program c).accesses m = i.dataRead c ++ i.written c := by
  have silent (s : Source) (f : UInt8 → Cpu) :
      (s.readOnBus c fun v => .done (f v)).accesses m = s.addressed c ++ [] :=
    s.accesses_readOnBus c m fun _ => rfl
  cases i with
  | load d s =>
    have stored : d.written (s.advance c) = d.written c := by
      rw [← s.cpu_afterSource ⟨c, m, 0⟩]
      exact Destination.written_afterSource encodable _
    rw [program, written, ← stored]
    exact s.accesses_readOnBus c m fun v => d.accesses_storeOnBus (s.advance c) m v
  | arithmetic op s | testBit n s =>
    rw [program]
    exact silent s _
  | increment x | decrement x | rotate op x | swap x | setBit n x | resetBit n x =>
    rw [program, x.accesses_modifyOnBus]
    rfl
  | callIf cc a | retIf cc =>
    simp only [program, dataRead, written]
    split_ifs <;> rfl
  | _ => rfl

end Accesses

/-! ## Fetching -/

/-- Reads the bytes that complete an encoding and goes on with the instruction. -/
def Encoding.completeOnBus {α : Type} (e : Encoding) (a : UInt16)
    (next : Instruction → BusProgram α) : BusProgram α :=
  match e with
  | alone i => next i
  | withByte f => .read a fun n => next (f n)
  | withWord f => .read a fun low => .read (a + 1) fun high => next (f (Word.ofBytes high low))

namespace Instruction

/-- Decoding as a program on the address bus. -/
def fetch (pc : UInt16) : BusProgram (Except IllegalOpcode (Instruction × UInt16)) :=
  .read pc fun opcode =>
    match Encoding.ofOpcode? opcode with
    | some e => e.completeOnBus (pc + 1) fun i => .done (.ok (i, pc + e.length))
    | none => .done (.error ⟨opcode, pc⟩)

variable {m : Memory} {pc next : UInt16} {i : Instruction}

/-- The program is decoding, and it leaves the memory alone. -/
theorem run_fetch (m : Memory) (pc : UInt16) : (fetch pc).run m = (decode m pc, m) := by
  simp only [fetch, BusProgram.run, decode]
  cases Encoding.ofOpcode? (m.read pc) with
  | none => rfl
  | some e => cases e <;> rfl

/-- The bytes of the instruction are fetched. -/
lemma accesses_fetch_of_ok (h : decode m pc = .ok (i, next)) :
    (fetch pc).accesses m = i.bytes pc := by
  obtain ⟨e, found, rfl, -⟩ := exists_encoding_of_decode h
  rw [bytes, Encoding.length_complete found]
  simp only [fetch, BusProgram.accesses, found]
  have first : pc + 0 = pc := UInt16.add_zero pc
  have third : pc + 1 + 1 = pc + 2 := UInt16.add_assoc pc 1 1
  cases e with
  | alone i => exact congrArg (· :: []) first.symm
  | withByte f => exact congrArg (· :: [pc + 1]) first.symm
  | withWord f =>
    change [pc, pc + 1, pc + 1 + 1] = [pc + 0, pc + 1, pc + 2]
    rw [first, third]

/-- An opcode without a meaning is fetched alone. -/
lemma accesses_fetch_of_error {e : IllegalOpcode} (h : decode m pc = .error e) :
    (fetch pc).accesses m = [pc] := by
  simp only [decode] at h
  cases found : Encoding.ofOpcode? (m.read pc) with
  | none => simp only [fetch, BusProgram.accesses, found]
  | some encoding =>
    rw [found] at h
    cases h

end Instruction

end GameBoy
