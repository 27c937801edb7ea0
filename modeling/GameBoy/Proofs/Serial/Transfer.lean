import GameBoy.Proofs.Console.Steps
import GameBoy.Proofs.Memory.ReadWrite

/-!
# Transfers over the serial line

A byte is transferred when a program writes to the control of the serial line and asks for a
transfer under the console's own clock; the byte is the one that the line's data register holds
then. So what a step transfers is told by its writes on the address bus, which can come from any
instruction with an operand in memory and from any push, that of a dispatch included.
`Console.serialOutput_steps` says that the serial output grows by exactly these bytes.
-/

namespace GameBoy

/-- A byte written on the address bus. -/
structure BusWrite where
  /-- The address. -/
  address : UInt16
  /-- The byte. -/
  value : UInt8
  deriving DecidableEq, Repr

namespace Memory

/-- The memory after some writes, the first first. -/
def writeAll (m : Memory) (ws : List BusWrite) : Memory :=
  ws.foldl (fun m w => m.write w.address w.value) m

/-- The bytes that some writes transfer: a write to `0xFF02` of a byte with the highest and the
lowest bit set transfers the byte at `0xFF01`. -/
def transfers (m : Memory) : List BusWrite → List UInt8
  | [] => []
  | ⟨a, v⟩ :: ws =>
    (if a = 0xFF02 ∧ v &&& 0x81 = 0x81 then [m.read 0xFF01] else []) ++ (m.write a v).transfers ws

variable (m : Memory)

lemma writeAll_cons (w : BusWrite) (ws : List BusWrite) :
    m.writeAll (w :: ws) = (m.write w.address w.value).writeAll ws := rfl

/-- A write adds a byte to the output if it starts a transfer, and nothing otherwise. -/
lemma serialOutput_write (a : UInt16) (v : UInt8) :
    (m.write a v).serialOutput.toList =
      m.serialOutput.toList ++
        if a = 0xFF02 ∧ v &&& 0x81 = 0x81 then [m.read 0xFF01] else [] := by
  have data : m.read 0xFF01 = m.io.get HardwareRegister.sb.offset :=
    m.read_ioAddress HardwareRegister.sb.offset
  by_cases page : ∃ i, Cell.ofAddress a = .io i
  · obtain ⟨i, cell⟩ := page
    obtain rfl : a = i.address := (Cell.ofAddress_eq_io_iff a i).1 cell
    have control : i.address = 0xFF02 ↔ i = HardwareRegister.sc.offset := by
      have other := Cell.ofAddress_eq_io_iff i.address HardwareRegister.sc.offset
      rw [cell, Cell.io.injEq] at other
      exact other.symm
    rw [write_ioAddress, data]
    change (m.io.set i v).serialOutput.toList = m.io.serialOutput.toList ++ _
    by_cases starts : i = HardwareRegister.sc.offset ∧ IoPage.startsTransfer v
    · have asks : i.address = 0xFF02 ∧ v &&& 0x81 = 0x81 :=
        ⟨control.2 starts.1, beq_iff_eq.1 starts.2⟩
      rw [if_pos asks, IoPage.set, if_pos (by simpa using starts)]
      exact Array.toList_push
    · have quiet : ¬ (i.address = 0xFF02 ∧ v &&& 0x81 = 0x81) := fun h =>
        starts ⟨control.1 h.1, beq_iff_eq.2 h.2⟩
      rw [if_neg quiet, IoPage.set, if_neg (by simpa using starts), IoPage.serialOutput_store,
        List.append_nil]
  · have other : ¬ (a = 0xFF02 ∧ v &&& 0x81 = 0x81) := by
      rintro ⟨rfl, -⟩
      exact page ⟨HardwareRegister.sc.offset, by decide⟩
    have same : (m.write a v).io = m.io := m.io_set _ v fun i cell => page ⟨i, cell⟩
    rw [if_neg other, List.append_nil, serialOutput, same, serialOutput]

/-- The output after a write: it grows by the byte in the data register if a transfer starts. -/
lemma serialOutput_write_eq (a : UInt16) (v : UInt8) :
    (m.write a v).serialOutput =
      if a = 0xFF02 ∧ v &&& 0x81 = 0x81 then m.serialOutput.push (m.read 0xFF01)
      else m.serialOutput := by
  apply Array.toList_inj.1
  rw [serialOutput_write]
  split_ifs
  · exact Array.toList_push.symm
  · exact List.append_nil _

/-- Nothing is sent by a write to an address that retains what is written. -/
lemma serialOutput_write_of_retains {a : UInt16} (v : UInt8) (h : Retains a) :
    (m.write a v).serialOutput = m.serialOutput := by
  rw [serialOutput_write_eq, if_neg fun transfer => h.ne_control transfer.1]

/-- The output grows by the bytes that the writes transfer. -/
lemma serialOutput_writeAll (ws : List BusWrite) :
    (m.writeAll ws).serialOutput.toList = m.serialOutput.toList ++ m.transfers ws := by
  induction ws generalizing m with
  | nil => exact (List.append_nil _).symm
  | cons w ws ih =>
    rw [writeAll_cons, ih, serialOutput_write, List.append_assoc]
    rfl

end Memory

/-! ## The writes of an instruction -/

/-- The write that replaces the byte at a location. -/
def Location.writes (x : Location) (v : UInt8) (c : Cpu) : List BusWrite :=
  match x with
  | .atHl => [⟨c.hl, v⟩]
  | .register _ | .accumulator => []

/-- The write that puts a byte into a destination. -/
def Destination.writes (d : Destination) (v : UInt8) (c : Cpu) : List BusWrite :=
  match d with
  | .memory p => [⟨p.address c, v⟩]
  | .register _ | .accumulator => []

/-- The writes that push a word, its upper byte first. -/
def Cpu.pushes (c : Cpu) (w : UInt16) : List BusWrite :=
  [⟨c.sp - 1, Word.high w⟩, ⟨c.sp - 2, Word.low w⟩]

/-- The writes of an instruction, the first first. -/
def Instruction.writes (i : Instruction) (m : Machine) : List BusWrite :=
  match i with
  | .load d s => d.writes (m.readSource s) (m.afterSource s).cpu
  | .storeSp a => [⟨a, Word.low m.cpu.sp⟩, ⟨a + 1, Word.high m.cpu.sp⟩]
  | .push p => m.cpu.pushes (m.cpu.getPair p)
  | .increment x => x.writes (Alu.increment (m.byteAt x) m.cpu.flags).1 m.cpu
  | .decrement x => x.writes (Alu.decrement (m.byteAt x) m.cpu.flags).1 m.cpu
  | .rotate op x => x.writes (op.result (m.byteAt x) m.cpu.flags.carry) m.cpu
  | .swap x => x.writes (Alu.swap (m.byteAt x)) m.cpu
  | .setBit n x => x.writes (Alu.setBit n (m.byteAt x)) m.cpu
  | .resetBit n x => x.writes (Alu.resetBit n (m.byteAt x)) m.cpu
  | .call _ | .restart _ => m.cpu.pushes m.cpu.pc
  | .callIf cc _ => if cc.holds m.cpu.flags then m.cpu.pushes m.cpu.pc else []
  | _ => []

namespace Machine

variable (m : Machine)

lemma memory_afterSource (s : Source) : (m.afterSource s).memory = m.memory := by
  cases s <;> rfl

lemma memory_store (d : Destination) (v : UInt8) :
    (m.store d v).memory = m.memory.writeAll (d.writes v m.cpu) := by
  cases d <;> rfl

lemma memory_replace (x : Location) (v : UInt8) (f : Flags) :
    (m.replace x v f).memory = m.memory.writeAll (x.writes v m.cpu) := by
  cases x <;> rfl

lemma memory_call (a : UInt16) :
    (m.call a).memory = m.memory.writeAll (m.cpu.pushes m.cpu.pc) := rfl

/-- An instruction changes the memory by its writes. -/
theorem memory_execute (i : Instruction) :
    (m.execute i).memory = m.memory.writeAll (i.writes m) := by
  cases i with
  | load d s =>
    rw [execute, memory_store, memory_afterSource]
    rfl
  | arithmetic op s =>
    rw [execute, arithmetic]
    exact m.memory_afterSource s
  | testBit n s =>
    rw [execute]
    exact m.memory_afterSource s
  | increment x | decrement x | rotate op x | swap x | setBit n x | resetBit n x =>
    exact m.memory_replace x _ _
  | callIf cc a =>
    rw [execute, Instruction.writes]
    split_ifs
    · exact m.memory_call a
    · rfl
  | jumpIf cc a | jumpByIf cc e | retIf cc =>
    rw [execute]
    split_ifs <;> rfl
  | _ => rfl

end Machine

/-! ## The writes of a step -/

/-- The writes of a step of the machine. -/
def Machine.writes (m : Machine) : List BusWrite :=
  let m := m.resume
  if m.cpu.mode = .running then
    match Instruction.decode m.memory m.cpu.pc with
    | .ok (i, next) => i.writes (m.start next)
    | .error _ => []
  else []

/-- A step of the machine changes the memory by its writes. -/
lemma Machine.memory_step (m : Machine) :
    m.step.2.memory = m.memory.writeAll m.writes := by
  unfold step writes
  rw [← m.memory_resume]
  by_cases running : m.resume.cpu.mode = .running
  · simp only [if_pos running]
    cases Instruction.decode m.resume.memory m.resume.cpu.pc with
    | error x => rfl
    | ok decoded => exact (m.resume.start decoded.2).memory_execute decoded.1
  · simp only [if_neg running]
    rfl

namespace Console

/-- The writes of a step of the console. A dispatch pushes the program counter. -/
def writes (c : Console) : List BusWrite :=
  match c.serviceInterrupt.1 with
  | some _ => c.machine.cpu.pushes c.machine.cpu.pc
  | none => c.machine.writes

/-- The bytes that a step transfers over the serial line. -/
def transferred (c : Console) : List UInt8 := c.machine.memory.transfers c.writes

/-- The bytes that a number of steps transfer, the first first. -/
def transfers (c : Console) (n : ℕ) : List UInt8 :=
  (List.range n).flatMap fun k => (c.steps k).transferred

/-- A step of the console changes the memory by its writes, and a dispatch then withdraws the
request that it serves. -/
lemma memory_step (c : Console) :
    c.step.2.machine.memory =
      match c.serviceInterrupt.1 with
      | some i => (c.machine.memory.writeAll c.writes).withdraw i
      | none => c.machine.memory.writeAll c.writes := by
  unfold step Console.writes
  unfold serviceInterrupt Machine.serviceInterrupt
  by_cases allowed : c.config.serviceInterrupts
  · rw [if_pos allowed]
    cases c.machine.nextInterrupt? with
    | some i => rfl
    | none => exact c.machine.memory_step
  · rw [if_neg allowed]
    exact c.machine.memory_step

/-- The output grows in a step by what the step transfers. -/
theorem serialOutput_step (c : Console) :
    c.step.2.serialOutput.toList = c.serialOutput.toList ++ c.transferred := by
  have writes : c.step.2.serialOutput = (c.machine.memory.writeAll c.writes).serialOutput := by
    rw [serialOutput, memory_step]
    cases c.serviceInterrupt.1 <;> rfl
  rw [writes]
  exact c.machine.memory.serialOutput_writeAll c.writes

variable (c : Console)

lemma transfers_succ (n : ℕ) :
    c.transfers (n + 1) = c.transfers n ++ (c.steps n).transferred := by
  rw [transfers, List.range_succ, List.flatMap_append, List.flatMap_singleton, transfers]

/-- The transfers of two parts of a sequence of steps. -/
lemma transfers_add (m n : ℕ) :
    c.transfers (m + n) = c.transfers m ++ (c.steps m).transfers n := by
  induction n with
  | zero => exact (List.append_nil _).symm
  | succ n ih =>
    rw [← Nat.add_assoc, transfers_succ, ih, steps_add, transfers_succ, List.append_assoc]

/-- The output grows by the bytes that are transferred. -/
theorem serialOutput_steps (n : ℕ) :
    (c.steps n).serialOutput.toList = c.serialOutput.toList ++ c.transfers n := by
  induction n with
  | zero => exact (List.append_nil _).symm
  | succ n ih =>
    rw [steps_succ_last, serialOutput_step, ih, transfers_succ, List.append_assoc]

end Console

end GameBoy
