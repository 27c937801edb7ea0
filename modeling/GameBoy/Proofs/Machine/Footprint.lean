import GameBoy.Proofs.Instruction.Encodable
import GameBoy.Proofs.Machine.Control

/-!
# The footprint of an instruction

Most registers survive most instructions. `Instruction.keptFlags`, `changedRegisters`,
`stackPointer` and `isTaken` are tables of what an instruction may do to the flags, the byte
registers, the stack pointer and the program counter; what it does to the acceptance of interrupts
and to the mode is its control. That the tables are right is proved for the parts of which
instructions are made, and then for one instruction after the other. The operands matter: popping
the stack pointer, or combining the accumulator with the byte at a moving pointer, would do more, so
the tables hold of instructions that have an encoding, and decoding yields no others.
-/

namespace GameBoy

/-! ## The tables -/

/-- A flag of the processor. -/
inductive Flag where
  | zero | subtract | halfCarry | carry
  deriving DecidableEq, Repr

/-- All flags. -/
def Flag.all : List Flag := [zero, subtract, halfCarry, carry]

/-- The value of a flag. -/
def Flags.get (f : Flags) : Flag → Bool
  | .zero => f.zero
  | .subtract => f.subtract
  | .halfCarry => f.halfCarry
  | .carry => f.carry

/-- The byte registers that hold a word register. The flags are none of them. -/
def Pair.registers : Pair → List Register
  | .af => [.a]
  | .bc => [.b, .c]
  | .de => [.d, .e]
  | .hl => [.h, .l]
  | .sp => []

/-- The registers that the use of a pointer changes. -/
def Pointer.changedRegisters : Pointer → List Register
  | .hlUp | .hlDown => [.h, .l]
  | .bc | .de | .hl | .direct _ | .highPage _ | .highPageC => []

/-- The registers that change when a source is read. -/
def Source.changedRegisters : Source → List Register
  | .memory p => p.changedRegisters
  | .register _ | .accumulator | .immediate _ => []

/-- The registers that change when a byte is put where a destination says. -/
def Destination.changedRegisters : Destination → List Register
  | .register r => [r]
  | .accumulator => [.a]
  | .memory p => p.changedRegisters

/-- The registers that change with the byte at a location. -/
def Location.changedRegisters : Location → List Register
  | .register r => [r]
  | .accumulator => [.a]
  | .atHl => []

namespace Instruction

/-- The flags that an instruction keeps. -/
def keptFlags : Instruction → List Flag
  | .arithmetic .. | .rotate .. | .swap _ | .addSp _ | .loadHlSp _ | .pop .af => []
  | .increment _ | .decrement _ | .testBit .. => [.carry]
  | .addHl _ | .setCarry | .complementCarry => [.zero]
  | .decimalAdjust => [.subtract]
  | .complement => [.zero, .carry]
  | _ => Flag.all

/-- The byte registers that an instruction can change. -/
def changedRegisters : Instruction → List Register
  | .load d s => d.changedRegisters ++ s.changedRegisters
  | .loadPair p _ | .incrementPair p | .decrementPair p | .pop p => p.registers
  | .loadHlSp _ | .addHl _ => [.h, .l]
  | .arithmetic .compare _ => []
  | .arithmetic .. | .decimalAdjust | .complement => [.a]
  | .increment x | .decrement x | .rotate _ x | .swap x | .setBit _ x | .resetBit _ x =>
    x.changedRegisters
  | _ => []

/-- What an instruction makes of the stack pointer. -/
def stackPointer (i : Instruction) (c : Cpu) : UInt16 :=
  match i with
  | .loadPair .sp w => w
  | .loadSpHl => c.hl
  | .incrementPair .sp => c.sp + 1
  | .decrementPair .sp => c.sp - 1
  | .addSp e => Word.displace c.sp e
  | .push _ | .call _ | .restart _ => c.sp - 2
  | .pop _ | .ret | .retInterrupt => c.sp + 2
  | .callIf cc _ => if cc.holds c.flags then c.sp - 2 else c.sp
  | .retIf cc => if cc.holds c.flags then c.sp + 2 else c.sp
  | _ => c.sp

/-- The instruction is a jump, a call, a return or a restart, and it is taken. -/
def isTaken (i : Instruction) (f : Flags) : Bool :=
  match i with
  | .jump _ | .jumpHl | .jumpBy _ | .call _ | .ret | .retInterrupt | .restart _ => true
  | .jumpIf cc _ | .jumpByIf cc _ | .callIf cc _ | .retIf cc => cc.holds f
  | _ => false

end Instruction

/-! ## The parts of an instruction -/

/-- The second processor differs from the first in the given byte registers at most, and perhaps in
its flags and its control. -/
structure Cpu.Within (rs : List Register) (c c' : Cpu) : Prop where
  /-- The other byte registers are the same. -/
  registers : ∀ r, r ∉ rs → c'.get r = c.get r
  /-- The stack pointer is the same. -/
  sp : c'.sp = c.sp
  /-- The program counter is the same. -/
  pc : c'.pc = c.pc

namespace Cpu

variable {c c' c'' : Cpu} {rs rs' : List Register}

lemma Within.refl (rs : List Register) (c : Cpu) : Within rs c c := ⟨fun _ _ => rfl, rfl, rfl⟩

/-- One change after the other. -/
lemma Within.append (h : Within rs c c') (h' : Within rs' c' c'') : Within (rs' ++ rs) c c'' where
  registers r outside := by
    rw [List.mem_append, not_or] at outside
    exact (h'.registers r outside.1).trans (h.registers r outside.2)
  sp := h'.sp.trans h.sp
  pc := h'.pc.trans h.pc

/-- Flags are no byte registers. -/
lemma Within.withFlags (h : Within rs c c') (f : Flags) : Within rs c { c' with flags := f } :=
  ⟨h.registers, h.sp, h.pc⟩

variable (c)

lemma within_set (r : Register) (v : UInt8) : Within [r] c (c.set r v) where
  registers q outside := by
    rw [List.mem_singleton] at outside
    rw [get_set, if_neg outside]
  sp := by cases r <;> rfl
  pc := by cases r <;> rfl

lemma within_setHl (w : UInt16) : Within [.h, .l] c (c.setHl w) where
  registers r outside := by
    cases r with
    | h | l => exact absurd (by decide) outside
    | _ => rfl
  sp := rfl
  pc := rfl

lemma within_setPair {p : Pair} (other : p ≠ .sp) (w : UInt16) :
    Within p.registers c (c.setPair p w) := by
  cases p with
  | af => exact (c.within_set .a (Word.high w)).withFlags _
  | bc => exact (c.within_set .c (Word.low w)).append ((c.set .c (Word.low w)).within_set .b _)
  | de => exact (c.within_set .e (Word.low w)).append ((c.set .e (Word.low w)).within_set .d _)
  | hl => exact c.within_setHl w
  | sp => exact absurd rfl other

lemma within_advance (p : Pointer) : Within p.changedRegisters c (p.advance c) := by
  cases p with
  | hlUp | hlDown => exact c.within_setHl _
  | _ => exact .refl [] c

lemma flags_setPair {p : Pair} (other : p ≠ .af) (w : UInt16) :
    (c.setPair p w).flags = c.flags := by
  cases p with
  | af => exact absurd rfl other
  | _ => rfl

end Cpu

namespace Machine

variable (m : Machine)

lemma within_afterSource (s : Source) :
    Cpu.Within s.changedRegisters m.cpu (m.afterSource s).cpu := by
  cases s with
  | memory p => exact m.cpu.within_advance p
  | _ => exact .refl [] m.cpu

lemma within_store (d : Destination) (v : UInt8) :
    Cpu.Within d.changedRegisters m.cpu (m.store d v).cpu := by
  cases d with
  | register r => exact m.cpu.within_set r v
  | accumulator => exact m.cpu.within_set .a v
  | memory p => exact m.cpu.within_advance p

lemma within_replace (x : Location) (v : UInt8) (f : Flags) :
    Cpu.Within x.changedRegisters m.cpu (m.replace x v f).cpu := by
  cases x with
  | register r => exact (m.cpu.within_set r v).withFlags f
  | accumulator => exact (m.cpu.within_set .a v).withFlags f
  | atHl => exact (Cpu.Within.refl [] m.cpu).withFlags f

/-- Only a moving pointer leaves a trace when a byte is read. -/
lemma afterSource_of_coded {s : Source} (coded : s.isCoded) : m.afterSource s = m := by
  cases s with
  | memory p =>
    cases p with
    | hl => rfl
    | _ => cases coded
  | _ => rfl

lemma flags_afterSource (s : Source) : (m.afterSource s).cpu.flags = m.cpu.flags := by
  cases s with
  | memory p => cases p <;> rfl
  | _ => rfl

lemma flags_store (d : Destination) (v : UInt8) : (m.store d v).cpu.flags = m.cpu.flags := by
  cases d with
  | register r => cases r <;> rfl
  | accumulator => rfl
  | memory p => cases p <;> rfl

lemma flags_replace (x : Location) (v : UInt8) (f : Flags) : (m.replace x v f).cpu.flags = f := by
  cases x <;> rfl

end Machine

/-! ## Instructions -/

/-- What an instruction makes of the registers other than the flags, when the program counter has
moved past it. -/
structure Instruction.Effect (i : Instruction) (c c' : Cpu) : Prop where
  /-- Only some byte registers change. -/
  registers : ∀ r, r ∉ i.changedRegisters → c'.get r = c.get r
  /-- The stack pointer moves as it should. -/
  sp : c'.sp = i.stackPointer c
  /-- The program counter is kept unless the instruction leaves the sequence. -/
  pc : i.isTaken c.flags = false → c'.pc = c.pc

/-- An instruction that changes byte registers only. -/
lemma Instruction.Effect.of_within {i : Instruction} {c c' : Cpu}
    (h : Cpu.Within i.changedRegisters c c') (plain : i.stackPointer c = c.sp) : i.Effect c c' :=
  ⟨h.registers, h.sp.trans plain.symm, fun _ => h.pc⟩

/-- An instruction that puts a word into a word register, which can be the stack pointer. -/
lemma Cpu.effect_setPair {c : Cpu} {i : Instruction} {p : Pair} {w : UInt16}
    (registers : i.changedRegisters = p.registers)
    (stack : i.stackPointer c = if p = .sp then w else c.sp) : i.Effect c (c.setPair p w) := by
  by_cases pointer : p = .sp
  · subst pointer
    exact ⟨fun _ _ => rfl, stack.symm, fun _ => rfl⟩
  · refine .of_within ?_ (stack.trans (if_neg pointer))
    rw [registers]
    exact c.within_setPair pointer w

namespace Machine

variable (m : Machine)

/-- An instruction that, on a condition, either is taken or does nothing. -/
lemma effect_conditional {i : Instruction} {cc : Condition} {taken : Machine}
    (condition : i.isTaken m.cpu.flags = cc.holds m.cpu.flags)
    (registers : ∀ r, taken.cpu.get r = m.cpu.get r)
    (sp : i.stackPointer m.cpu = if cc.holds m.cpu.flags then taken.cpu.sp else m.cpu.sp) :
    i.Effect m.cpu (if cc.holds m.cpu.flags then taken else m).cpu := by
  by_cases holds : cc.holds m.cpu.flags
  · rw [if_pos holds] at sp ⊢
    refine ⟨fun r _ => registers r, sp.symm, fun sequential => ?_⟩
    rw [condition, holds] at sequential
    cases sequential
  · rw [if_neg holds] at sp ⊢
    exact .of_within (.refl _ m.cpu) sp

/-- Every instruction that has an encoding keeps to the tables. -/
theorem effect_execute {i : Instruction} (encodable : i.isEncodable) :
    i.Effect m.cpu (m.execute i).cpu := by
  cases i with
  | load d s =>
    refine .of_within ?_ rfl
    exact (m.within_afterSource s).append ((m.afterSource s).within_store d _)
  | loadPair p w | incrementPair p | decrementPair p =>
    exact Cpu.effect_setPair rfl (by cases p <;> rfl)
  | loadHlSp e | addHl p =>
    refine .of_within ?_ rfl
    exact (m.cpu.within_setHl _).withFlags _
  | pop p =>
    have other : p ≠ .sp := bne_iff_ne.1 encodable
    obtain ⟨registers, sp, pc⟩ := m.drop.cpu.within_setPair other m.top
    exact ⟨registers, sp, fun _ => pc⟩
  | arithmetic op s =>
    have read : m.afterSource s = m := by
      cases s with
      | immediate n => rfl
      | _ => exact m.afterSource_of_coded encodable
    rw [execute, arithmetic, read]
    cases op with
    | compare =>
      refine .of_within ?_ rfl
      exact (Cpu.Within.refl [] m.cpu).withFlags _
    | _ =>
      refine .of_within ?_ rfl
      exact (m.cpu.within_set .a _).withFlags _
  | testBit n s =>
    rw [execute, m.afterSource_of_coded encodable]
    refine .of_within ?_ rfl
    exact (Cpu.Within.refl [] m.cpu).withFlags _
  | increment x | decrement x | rotate op x | swap x | setBit n x | resetBit n x =>
    refine .of_within ?_ rfl
    exact m.within_replace x _ _
  | decimalAdjust | complement =>
    refine .of_within ?_ rfl
    exact (m.cpu.within_set .a _).withFlags _
  | jumpIf cc a | jumpByIf cc e =>
    rw [execute]
    exact m.effect_conditional rfl (fun _ => rfl) (ite_self _).symm
  | callIf cc a | retIf cc =>
    rw [execute]
    exact m.effect_conditional rfl (fun _ => rfl) rfl
  | jump a | jumpHl | jumpBy e | call a | ret | retInterrupt | restart n =>
    exact ⟨fun _ _ => rfl, rfl, fun sequential => by cases sequential⟩
  | _ => exact ⟨fun _ _ => rfl, rfl, fun _ => rfl⟩

/-- Every instruction that has an encoding keeps the flags of the table. -/
theorem flags_execute {i : Instruction} (encodable : i.isEncodable) {f : Flag}
    (kept : f ∈ i.keptFlags) : (m.execute i).cpu.flags.get f = m.cpu.flags.get f := by
  cases i with
  | arithmetic op s | rotate op x | swap x | addSp e | loadHlSp e =>
    exact absurd kept List.not_mem_nil
  | increment x | decrement x =>
    obtain rfl := List.mem_singleton.1 kept
    rw [execute, flags_replace]
    rfl
  | testBit n s | addHl p | setCarry | complementCarry | decimalAdjust =>
    obtain rfl := List.mem_singleton.1 kept
    rfl
  | complement =>
    obtain rfl | only := List.mem_cons.1 kept
    · rfl
    · obtain rfl := List.mem_singleton.1 only
      rfl
  | load d s => rw [execute, flags_store, flags_afterSource]
  | setBit n x | resetBit n x => rw [execute, flags_replace]
  | loadPair p w | incrementPair p | decrementPair p =>
    have other : p ≠ .af := bne_iff_ne.1 encodable
    rw [execute, Cpu.flags_setPair _ other]
  | pop p =>
    by_cases flags : p = .af
    · subst flags
      exact absurd kept List.not_mem_nil
    · exact congrArg (Flags.get · f) (m.drop.cpu.flags_setPair flags m.top)
  | jumpIf cc a | jumpByIf cc e | callIf cc a | retIf cc =>
    rw [execute]
    split_ifs <;> rfl
  | _ => rfl

end Machine

/-- The instruction copies a byte, or it has an encoding and the table says that it keeps the
carry. -/
def Instruction.KeepsCarry (i : Instruction) : Prop :=
  (∃ d s, i = .load d s) ∨ (i.isEncodable ∧ Flag.carry ∈ i.keptFlags)

namespace Machine

variable (m : Machine)

lemma carry_execute {i : Instruction} (kept : i.KeepsCarry) :
    (m.execute i).cpu.flags.carry = m.cpu.flags.carry := by
  rcases kept with ⟨d, s, rfl⟩ | ⟨encodable, kept⟩
  · rw [execute, flags_store, flags_afterSource]
  · exact m.flags_execute encodable kept

/-- A sequence of instructions that keep the carry keeps the carry. -/
lemma carry_foldl_execute {loads : List Instruction} (kept : ∀ i ∈ loads, i.KeepsCarry) :
    (loads.foldl execute m).cpu.flags.carry = m.cpu.flags.carry := by
  induction loads generalizing m with
  | nil => rfl
  | cons i loads ih =>
    obtain ⟨first, others⟩ := List.forall_mem_cons.1 kept
    exact (ih (m.execute i) others).trans (m.carry_execute first)

end Machine

/-! ## Steps -/

/-- What a step that executes an instruction makes of the registers, where `next` is the address of
the instruction after it. -/
structure Instruction.Footprint (i : Instruction) (next : UInt16) (c c' : Cpu) : Prop where
  /-- Some flags are kept. -/
  flags : ∀ f, f ∈ i.keptFlags → c'.flags.get f = c.flags.get f
  /-- Only some byte registers change. -/
  registers : ∀ r, r ∉ i.changedRegisters → c'.get r = c.get r
  /-- The stack pointer moves as the instruction says. -/
  sp : c'.sp = i.stackPointer c
  /-- The program counter is at the next instruction, unless this one leaves the sequence. -/
  pc : i.isTaken c.flags = false → c'.pc = next
  /-- The processor runs, unless the instruction suspends it. -/
  mode : c'.mode = if i = .halt then .halted else if i = .stop then .stopped else .running
  /-- A change of the acceptance of interrupts that was waiting is made, and `RETI` accepts them. -/
  ime : c'.ime = if i = .retInterrupt then true else c.pendingIme.getD c.ime
  /-- Only `DI` and `EI` leave a change waiting. -/
  pendingIme : c'.pendingIme =
    if i = .disableInterrupts then some false
    else if i = .enableInterrupts then some true
    else none

/-- What the execution of an instruction makes of the control. -/
lemma Event.control_executed (i : Instruction) (cycles : Nat) (k : Control) :
    (executed i cycles).control k =
      { ime := if i = .retInterrupt then true else k.pendingIme.getD k.ime
        pendingIme :=
          if i = .disableInterrupts then some false
          else if i = .enableInterrupts then some true
          else none
        mode := if i = .halt then .halted else if i = .stop then .stopped else .running } := by
  cases i <;> rfl

/-- A machine that runs after it was resumed ran before, or was woken by an interrupt. -/
lemma Machine.running_or_woken {m : Machine} (running : m.resume.cpu.mode = .running) :
    m.cpu.mode = .running ∨ m.cpu.mode = .halted ∧ m.interruptPending := by
  by_cases woken : m.cpu.mode = .halted ∧ m.interruptPending
  · exact .inr woken
  · rw [resume_of_not woken] at running
    exact .inl running

/-- **The footprint of a step.** A step that executes an instruction executes the one at the program
counter, in a processor that runs or that a pending interrupt wakes. It keeps the flags that the
instruction keeps and the byte registers that the instruction does not name, moves the stack pointer
as the instruction says, and goes on at the next instruction unless a jump, a call, a return or a
restart is taken. The mode changes by the waking, `HALT` and `STOP` only. The change of the
acceptance of interrupts that was waiting is made; only `RETI` goes beyond it, and only `DI` and
`EI` leave another. -/
theorem step_footprint (m : Machine) {i : Instruction} {cycles : Nat}
    (executed : m.step.1 = .executed i cycles) :
    ∃ next, Instruction.decode m.memory m.cpu.pc = .ok (i, next) ∧
      (m.cpu.mode = .running ∨ m.cpu.mode = .halted ∧ m.interruptPending) ∧
      i.Footprint next m.cpu m.step.2.cpu := by
  have transition : m.Transition m.step.1 m.step.2 := Machine.transition_of_step rfl
  rw [executed] at transition
  generalize m.step.2 = m' at transition
  have control := transition.control
  rw [Event.control_executed] at control
  cases transition with
  | @executed _ next running decoded =>
    have encodable := Instruction.isEncodable_of_decode decoded
    have flags {f : Flag} := (m.resume.start next).flags_execute encodable (f := f)
    obtain ⟨registers, sp, pc⟩ := (m.resume.start next).effect_execute encodable
    -- Resuming and starting touch the control and the program counter only.
    have started : (m.resume.start next).cpu =
        { m.cpu with
          ime := m.cpu.pendingIme.getD m.cpu.ime, pendingIme := none, pc := next
          mode := .running } := by
      rw [Machine.resume_of_running running]
      rfl
    rw [started] at flags registers sp pc
    exact ⟨next, decoded, Machine.running_or_woken running,
      { flags := fun f kept => flags kept
        registers := registers
        sp := sp
        pc := pc
        mode := congrArg Control.mode control
        ime := congrArg Control.ime control
        pendingIme := congrArg Control.pendingIme control }⟩

/-- A halted processor with an enabling change waiting, and a `POP DE` to execute. -/
def haltedBeforePop : Machine where
  cpu := { Cpu.powerOn with mode := .halted, pendingIme := some true, sp := 0xC000 }
  memory := ((Memory.powerOn.write 0xFFFF 0x01).write 0xFF0F 0x01).write 0x0100 0xD1
  lastCycles := 0

/-- The processor is woken and accepts interrupts, and nothing but `DE` and the pointers change. -/
theorem step_footprint_pop :
    haltedBeforePop.step.1 = .executed (.pop .de) 12 ∧
      ∃ next, Instruction.decode haltedBeforePop.memory haltedBeforePop.cpu.pc =
          .ok (.pop .de, next) ∧
        (haltedBeforePop.cpu.mode = .running ∨
          haltedBeforePop.cpu.mode = .halted ∧ haltedBeforePop.interruptPending) ∧
        Instruction.Footprint (.pop .de) next haltedBeforePop.cpu haltedBeforePop.step.2.cpu := by
  have executed : haltedBeforePop.step.1 = .executed (.pop .de) 12 := by decide +kernel
  exact ⟨executed, step_footprint haltedBeforePop executed⟩

end GameBoy
