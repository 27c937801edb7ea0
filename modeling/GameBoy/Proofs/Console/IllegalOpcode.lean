import GameBoy.Proofs.Console.Slicing
import GameBoy.Proofs.Interrupt.Dispatch
import GameBoy.Proofs.Machine.FailedStep
import GameBoy.Proofs.Machine.Footprint

/-!
# Opcodes without a meaning

Eleven opcodes have no meaning. A step of the machine fails exactly when the processor is not
suspended and one of them is at the program counter, and the failure names both.

A console cannot get past such an opcode by itself. A failed step does no more than resume the
processor, and a processor that was resumed is not resumed again, decodes the same opcode, and is
not interrupted if it was not interrupted before: the choice of the next interrupt does not tell a
running processor from a halted one (`Machine.nextInterrupt?_resume`). So the console after the
failure is a fixed point of the step (`Console.step_of_failed`), and of a frame with any budget.
-/

namespace GameBoy

/-! ## The opcodes -/

/-- The opcodes without a meaning. -/
def Opcode.unassigned : List UInt8 :=
  [0xD3, 0xDB, 0xDD, 0xE3, 0xE4, 0xEB, 0xEC, 0xED, 0xF4, 0xFC, 0xFD]

lemma Encoding.ofOpcode?_eq_none_iff (op : UInt8) :
    ofOpcode? op = none ↔ op ∈ Opcode.unassigned := by
  have grid : ∀ n < 256, (ofOpcode? (UInt8.ofNat n)).isNone =
      decide (UInt8.ofNat n ∈ Opcode.unassigned) := by
    decide +kernel
  have entry := grid op.toNat op.toNat_lt
  rw [UInt8.ofNat_toNat] at entry
  rw [← Option.isNone_iff_eq_none, entry, decide_eq_true_iff]

/-- Decoding fails at an opcode without a meaning, and names it. -/
lemma Instruction.decode_eq_error_iff {m : Memory} {pc : UInt16} {x : IllegalOpcode} :
    decode m pc = .error x ↔ m.read pc ∈ Opcode.unassigned ∧ x = ⟨m.read pc, pc⟩ := by
  rw [← Encoding.ofOpcode?_eq_none_iff, decode]
  cases Encoding.ofOpcode? (m.read pc) with
  | some e => simp
  | none => simp [eq_comm]

/-! ## Steps of the machine -/

namespace Machine

variable {m : Machine} {x : IllegalOpcode}

/-- A processor runs after it was resumed if it ran before, or was woken by an interrupt. -/
lemma running_resume_iff :
    m.resume.cpu.mode = .running ↔
      m.cpu.mode = .running ∨ m.cpu.mode = .halted ∧ m.interruptPending := by
  constructor
  · exact running_or_woken
  · rintro (running | woken)
    · rw [resume_eq_self running, running]
    · rw [resume_of_halted woken]

/-- A machine that runs once it was resumed fails if there is no instruction at the program
counter. -/
lemma step_of_error (running : m.resume.cpu.mode = .running)
    (decoded : Instruction.decode m.memory m.cpu.pc = .error x) :
    m.step = (.illegal x, m.resume) := by
  unfold step
  simp only [memory_resume, pc_resume]
  rw [if_pos running, decoded]

/-- When a step fails, and how. -/
lemma cost_step_eq_error_iff :
    m.step.1.cost = .error x ↔
      m.resume.cpu.mode = .running ∧ Instruction.decode m.memory m.cpu.pc = .error x := by
  rw [Event.cost_eq_error_iff]
  constructor
  · intro failed
    have transition : m.Transition (.illegal x) m.step.2 :=
      transition_of_step (Prod.ext failed rfl)
    generalize m.step.2 = m' at transition
    cases transition with
    | illegal running decoded => exact ⟨running, decoded⟩
  · rintro ⟨running, decoded⟩
    rw [step_of_error running decoded]

/-- The next interrupt is the same for a processor that was resumed. -/
lemma nextInterrupt?_resume : m.resume.nextInterrupt? = m.nextInterrupt? := by
  by_cases woken : m.cpu.mode = .halted ∧ m.interruptPending
  · have awake : (m.cpu.mode != .stopped) = true := by
      rw [woken.1]
      rfl
    rw [resume_of_halted woken]
    unfold nextInterrupt?
    rw [awake]
    rfl
  · rw [resume_of_not woken]

/-- A machine fails again after a failure, and stays as it is. -/
lemma step_resume_of_error (running : m.resume.cpu.mode = .running)
    (decoded : Instruction.decode m.memory m.cpu.pc = .error x) :
    m.resume.step = (.illegal x, m.resume) := by
  have again : m.resume.resume = m.resume := resume_eq_self running
  rw [← memory_resume, ← pc_resume] at decoded
  rw [step_of_error (by rwa [again]) decoded, again]

end Machine

/-! ## Steps of the console -/

namespace Console

variable {c : Console} {x : IllegalOpcode}

/-- A console fails again after a failure, and stays as it is. -/
lemma step_of_failed (failed : c.step.1.cost = .error x) :
    c.step.2.step = (.illegal x, c.step.2) := by
  have transition : c.Transition (.illegal x) c.step.2 :=
    transition_of_step (Prod.ext (Event.cost_eq_error_iff.1 failed) rfl)
  generalize c.step.2 = d at transition
  cases transition with
  | stepped quiet step =>
    cases step with
    | illegal running decoded =>
      have quiet' : c.config.serviceInterrupts → c.machine.resume.nextInterrupt? = none := by
        rwa [Machine.nextInterrupt?_resume]
      rw [step_of_not_dispatched quiet', Machine.step_resume_of_error running decoded]

/-- No number of steps changes a console that failed. -/
lemma steps_of_failed (failed : c.step.1.cost = .error x) (n : ℕ) :
    c.step.2.steps n = c.step.2 :=
  Function.iterate_fixed (congrArg Prod.snd (step_of_failed failed)) n

/-- A frame of a console that failed fails, whatever its budget is. -/
lemma runFrame_of_failed (failed : c.step.1.cost = .error x) {budget : UInt32}
    (positive : 1 ≤ budget) :
    (c.step.2.withBudget budget).runFrame = (.error x, c.step.2.withBudget budget) := by
  have again : (c.step.2.withBudget budget).step = (.illegal x, c.step.2.withBudget budget) := by
    rw [(unseen_withBudget budget).step, step_of_failed failed]
  have cost : (c.step.2.withBudget budget).step.1.cost = .error x := by
    rw [again]
    rfl
  have left : 0 < (c.step.2.withBudget budget).config.frameCycles.toNat :=
    UInt32.le_iff_toNat_le.1 positive
  rw [runFrame, runUntil_of_error left cost, again]

end Console

/-- **Opcodes without a meaning are final.** A step of the machine fails exactly if the processor
runs, or is halted while an interrupt is requested and enabled, and one of the eleven opcodes
without a meaning is at the program counter; the failure names the opcode and the program counter.
After a step of the console that failed, all further steps fail in the same way and change nothing,
and so does a frame with any budget. -/
theorem illegalOpcode_final :
    (∀ (m : Machine) (x : IllegalOpcode), m.step.1.cost = .error x ↔
      (m.cpu.mode = .running ∨ m.cpu.mode = .halted ∧
        m.memory.read 0xFFFF &&& m.memory.read 0xFF0F &&& 0x1F ≠ 0) ∧
      m.memory.read m.cpu.pc ∈ Opcode.unassigned ∧ x = ⟨m.memory.read m.cpu.pc, m.cpu.pc⟩) ∧
    ∀ (c : Console) (x : IllegalOpcode), c.step.1.cost = .error x →
      (∀ n, (c.step.2.stepEvent n).cost = .error x ∧ c.step.2.steps n = c.step.2) ∧
      ∀ budget : UInt32, 1 ≤ budget →
        (c.step.2.withBudget budget).runFrame = (.error x, c.step.2.withBudget budget) := by
  constructor
  · intro m x
    rw [Machine.cost_step_eq_error_iff, Machine.running_resume_iff,
      Instruction.decode_eq_error_iff, Machine.interruptPending, bne_iff_ne,
      Machine.pendingInterrupts_eq]
  · intro c x failed
    constructor
    · intro n
      have kept := Console.steps_of_failed failed n
      rw [Console.stepEvent, kept, Console.step_of_failed failed]
      exact ⟨rfl, rfl⟩
    · intro budget positive
      exact Console.runFrame_of_failed failed positive

/-- A halted console that an interrupt wakes in front of such an opcode fails there for good. -/
theorem illegalOpcode_final_halted :
    (haltedBeforeIllegal.step.1.cost = .error ⟨0xD3, 0x0101⟩ ∧ (1 : UInt32) ≤ 1) ∧
      haltedBeforeIllegal.step.2 ≠ haltedBeforeIllegal ∧
      (∀ n, (haltedBeforeIllegal.step.2.stepEvent n).cost = .error ⟨0xD3, 0x0101⟩ ∧
        haltedBeforeIllegal.step.2.steps n = haltedBeforeIllegal.step.2) ∧
      (haltedBeforeIllegal.step.2.withBudget 1).runFrame.1 = .error ⟨0xD3, 0x0101⟩ := by
  have failed : haltedBeforeIllegal.step.1.cost = .error ⟨0xD3, 0x0101⟩ := by rfl
  have woken : haltedBeforeIllegal.step.2 ≠ haltedBeforeIllegal := by
    intro same
    have mode := congrArg (fun c => c.machine.cpu.mode) same
    revert mode
    decide +kernel
  obtain ⟨-, final⟩ := illegalOpcode_final
  obtain ⟨steps, frames⟩ := final haltedBeforeIllegal ⟨0xD3, 0x0101⟩ failed
  exact ⟨⟨failed, by decide⟩, woken, steps, congrArg Prod.fst (frames 1 (by decide))⟩

end GameBoy
