import GameBoy.Proofs.Console.Schedule
import GameBoy.Proofs.Machine.Transition

/-!
# Failed steps

A step fails at an opcode without a meaning. A processor that runs is then left as it was, with all
of its memory. A halted processor that an interrupt wakes is not: it is resumed before the opcode
is found to have no meaning, and stays so. This is the only trace that a failed step leaves.
-/

namespace GameBoy

/-- A step fails if and only if there is no instruction to execute. -/
lemma Event.cost_eq_error_iff {e : Event} {x : IllegalOpcode} :
    e.cost = .error x ↔ e = .illegal x := by
  cases e <;> simp [cost]

namespace Machine

variable {m m' : Machine} {x : IllegalOpcode}

/-- A step that fails does no more than resume the machine, which runs afterwards. -/
lemma Transition.eq_resume (h : m.Transition (.illegal x) m') :
    m' = m.resume ∧ m.resume.cpu.mode = .running := by
  cases h with
  | illegal running decoded => exact ⟨rfl, running⟩

/-- A machine that runs after it was resumed is the same as before, unless it was halted. -/
lemma resume_eq_self_iff (h : m.resume.cpu.mode = .running) :
    m.resume = m ↔ ¬(m.cpu.mode = .halted ∧ m.interruptPending) := by
  constructor
  · intro same halted
    rw [same, halted.1] at h
    cases h
  · exact resume_of_not

end Machine

namespace Console

variable {c c' : Console} {x : IllegalOpcode}

/-- A step of the console that fails is a failed step of its machine. -/
lemma Transition.eq_resume (h : c.Transition (.illegal x) c') :
    c' = { c with machine := c.machine.resume } ∧ c.machine.resume.cpu.mode = .running := by
  cases h with
  | stepped quiet step =>
    obtain ⟨rfl, running⟩ := step.eq_resume
    exact ⟨rfl, running⟩

end Console

/-- **What a failed step leaves behind.** A step of any machine, or of the console around it, that
fails changes nothing but the mode, which is `running` afterwards; so it leaves everything as it
was exactly when the machine was not halted with an interrupt pending. -/
theorem failedStep_unchanged_iff (c : Console) (x : IllegalOpcode) :
    (c.machine.step.1.cost = .error x →
      c.machine.step.2 =
        { c.machine with cpu := { c.machine.cpu with mode := .running } } ∧
      (c.machine.step.2 = c.machine ↔
        ¬(c.machine.cpu.mode = .halted ∧ c.machine.interruptPending))) ∧
    (c.step.1.cost = .error x →
      c.step.2 = { c with
        machine := { c.machine with cpu := { c.machine.cpu with mode := .running } } } ∧
      (c.step.2 = c ↔ ¬(c.machine.cpu.mode = .halted ∧ c.machine.interruptPending))) := by
  constructor
  · intro failed
    have illegal : c.machine.step = (.illegal x, c.machine.step.2) :=
      Prod.ext (Event.cost_eq_error_iff.1 failed) rfl
    obtain ⟨same, running⟩ := (Machine.transition_of_step illegal).eq_resume
    rw [same]
    exact ⟨Machine.resume_of_running running, Machine.resume_eq_self_iff running⟩
  · intro failed
    have illegal : c.step = (.illegal x, c.step.2) :=
      Prod.ext (Event.cost_eq_error_iff.1 failed) rfl
    obtain ⟨same, running⟩ := (Console.transition_of_step illegal).eq_resume
    rw [same, ← Machine.resume_eq_self_iff running, ← Machine.resume_of_running running]
    refine ⟨rfl, fun e => congrArg Console.machine e, fun e => ?_⟩
    rw [e]

/-- A console that was halted in front of an opcode without a meaning, after which the display
requested an interrupt that is enabled. The processor refuses interrupts. -/
def haltedBeforeIllegal : Console :=
  (Console.powerOn {}).after
    [.host (.write 0x0100 0x76), .host (.write 0x0101 0xD3), .host (.write 0xFFFF 0x01),
      .step, .host (.request .vBlank)]

/-- The next step of the halted console and of its machine fails and leaves a change, as the
general statement says. -/
theorem failedStep_unchanged_iff_halted :
    (haltedBeforeIllegal.machine.step.1.cost = .error ⟨0xD3, 0x0101⟩ ∧
      haltedBeforeIllegal.step.1.cost = .error ⟨0xD3, 0x0101⟩) ∧
    haltedBeforeIllegal.machine.step.2 ≠ haltedBeforeIllegal.machine ∧
      haltedBeforeIllegal.step.2 ≠ haltedBeforeIllegal := by
  have inner : haltedBeforeIllegal.machine.step.1.cost = .error ⟨0xD3, 0x0101⟩ := by rfl
  have outer : haltedBeforeIllegal.step.1.cost = .error ⟨0xD3, 0x0101⟩ := by rfl
  have halted : haltedBeforeIllegal.machine.cpu.mode = .halted ∧
      haltedBeforeIllegal.machine.interruptPending := by decide +kernel
  refine ⟨⟨inner, outer⟩, fun e => ?_, fun e => ?_⟩
  · exact ((failedStep_unchanged_iff _ _).1 inner).2.1 e halted
  · exact ((failedStep_unchanged_iff _ _).2 outer).2.1 e halted

/-- A failed step can wake the processor, so failing is not all or nothing. -/
theorem failedStep_wakes :
    haltedBeforeIllegal.step.1.cost = .error ⟨0xD3, 0x0101⟩ ∧
      haltedBeforeIllegal.machine.cpu.mode = .halted ∧
      haltedBeforeIllegal.step.2.machine.cpu.mode = .running ∧
      haltedBeforeIllegal.machine.step.2.cpu.mode = .running := by
  refine ⟨by rfl, ?_⟩
  decide +kernel

end GameBoy
