import GameBoy.Console.Basic
import Mathlib.Tactic.Common

/-!
# What a step can do

`Machine.Transition` lists the three outcomes of a step of the machine, each with what must hold
before it and the machine after it; `Console.Transition` adds the dispatch of an interrupt. Every
step is one of these transitions, so that statements about steps are proved by going through the
list and never by opening `step` itself.
-/

namespace GameBoy

namespace Machine

variable {m m' : Machine} {e : Event}

/-! ## Resuming -/

/-- Resuming changes the mode at most. -/
lemma resume_eq (m : Machine) :
    m.resume = { m with cpu := { m.cpu with mode := m.resume.cpu.mode } } := by
  unfold resume
  split_ifs <;> rfl

/-- A machine that is not halted, or that no interrupt wakes, is kept by resuming. -/
lemma resume_of_not (h : ¬(m.cpu.mode = .halted ∧ m.interruptPending)) : m.resume = m :=
  if_neg h

/-- A machine that runs is kept by resuming. -/
lemma resume_eq_self (running : m.cpu.mode = .running) : m.resume = m := by
  apply resume_of_not
  rintro ⟨halted, -⟩
  rw [running] at halted
  cases halted

/-- A machine that is halted is made to run by an interrupt. -/
lemma resume_of_halted (h : m.cpu.mode = .halted ∧ m.interruptPending) :
    m.resume = { m with cpu := { m.cpu with mode := .running } } :=
  if_pos h

/-- A machine that runs after it was resumed is the same machine, running. -/
lemma resume_of_running (h : m.resume.cpu.mode = .running) :
    m.resume = { m with cpu := { m.cpu with mode := .running } } := by
  rw [resume_eq, h]

@[simp] theorem memory_resume (m : Machine) : m.resume.memory = m.memory := by
  rw [resume_eq]

@[simp] theorem pc_resume (m : Machine) : m.resume.cpu.pc = m.cpu.pc := by
  rw [resume_eq]

@[simp] theorem flags_resume (m : Machine) : m.resume.cpu.flags = m.cpu.flags := by
  rw [resume_eq]

@[simp] theorem sp_resume (m : Machine) : m.resume.cpu.sp = m.cpu.sp := by
  rw [resume_eq]

/-! ## Steps of the machine -/

/-- The outcomes of a step of the machine. -/
inductive Transition (m : Machine) : Event → Machine → Prop
  /-- The instruction at the program counter is executed. -/
  | executed {i : Instruction} {next : UInt16} (running : m.resume.cpu.mode = .running)
      (decoded : Instruction.decode m.memory m.cpu.pc = .ok (i, next)) :
      Transition m (.executed i (i.cycles m.cpu.flags))
        { (m.resume.start next).execute i with lastCycles := i.cycles m.cpu.flags }
  /-- There is no instruction at the program counter. -/
  | illegal {e : IllegalOpcode} (running : m.resume.cpu.mode = .running)
      (decoded : Instruction.decode m.memory m.cpu.pc = .error e) :
      Transition m (.illegal e) m.resume
  /-- The processor is suspended. -/
  | suspended (asleep : m.resume.cpu.mode ≠ .running) :
      Transition m .suspended { m with lastCycles := 0 }

/-- Every step is one of the transitions. -/
theorem transition_of_step (h : m.step = (e, m')) : m.Transition e m' := by
  unfold step at h
  simp only [memory_resume, pc_resume, flags_resume] at h
  by_cases running : m.resume.cpu.mode = .running
  · rw [if_pos running] at h
    cases decoded : Instruction.decode m.memory m.cpu.pc with
    | ok decoded' =>
      rw [decoded] at h
      obtain ⟨rfl, rfl⟩ := Prod.mk.inj h
      exact .executed running decoded
    | error e =>
      rw [decoded] at h
      obtain ⟨rfl, rfl⟩ := Prod.mk.inj h
      exact .illegal running decoded
  · rw [if_neg running] at h
    obtain ⟨rfl, rfl⟩ := Prod.mk.inj h
    -- A machine that stays asleep was not changed by the attempt to resume it.
    have kept : m.resume = m := by
      refine resume_of_not fun halted => running ?_
      rw [resume_of_halted halted]
    rw [kept]
    exact .suspended running

/-- A machine that runs once it was resumed executes the instruction at the program counter. -/
lemma step_of_resumed {i : Instruction} {next : UInt16} (running : m.resume.cpu.mode = .running)
    (decoded : Instruction.decode m.memory m.cpu.pc = .ok (i, next)) :
    m.step = (.executed i (i.cycles m.cpu.flags),
      { (m.resume.start next).execute i with lastCycles := i.cycles m.cpu.flags }) := by
  unfold step
  simp only [memory_resume, pc_resume, flags_resume]
  rw [if_pos running, decoded]

/-- A machine that runs executes the instruction at the program counter. -/
lemma step_of_decoded {i : Instruction} {next : UInt16} (running : m.cpu.mode = .running)
    (decoded : Instruction.decode m.memory m.cpu.pc = .ok (i, next)) :
    m.step = (.executed i (i.cycles m.cpu.flags),
      { (m.start next).execute i with lastCycles := i.cycles m.cpu.flags }) := by
  have kept : m.resume = m := resume_eq_self running
  rw [step_of_resumed (by rwa [kept]) decoded, kept]

/-- A step of the machine dispatches no interrupt. -/
lemma Transition.not_dispatched {i : Interrupt} : ¬ m.Transition (.dispatched i) m' := by
  intro h
  cases h

/-! ## Interrupts -/

/-- The choice among all bits is the choice among those that stand for an interrupt. -/
lemma mostUrgent?_pendingInterrupts (m : Memory) :
    Interrupt.mostUrgent? m.pendingInterrupts = m.io.mostUrgent? m.interruptEnable := by
  rw [Memory.pendingInterrupts, Interrupt.mostUrgent?_and_mask, IoPage.mostUrgent?, UInt8.and_comm]

/-- An interrupt is dispatched only if the processor accepts interrupts and does not wait for a
button. -/
lemma nextInterrupt?_eq_some {i : Interrupt} (h : m.nextInterrupt? = some i) :
    m.cpu.mode ≠ .stopped ∧ m.cpu.ime ∧ m.interruptPending ∧
      Interrupt.mostUrgent? m.memory.pendingInterrupts = some i := by
  unfold nextInterrupt? interruptTriggered at h
  split_ifs at h with due
  simp only [Bool.and_eq_true, bne_iff_ne, ne_eq] at due
  rw [← mostUrgent?_pendingInterrupts] at h
  exact ⟨due.1, due.2.1, due.2.2, h⟩

/-- The most urgent interrupt is dispatched if the processor accepts interrupts and does not wait
for a button. -/
lemma nextInterrupt?_of_accepted (awake : m.cpu.mode ≠ .stopped) (accepted : m.cpu.ime)
    (pending : m.interruptPending) :
    m.nextInterrupt? = Interrupt.mostUrgent? m.memory.pendingInterrupts := by
  unfold nextInterrupt? interruptTriggered
  rw [accepted, pending, bne_iff_ne.2 awake, mostUrgent?_pendingInterrupts]
  rfl

/-- Nothing is dispatched to a processor that waits for a button or refuses interrupts, or if no
interrupt is pending. -/
lemma nextInterrupt?_eq_none_of_not
    (h : ¬(m.cpu.mode ≠ .stopped ∧ m.cpu.ime ∧ m.interruptPending)) : m.nextInterrupt? = none := by
  cases due : m.nextInterrupt? with
  | none => rfl
  | some i =>
    obtain ⟨awake, accepted, pending, -⟩ := nextInterrupt?_eq_some due
    exact absurd ⟨awake, accepted, pending⟩ h

/-- No interrupt is dispatched to a processor that refuses them. -/
lemma nextInterrupt?_eq_none (h : m.cpu.ime = false) : m.nextInterrupt? = none := by
  refine nextInterrupt?_eq_none_of_not ?_
  rintro ⟨-, accepted, -⟩
  rw [h] at accepted
  cases accepted

lemma serviceInterrupt_of_some {i : Interrupt} (h : m.nextInterrupt? = some i) :
    m.serviceInterrupt = (some i, m.dispatch i) := by
  rw [serviceInterrupt, h]

lemma serviceInterrupt_of_none (h : m.nextInterrupt? = none) : m.serviceInterrupt = (none, m) := by
  rw [serviceInterrupt, h]

/-- The interrupt that is served is the one that is dispatched. -/
lemma serviceInterrupt_eq_some {i : Interrupt} (h : m.serviceInterrupt.1 = some i) :
    m.serviceInterrupt = (some i, m.dispatch i) := by
  cases next : m.nextInterrupt? with
  | none =>
    rw [serviceInterrupt_of_none next] at h
    cases h
  | some j =>
    rw [serviceInterrupt_of_some next] at h ⊢
    obtain rfl := Option.some.inj h
    rfl

end Machine

namespace Console

variable {c c' : Console} {e : Event}

/-- The outcomes of a step of the console. -/
inductive Transition (c : Console) : Event → Console → Prop
  /-- An interrupt is dispatched. -/
  | dispatched {i : Interrupt} (allowed : c.config.serviceInterrupts)
      (due : c.machine.nextInterrupt? = some i) :
      Transition c (.dispatched i) { c with machine := c.machine.dispatch i }
  /-- No interrupt is dispatched, and the machine makes a step. -/
  | stepped {e : Event} {m : Machine}
      (quiet : c.config.serviceInterrupts → c.machine.nextInterrupt? = none)
      (step : c.machine.Transition e m) :
      Transition c e { c with machine := m }

/-- Every step is one of the transitions. -/
theorem transition_of_step (h : c.step = (e, c')) : c.Transition e c' := by
  unfold step serviceInterrupt at h
  by_cases allowed : c.config.serviceInterrupts
  · rw [if_pos allowed] at h
    cases due : c.machine.nextInterrupt? with
    | some i =>
      rw [Machine.serviceInterrupt_of_some due] at h
      obtain ⟨rfl, rfl⟩ := Prod.mk.inj h
      exact .dispatched allowed due
    | none =>
      rw [Machine.serviceInterrupt_of_none due] at h
      obtain ⟨rfl, rfl⟩ := Prod.mk.inj h
      exact .stepped (fun _ => due) (Machine.transition_of_step rfl)
  · rw [if_neg allowed] at h
    obtain ⟨rfl, rfl⟩ := Prod.mk.inj h
    exact .stepped (fun yes => absurd yes allowed) (Machine.transition_of_step rfl)

/-- A console dispatches the interrupt that is due. -/
lemma step_of_due {i : Interrupt} (allowed : c.config.serviceInterrupts)
    (due : c.machine.nextInterrupt? = some i) :
    c.step = (.dispatched i, { c with machine := c.machine.dispatch i }) := by
  unfold step serviceInterrupt
  rw [if_pos allowed, Machine.serviceInterrupt_of_some due]

/-- A console makes the step of its machine if it does not dispatch an interrupt, because none is due
or because the settings do not allow it. -/
lemma step_of_not_dispatched
    (quiet : c.config.serviceInterrupts → c.machine.nextInterrupt? = none) :
    c.step = (c.machine.step.1, { c with machine := c.machine.step.2 }) := by
  unfold step serviceInterrupt
  by_cases allowed : c.config.serviceInterrupts
  · rw [if_pos allowed, Machine.serviceInterrupt_of_none (quiet allowed)]
  · rw [if_neg allowed]

/-- A console makes the step of its machine if no interrupt is due. -/
lemma step_of_quiet (quiet : c.machine.nextInterrupt? = none) :
    c.step = (c.machine.step.1, { c with machine := c.machine.step.2 }) :=
  step_of_not_dispatched fun _ => quiet

/-- A console that dispatches an interrupt accepted interrupts, and the settings allow it. -/
lemma dispatched_of_step {i : Interrupt} (h : c.step = (.dispatched i, c')) :
    c.config.serviceInterrupts ∧ c.machine.cpu.ime ∧
      c' = { c with machine := c.machine.dispatch i } := by
  cases transition_of_step h with
  | dispatched allowed due =>
    obtain ⟨-, accepted, -⟩ := Machine.nextInterrupt?_eq_some due
    exact ⟨allowed, accepted, rfl⟩
  | stepped quiet step => exact absurd step Machine.Transition.not_dispatched

end Console

end GameBoy
