import GameBoy.Console.Frame
import GameBoy.Proofs.Checked.Instruction
import GameBoy.Proofs.Console.Budget

/-!
# Checked runs

Steps, the dispatch of interrupts and frames, carried out with checks. With them, the machine that
checks everything is complete, and `checked_machine_has_no_faults` says that it does what the
machine without checks does: there is no input and no state in which a check fails.
-/

namespace GameBoy

open Checked

namespace Machine

/-- Resumes a processor that waits for an interrupt if one is there. -/
def resumeChecked (m : Machine) : Checked Machine :=
  if m.cpu.mode = .halted then do
    let pending ← m.memory.pendingInterruptsChecked
    return if pending != 0 then { m with cpu := m.cpu.wake } else m
  else return m

/-- Executes the instruction at the program counter, unless the processor is suspended. -/
def stepChecked (m : Machine) : Checked (Event × Machine) := do
  let m ← m.resumeChecked
  if m.cpu.mode = .running then
    let decoded ← Instruction.decodeChecked m.memory m.cpu.pc
    match decoded with
    | .ok (i, next) =>
      let cycles ← i.cyclesChecked m.cpu.flags
      let executed ← (m.start next).executeChecked i
      return (.executed i cycles, { executed with lastCycles := cycles })
    | .error e => return (.illegal e, m)
  else return (.suspended, { m with lastCycles := 0 })

/-- The interrupt that is dispatched next, if any. -/
def nextInterruptChecked? (m : Machine) : Checked (Option Interrupt) :=
  if m.cpu.mode != .stopped && m.cpu.ime then do
    let pending ← m.memory.pendingInterruptsChecked
    if pending != 0 then
      let requests ← m.memory.io.requestsChecked
      return Interrupt.mostUrgent? (requests &&& m.memory.interruptEnable)
    else return none
  else return none

/-- Dispatches an interrupt: the handler is called and the request withdrawn. -/
def dispatchChecked (m : Machine) (i : Interrupt) : Checked Machine := do
  let called ← m.callChecked i.handler
  let memory ← called.memory.withdrawChecked i
  return { cpu := { called.cpu with ime := false, mode := .running }
           memory := memory
           lastCycles := Event.dispatchCycles }

/-- Dispatches the next interrupt, if there is one. -/
def serviceInterruptChecked (m : Machine) : Checked (Option Interrupt × Machine) := do
  let next ← m.nextInterruptChecked?
  match next with
  | some i =>
    let dispatched ← m.dispatchChecked i
    return (some i, dispatched)
  | none => return (none, m)

variable (m : Machine)

@[simp] theorem resumeChecked_eq : m.resumeChecked = .ok m.resume := by
  rw [resumeChecked, resume]
  by_cases halted : m.cpu.mode = .halted
  · rw [if_pos halted, Memory.pendingInterruptsChecked_eq, ok_bind]
    by_cases pending : m.interruptPending
    · have waits : m.cpu.mode = .halted ∧ m.interruptPending := ⟨halted, pending⟩
      rw [if_pos waits]
      exact congrArg Except.ok (if_pos pending)
    · have sleeps : ¬(m.cpu.mode = .halted ∧ m.interruptPending) := mt And.right pending
      rw [if_neg sleeps]
      exact congrArg Except.ok (if_neg pending)
  · rw [if_neg halted, if_neg (mt And.left halted)]
    rfl

/-- A step has no faults. -/
@[simp] theorem stepChecked_eq : m.stepChecked = .ok m.step := by
  rw [stepChecked, resumeChecked_eq, ok_bind, step]
  dsimp only
  generalize m.resume = m
  by_cases running : m.cpu.mode = .running
  · rw [if_pos running, if_pos running, Instruction.decodeChecked_eq, ok_bind]
    cases Instruction.decode m.memory m.cpu.pc with
    | error e => rfl
    | ok decoded =>
      obtain ⟨i, next⟩ := decoded
      dsimp only
      rw [Instruction.cyclesChecked_eq, ok_bind, executeChecked_eq]
      rfl
  · rw [if_neg running, if_neg running]
    rfl

@[simp] theorem nextInterruptChecked?_eq : m.nextInterruptChecked? = .ok m.nextInterrupt? := by
  unfold nextInterruptChecked? nextInterrupt? interruptTriggered
  rw [← Bool.and_assoc]
  by_cases accepted : (m.cpu.mode != .stopped && m.cpu.ime) = true
  · rw [if_pos accepted, accepted, Bool.true_and, Memory.pendingInterruptsChecked_eq, ok_bind]
    change (if m.interruptPending then _ else _) = _
    by_cases pending : m.interruptPending
    · rw [if_pos pending, if_pos pending, IoPage.requestsChecked_eq]
      rfl
    · rw [if_neg pending, if_neg pending]
      rfl
  · rw [if_neg accepted, Bool.eq_false_of_not_eq_true accepted]
    rfl

@[simp] theorem dispatchChecked_eq (i : Interrupt) : m.dispatchChecked i = .ok (m.dispatch i) := by
  rw [dispatchChecked, callChecked_eq, ok_bind, Memory.withdrawChecked_eq]
  rfl

/-- The dispatch of an interrupt has no faults. -/
@[simp] theorem serviceInterruptChecked_eq :
    m.serviceInterruptChecked = .ok m.serviceInterrupt := by
  rw [serviceInterruptChecked, nextInterruptChecked?_eq, ok_bind, serviceInterrupt]
  cases m.nextInterrupt? with
  | none => rfl
  | some i =>
    dsimp only
    rw [dispatchChecked_eq]
    rfl

end Machine

namespace Console

/-- Dispatches the next interrupt, if there is one and the settings allow it. -/
def serviceInterruptChecked (c : Console) : Checked (Option Interrupt × Console) :=
  if c.config.serviceInterrupts then do
    let (interrupt?, machine) ← c.machine.serviceInterruptChecked
    return (interrupt?, { c with machine := machine })
  else return (none, c)

/-- Dispatches an interrupt or executes an instruction. -/
def stepChecked (c : Console) : Checked (Event × Console) := do
  let (interrupt?, c) ← c.serviceInterruptChecked
  match interrupt? with
  | some i => return (.dispatched i, c)
  | none =>
    let (event, machine) ← c.machine.stepChecked
    return (event, { c with machine := machine })

/-- Runs steps until `spent` reaches the budget, the processor is suspended, or a step fails. -/
def runUntilChecked (budget : UInt32) (spent : ℕ) (c : Console) :
    Checked (Except IllegalOpcode FrameSummary × Console) :=
  if spent < budget.toNat then
    match c.stepChecked with
    | .error fault => .error fault
    | .ok (event, c) =>
      match event.cost with
      | .error e => return (.error e, c)
      | .ok 0 => return (.ok ⟨spent, true⟩, c)
      | .ok (n + 1) => runUntilChecked budget (spend spent (n + 1)) c
  else return (.ok ⟨spent, false⟩, c)
termination_by budget.toNat - spent
decreasing_by
  have := budget.toNat_lt
  simp only [spend, maxFrameCycles]
  omega

/-- Runs a frame. -/
def runFrameChecked (c : Console) : Checked (Except IllegalOpcode FrameSummary × Console) :=
  runUntilChecked c.config.frameCycles 0 c

@[simp] theorem serviceInterruptChecked_eq (c : Console) :
    c.serviceInterruptChecked = .ok c.serviceInterrupt := by
  rw [serviceInterruptChecked, serviceInterrupt]
  by_cases serviced : c.config.serviceInterrupts
  · rw [if_pos serviced, if_pos serviced, Machine.serviceInterruptChecked_eq]
    rfl
  · rw [if_neg serviced, if_neg serviced]
    rfl

@[simp] theorem stepChecked_eq (c : Console) : c.stepChecked = .ok c.step := by
  rw [stepChecked, serviceInterruptChecked_eq, ok_bind, step]
  obtain ⟨interrupt?, served⟩ := c.serviceInterrupt
  cases interrupt? with
  | some i => rfl
  | none =>
    dsimp only
    rw [Machine.stepChecked_eq]
    rfl

/-- A run of steps has no faults: none of its steps has one, and the count of cycles stays at its
maximum where it would leave its register. -/
theorem runUntilChecked_eq (budget : UInt32) (spent : ℕ) (c : Console) :
    runUntilChecked budget spent c = .ok (runUntil budget spent c) := by
  fun_induction runUntil budget spent c with
  | case1 spent c left event next stepped e failed =>
    rw [runUntilChecked, if_pos left, stepChecked_eq, stepped]
    simp only [failed]
    rfl
  | case2 spent c left event next stepped free =>
    rw [runUntilChecked, if_pos left, stepChecked_eq, stepped]
    simp only [free]
    rfl
  | case3 spent c left event next stepped n cost ih =>
    rw [runUntilChecked, if_pos left, stepChecked_eq, stepped]
    simp only [cost]
    exact ih
  | case4 spent c used =>
    rw [runUntilChecked, if_neg used]
    rfl

/-- A checked run goes round by round, with the test of the processor's mode after a free step, and
it is the only one that does. -/
theorem runUntilChecked_eq_iff {budget : UInt32}
    {f : ℕ → Console → Except IllegalOpcode FrameSummary × Console} :
    (∀ cycles c, runUntilChecked budget cycles c = .ok (f cycles c)) ↔
      ∀ cycles c, f cycles c = frameRound budget f cycles c := by
  rw [← eq_runUntil_iff]
  constructor
  · intro same
    funext cycles c
    have checked := same cycles c
    rw [runUntilChecked_eq] at checked
    exact (Except.ok.inj checked).symm
  · rintro rfl
    exact runUntilChecked_eq budget

@[simp] theorem runFrameChecked_eq (c : Console) : c.runFrameChecked = .ok c.runFrame :=
  runUntilChecked_eq _ _ _

end Console

/-- **No operation is used outside of its range.** Every address leads, after one further call at
most, to a place within its store; the page of hardware registers is accessed at its own addresses,
and an opcode names no bit that a byte does not have. All accesses to memory, the loading of a
program, decoding at any address, executing any instruction, steps, dispatches and frames pass all
their checks from every state, and do what they do without checks. -/
theorem checked_machine_has_no_faults :
    (∀ a : UInt16, ∃ place, mapAddress 1 a = .ok place ∧ place.IsAt (Cell.ofAddress a)) ∧
    (∀ i : IoOffset, relativeAddress i.address = .ok i.val) ∧
    (∀ op : UInt8, Opcode.bitNumberChecked op = .ok (Opcode.bitNumber op)) ∧
    (∀ (m : Memory) (a : UInt16) (v : UInt8) (w : UInt16),
      m.readChecked a = .ok (m.read a) ∧ m.writeChecked a v = .ok (m.write a v) ∧
      m.readWordChecked a = .ok (m.readWord a) ∧
      m.writeWordChecked a w = .ok (m.writeWord a w) ∧
      m.incrementChecked a = .ok (m.increment a) ∧
      m.decrementChecked a = .ok (m.decrement a)) ∧
    (∀ (m : Memory) (program : Array UInt8), m.loadChecked program = .ok (m.load program)) ∧
    (∀ (m : Memory) (pc : UInt16),
      Instruction.decodeChecked m pc = .ok (Instruction.decode m pc)) ∧
    (∀ (m : Machine) (i : Instruction), m.executeChecked i = .ok (m.execute i)) ∧
    (∀ m : Machine, m.serviceInterruptChecked = .ok m.serviceInterrupt ∧
      m.stepChecked = .ok m.step) ∧
    ∀ c : Console, c.stepChecked = .ok c.step ∧ c.runFrameChecked = .ok c.runFrame := by
  refine ⟨?map, ?page, ?bit, ?memory, ?load, ?decode, ?execute, ?machine, ?console⟩
  case map => exact exists_mapAddress
  case page => exact relativeAddress_address
  case bit => exact Opcode.bitNumberChecked_eq
  case memory =>
    intro m a v w
    refine ⟨m.readChecked_eq a, m.writeChecked_eq a v, m.readWordChecked_eq a, ?_, ?_, ?_⟩
    · exact m.writeWordChecked_eq a w
    · exact m.incrementChecked_eq a
    · exact m.decrementChecked_eq a
  case load => exact Memory.loadChecked_eq
  case decode => exact Instruction.decodeChecked_eq
  case execute => exact Machine.executeChecked_eq
  case machine =>
    intro m
    exact ⟨m.serviceInterruptChecked_eq, m.stepChecked_eq⟩
  case console =>
    intro c
    exact ⟨c.stepChecked_eq, c.runFrameChecked_eq⟩

end GameBoy
