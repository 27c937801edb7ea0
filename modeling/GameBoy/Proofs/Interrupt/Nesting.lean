import GameBoy.Proofs.Machine.Control
import GameBoy.Proofs.Memory.ReadWrite

/-!
# Nested interrupts

The dispatch of an interrupt refuses further ones, so that its handler is not interrupted before it
enables interrupts again. This rests on more than `ime` alone: the next instruction makes the
change that waits, and the dispatch does not remove a waiting change. `Control.Closed` is the
invariant under which only an enabling instruction lets an interrupt in. A dispatch establishes it
unless the instruction executed last before it was `EI`, and in that case the host can bring about
a second dispatch after one `NOP`.
-/

namespace GameBoy

/-- An instruction was executed that enables interrupts. -/
def Event.Enables (e : Event) : Prop :=
  e.instruction? = some .enableInterrupts ∨ e.instruction? = some .retInterrupt

instance (e : Event) : Decidable e.Enables := inferInstanceAs (Decidable (_ ∨ _))

/-! ## The invariant -/

/-- Interrupts are refused, and no change of that is waiting. -/
def Control.Closed (k : Control) : Prop := k.ime = false ∧ k.pendingIme ≠ some true

/-- Starting an instruction keeps interrupts refused. -/
lemma Control.Closed.start {k : Control} (h : k.Closed) : k.start.ime = false := by
  obtain ⟨refused, waiting⟩ := h
  unfold Control.start
  cases e : k.pendingIme with
  | none => exact refused
  | some b =>
    cases b with
    | false => rfl
    | true => exact absurd e waiting

/-- Only an enabling instruction ends the refusal. -/
lemma Event.closed_control {e : Event} {k : Control} (h : k.Closed) (quiet : ¬ e.Enables) :
    (e.control k).Closed := by
  cases e with
  | executed i cycles =>
    have notEnable : i ≠ .enableInterrupts := fun same => quiet (.inl (congrArg some same))
    have notReturn : i ≠ .retInterrupt := fun same => quiet (.inr (congrArg some same))
    have started : ({ k with mode := .running } : Control).Closed := h
    constructor
    · rw [control, Instruction.ime_control notReturn]
      exact started.start
    · rw [control, Instruction.pendingIme_control, ne_eq, Instruction.change?_eq_some_true_iff]
      exact notEnable
  | dispatched i => exact ⟨rfl, h.2⟩
  | suspended => exact h
  | illegal x => exact h

namespace Console

variable {c : Console}

/-- A move that executes no enabling instruction keeps the invariant. -/
lemma closed_move (c : Console) (m : Move) (quiet : ∀ e ∈ c.event? m, ¬ e.Enables)
    (h : c.control.Closed) : (c.move m).control.Closed := by
  cases m with
  | step =>
    rw [move, control_step]
    exact Event.closed_control h (quiet _ rfl)
  | host op => exact h
  | wake => exact h

/-- A console in which the invariant holds dispatches nothing. -/
lemma not_dispatched_of_closed (h : c.control.Closed) (i : Interrupt) :
    c.step.1 ≠ .dispatched i := by
  intro dispatched
  obtain ⟨-, accepted, -⟩ := dispatched_of_step (Prod.ext dispatched rfl)
  rw [show c.machine.cpu.ime = false from h.1] at accepted
  cases accepted

/-- No interrupt is dispatched before an enabling instruction is executed, whatever the host
does. -/
def Shielded (c : Console) : Prop :=
  ∀ later : List Move, (∀ e ∈ c.events later, ¬ e.Enables) →
    ∀ i, (c.after later).step.1 ≠ .dispatched i

/-- The invariant shields from interrupts. -/
lemma shielded_of_closed (h : c.control.Closed) : c.Shielded := by
  intro later quiet i
  exact not_dispatched_of_closed
    (after_invariant (P := fun c => c.control.Closed) closed_move later quiet h) i

end Console

/-! ## Provoking a dispatch -/

/-- The memory in which the host has put a `NOP` at an address, and has enabled and requested the
first interrupt. -/
def Memory.provoked (m : Memory) (a : UInt16) : Memory :=
  ((m.write a 0x00).write 0xFFFF 0x01).write 0xFF0F 0x01

/-- A `NOP` in the ROM stays there when interrupts are enabled and requested. -/
lemma Memory.read_provoked (m : Memory) {a : UInt16} (rom : a.toNat < Memory.romSize) :
    (m.provoked a).read a = 0x00 := by
  have low : a.toNat < 0x8000 := rom
  have stored : ¬ Unusable a := by
    unfold Unusable
    omega
  have apart : ∀ b : UInt16, 0xFE00 ≤ b.toNat → b ≠ a := by
    rintro b hb rfl
    omega
  have away : ∀ b : UInt16, 0xFE00 ≤ b.toNat → canonical b ≠ canonical a := by
    intro b hb
    rw [canonical_of_le b hb, canonical_of_lt a (by omega)]
    exact apart b hb
  rw [provoked, read_write_of_ne _ _ _ _ (by decide) (away _ (by decide)),
    read_write_of_ne _ _ _ _ (by decide) (away _ (by decide)),
    read_write_self _ _ _ stored (apart 0xFF02 (by decide)).symm]

/-- The first interrupt, and no other, is enabled and requested. -/
lemma Memory.pendingInterrupts_provoked (m : Memory) (a : UInt16) :
    (m.provoked a).pendingInterrupts = 0x01 := by
  have enabled : (m.provoked a).read 0xFFFF = 0x01 := by
    rw [provoked, read_write_of_ne _ _ _ _ (by decide) (by decide),
      read_write_self _ _ _ (by decide) (by decide)]
  have requested : (m.provoked a).read 0xFF0F = 0x01 :=
    read_write_self _ _ _ (by decide) (by decide)
  rw [pendingInterrupts, ← read_last, ← read_requests, enabled, requested]
  decide

/-- A machine that runs at a `NOP` goes on behind it, and makes the waiting change. -/
lemma Machine.step_nop {m : Machine} (running : m.cpu.mode = .running)
    (here : m.memory.read m.cpu.pc = 0x00) :
    m.step = (.executed .nop 4, { m.start (m.cpu.pc + 1) with lastCycles := 4 }) := by
  have decoded : Instruction.decode m.memory m.cpu.pc = .ok (.nop, m.cpu.pc + 1) := by
    unfold Instruction.decode
    rw [here]
    rfl
  exact step_of_decoded running decoded

namespace Console

variable {c : Console}

/-- The host puts a `NOP` at an address, enables and requests the first interrupt, and lets the
console make a step. -/
def provocation (a : UInt16) : List Move :=
  [.host (.write a 0x00), .host (.write 0xFFFF 0x01), .host (.write 0xFF0F 0x01), .step]

/-- If `ime` is about to be set when a handler in the ROM starts, then the host brings about the
dispatch of an interrupt without an enabling instruction. -/
lemma dispatched_of_provocation (allowed : c.config.serviceInterrupts)
    (opening : c.control = ⟨false, some true, .running⟩)
    (rom : c.machine.cpu.pc.toNat < Memory.romSize) :
    c.events (provocation c.machine.cpu.pc) = [.executed .nop 4] ∧
      (c.after (provocation c.machine.cpu.pc)).step.1 = .dispatched .vBlank := by
  have refused : c.machine.cpu.ime = false := congrArg Control.ime opening
  have waiting : c.machine.cpu.pendingIme = some true := congrArg Control.pendingIme opening
  have running : c.machine.cpu.mode = .running := congrArg Control.mode opening
  let m : Machine := { c.machine with memory := c.machine.memory.provoked c.machine.cpu.pc }
  let n : Machine := { m.start (m.cpu.pc + 1) with lastCycles := 4 }
  have step : ({ c with machine := m } : Console).step =
      (.executed .nop 4, { c with machine := n }) := by
    rw [step_of_quiet (c := { c with machine := m }) (Machine.nextInterrupt?_eq_none refused),
      Machine.step_nop (m := m) running (c.machine.memory.read_provoked rom)]
  -- The start of the `NOP` has set `ime`, and the memory is as the host left it.
  have accepted : n.cpu.ime = true := congrArg (·.getD c.machine.cpu.ime) waiting
  have awake : n.cpu.mode ≠ .stopped := by
    rw [show n.cpu.mode = .running from running]
    decide
  have pending : n.memory.pendingInterrupts = 0x01 :=
    c.machine.memory.pendingInterrupts_provoked c.machine.cpu.pc
  have due : n.nextInterrupt? = some .vBlank := by
    rw [Machine.nextInterrupt?_of_accepted awake accepted (bne_iff_ne.2 (by rw [pending]; decide)),
      pending]
    decide
  have next := step_of_due (c := { c with machine := n }) allowed due
  constructor
  · change [({ c with machine := m } : Console).step.1] = _
    rw [step]
  · change ({ c with machine := m } : Console).step.2.step.1 = _
    rw [step, next]

/-- A console that refuses interrupts and runs at an address in the ROM is shielded if and only if
it is not about to accept them. -/
lemma shielded_iff (allowed : c.config.serviceInterrupts) (refused : c.control.ime = false)
    (running : c.control.mode = .running) (rom : c.machine.cpu.pc.toNat < Memory.romSize) :
    c.Shielded ↔ c.control.pendingIme ≠ some true := by
  constructor
  · intro shielded waiting
    have opening : c.control = ⟨false, some true, .running⟩ := by
      rw [← refused, ← waiting, ← running]
    obtain ⟨events, dispatched⟩ := dispatched_of_provocation allowed opening rom
    refine shielded _ ?_ .vBlank dispatched
    rw [events]
    decide
  · intro notWaiting
    exact shielded_of_closed ⟨refused, notWaiting⟩

end Console

/-- The handlers are in the ROM. -/
lemma Interrupt.handler_lt (i : Interrupt) : i.handler.toNat < Memory.romSize := by
  cases i <;> decide

/-- **When interrupts do not nest.** From power-on, whatever program runs and whatever the host does
to the memory, the dispatch of an interrupt shields from further ones until an enabling instruction
is executed, exactly if the instruction executed last before the dispatch is not `EI`. -/
theorem shielded_dispatch_iff (config : ConsoleConfig) (schedule : List Move) (i : Interrupt)
    (h : ((Console.powerOn config).after schedule).step.1 = .dispatched i) :
    ((Console.powerOn config).after schedule).step.2.Shielded ↔
      lastExecuted? ((Console.powerOn config).events schedule) ≠ some .enableInterrupts := by
  have waiting := (Console.powerOn config).pendingIme_after schedule
  set c := (Console.powerOn config).after schedule
  have step : c.step = (.dispatched i, c.step.2) := Prod.ext h rfl
  obtain ⟨allowed, -, after⟩ := Console.dispatched_of_step step
  have control : c.step.2.control = { c.control with ime := false, mode := .running } := by
    rw [Console.control_step, h]
    rfl
  have rom : c.step.2.machine.cpu.pc.toNat < Memory.romSize := by
    rw [after]
    exact i.handler_lt
  have allowed' : c.step.2.config.serviceInterrupts := by
    rw [after]
    exact allowed
  rw [Console.shielded_iff allowed' (by rw [control]) (by rw [control]) rom, control, waiting,
    Console.control_powerOn]
  cases last : lastExecuted? ((Console.powerOn config).events schedule) with
  | none => simp
  | some j => simp [Instruction.change?_eq_some_true_iff]

/-- The program `EI`, `NOP`, run with the first interrupt enabled and requested, up to the dispatch
of that interrupt. -/
def enableBeforeNop : List Move :=
  [.host (.write 0x0100 0xFB), .host (.write 0xFFFF 0x01), .host (.write 0xFF0F 0x01),
    .step, .step]

/-- The dispatch after `EI` and a `NOP` shields from further interrupts. -/
theorem shielded_dispatch_iff_nop :
    ((Console.powerOn {}).after enableBeforeNop).step.1 = .dispatched .vBlank ∧
      ((Console.powerOn {}).after enableBeforeNop).step.2.Shielded := by
  have dispatched : ((Console.powerOn {}).after enableBeforeNop).step.1 = .dispatched .vBlank := by
    decide +kernel
  have last : lastExecuted? ((Console.powerOn {}).events enableBeforeNop) ≠
      some .enableInterrupts := by
    decide +kernel
  exact ⟨dispatched, (shielded_dispatch_iff {} enableBeforeNop .vBlank dispatched).2 last⟩

/-- The program `EI`, `EI`, run with two interrupts enabled and requested, up to the dispatch of the
first. -/
def enableTwice : List Move :=
  [.host (.write 0x0100 0xFB), .host (.write 0x0101 0xFB), .host (.write 0xFFFF 0x05),
    .host (.write 0xFF0F 0x05), .step, .step]

/-- The `EI` that was executed last before a dispatch lets the second interrupt in after the first
instruction of the handler, a `NOP`. -/
theorem dispatch_nests_after_enable :
    ((Console.powerOn {}).after enableTwice).step.1 = .dispatched .vBlank ∧
      ((Console.powerOn {}).after enableTwice).step.2.events [.step] = [.executed .nop 4] ∧
      (((Console.powerOn {}).after enableTwice).step.2.after [.step]).step.1 =
        .dispatched .timer ∧
      ¬ ((Console.powerOn {}).after enableTwice).step.2.Shielded := by
  have run : ((Console.powerOn {}).after enableTwice).step.1 = .dispatched .vBlank ∧
      ((Console.powerOn {}).after enableTwice).step.2.events [.step] = [.executed .nop 4] ∧
      (((Console.powerOn {}).after enableTwice).step.2.after [.step]).step.1 =
        .dispatched .timer := by
    decide +kernel
  obtain ⟨first, between, second⟩ := run
  refine ⟨first, between, second, fun shielded => shielded [.step] ?_ .timer second⟩
  rw [between]
  decide

end GameBoy
