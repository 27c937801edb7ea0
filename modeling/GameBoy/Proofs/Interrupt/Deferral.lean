import GameBoy.Proofs.Machine.Control

/-!
# Deferred changes and interrupts

`DI` does not refuse interrupts at once: its change waits until the next instruction starts, and an
interrupt may be dispatched before. An `Interlude` is what can come between the two instructions:
the host, steps that execute nothing, and interrupts that are served by handlers which return to
where they were called from. Only the number of the served interrupts matters. If it is zero, then
`DI` is obeyed; otherwise the `RETI` of the last handler has accepted interrupts again and nothing
is waiting any more.
-/

namespace GameBoy

/-- Nothing was executed, and no interrupt dispatched. -/
def Event.Idle (e : Event) : Prop := e = .suspended ∨ ∃ x, e = .illegal x

namespace Console

variable {c d : Console}

/-! ## Served interrupts -/

/-- The console after an interrupt was dispatched, its handler has run according to a schedule, and
one more step was made. -/
def served (c : Console) (handler : List Move) : Console := (c.step.2.after handler).step.2

/-- An interrupt is served: it is dispatched, and its handler ends with a `RETI` that goes back to
where the dispatch came from. -/
structure Serves (c : Console) (handler : List Move) : Prop where
  /-- An interrupt is dispatched. -/
  dispatched : ∃ i, c.step.1 = .dispatched i
  /-- The last instruction of the handler is `RETI`. -/
  returns : (c.step.2.after handler).step.1.instruction? = some .retInterrupt
  /-- It removes the word from the stack that the dispatch has put there. -/
  resumes : (c.served handler).machine.cpu.pc = c.machine.cpu.pc

/-- What happens between two instructions, with the number of interrupts that are served. -/
inductive Interlude (c : Console) : Nat → Console → Prop
  /-- Nothing has happened yet. -/
  | start : Interlude c 0 c
  /-- The host does something, or a step executes nothing. -/
  | idle {n : Nat} {d : Console} (m : Move) (quiet : ∀ e ∈ d.event? m, e.Idle)
      (before : Interlude c n d) : Interlude c n (d.move m)
  /-- An interrupt is served. -/
  | serve {n : Nat} {d : Console} {handler : List Move} (serves : d.Serves handler)
      (before : Interlude c n d) : Interlude c (n + 1) (d.served handler)

/-! ## What the next instruction finds -/

/-- A step that executes nothing stays at its instruction. -/
lemma Transition.pc_eq_of_idle {e : Event} (h : c.Transition e d) (idle : e.Idle) :
    d.machine.cpu.pc = c.machine.cpu.pc := by
  cases h with
  | dispatched allowed due => rcases idle with e | ⟨x, e⟩ <;> cases e
  | stepped quiet step =>
    cases step with
    | executed running decoded => rcases idle with e | ⟨x, e⟩ <;> cases e
    | illegal running decoded => exact c.machine.pc_resume
    | suspended asleep => rfl

/-- A step that executes nothing leaves `ime` and its waiting change. -/
lemma ime_start_step_of_idle (h : c.step.1.Idle) :
    c.step.2.control.start.ime = c.control.start.ime := by
  rw [control_step]
  rcases h with h | ⟨x, h⟩
  · rw [h]
    rfl
  · rw [h]
    rfl

/-- An interlude ends at the instruction before which it began. -/
lemma Interlude.pc_eq {n : Nat} (h : c.Interlude n d) :
    d.machine.cpu.pc = c.machine.cpu.pc := by
  induction h with
  | start => rfl
  | @idle n d m quiet before ih =>
    cases m with
    | step => exact ((transition_of_step rfl).pc_eq_of_idle (quiet _ rfl)).trans ih
    | host op => exact ih
    | wake => exact ih
  | serve serves before ih => exact serves.resumes.trans ih

/-- With a `RETI`, interrupts are accepted and nothing waits. -/
lemma ime_start_of_return (h : c.step.1.instruction? = some .retInterrupt) :
    c.step.2.control.start.ime = true := by
  rw [control_step]
  cases e : c.step.1 with
  | executed i cycles =>
    rw [e] at h
    obtain rfl := Option.some.inj h
    rfl
  | _ => rw [e] at h; cases h

/-- After an interlude in which no interrupt was served, the next instruction starts as it would
have done before; otherwise it starts with interrupts accepted. -/
lemma Interlude.ime_start {n : Nat} (h : c.Interlude n d) :
    d.control.start.ime = if n = 0 then c.control.start.ime else true := by
  induction h with
  | start => rfl
  | @idle n d m quiet before ih =>
    cases m with
    | step => exact (ime_start_step_of_idle (quiet _ rfl)).trans ih
    | host op => exact ih
    | wake => exact ih
  | serve serves before ih => exact ime_start_of_return serves.returns

/-- An instruction ends with `ime` as it was when it started, unless it is `RETI`. -/
lemma ime_step_of_executed {i : Instruction} {cycles : Nat} (h : c.step.1 = .executed i cycles) :
    c.step.2.control.ime = if i = .retInterrupt then true else c.control.start.ime := by
  rw [control_step, h]
  split_ifs with returns
  · rw [returns]
    rfl
  · exact Instruction.ime_control returns _

end Console

/-- **How long a `DI` lasts.** When the instruction after a `DI` has been executed, interrupts are
refused exactly if no interrupt was served between the two, whatever the handlers did before they
returned, and the instruction is not itself `RETI`. -/
theorem refused_after_disable_iff {c d : Console} {n cycles cycles' : Nat} {i : Instruction}
    (disabled : c.step.1 = .executed .disableInterrupts cycles)
    (interlude : c.step.2.Interlude n d) (next : d.step.1 = .executed i cycles') :
    d.machine.cpu.pc = c.step.2.machine.cpu.pc ∧
      (d.step.2.machine.cpu.ime = false ↔ n = 0 ∧ i ≠ .retInterrupt) := by
  refine ⟨interlude.pc_eq, ?_⟩
  have waiting : c.step.2.control.pendingIme = some false := by
    rw [Console.pendingIme_step, disabled]
    rfl
  have refused : c.step.2.control.start.ime = false :=
    congrArg (·.getD c.step.2.control.ime) waiting
  have ime : d.step.2.machine.cpu.ime = _ := Console.ime_step_of_executed next
  rw [ime, interlude.ime_start, refused]
  by_cases returns : i = .retInterrupt
  · simp [returns]
  · by_cases none : n = 0
    · simp [returns, none]
    · simp [returns, none]

/-- The program `EI`, `DI`, `NOP`, run up to the `DI`. An interrupt is enabled and requested, and
its handler consists of a `RETI`. -/
def interruptedDisable : List Move :=
  [.host (.write 0x0100 0xFB), .host (.write 0x0101 0xF3), .host (.write 0x0040 0xD9),
    .host (.write 0xFFFF 0x01), .host (.write 0xFF0F 0x01), .step]

/-- Interrupts are accepted after the `NOP`, since one was served before it. -/
theorem refused_after_disable_iff_served :
    ((Console.powerOn {}).after interruptedDisable).step.1 = .executed .disableInterrupts 4 ∧
      ((Console.powerOn {}).after interruptedDisable).step.2.Serves [] ∧
      (((Console.powerOn {}).after interruptedDisable).step.2.served []).step.2.machine.cpu.ime
        ≠ false := by
  have disabled : ((Console.powerOn {}).after interruptedDisable).step.1 =
      .executed .disableInterrupts 4 := by decide +kernel
  have serves : ((Console.powerOn {}).after interruptedDisable).step.2.Serves [] :=
    ⟨⟨.vBlank, by decide +kernel⟩, by decide +kernel, by decide +kernel⟩
  have next : (((Console.powerOn {}).after interruptedDisable).step.2.served []).step.1 =
      .executed .nop 4 := by decide +kernel
  refine ⟨disabled, serves, fun refused => ?_⟩
  exact absurd ((refused_after_disable_iff disabled (.serve serves .start) next).2.1 refused).1
    Nat.one_ne_zero

/-- A `DI` that is followed by an interrupt has no effect: when the `NOP` behind it has been
executed, interrupts are accepted. -/
theorem served_interrupt_discards_disable :
    ((Console.powerOn {}).after interruptedDisable).events [.step, .step, .step, .step] =
        [.executed .disableInterrupts 4, .dispatched .vBlank, .executed .retInterrupt 16,
          .executed .nop 4] ∧
      ((Console.powerOn {}).after (interruptedDisable ++ [.step])).machine.cpu.pc = 0x0102 ∧
      ((Console.powerOn {}).after
        (interruptedDisable ++ [.step, .step, .step])).machine.cpu.pc = 0x0102 ∧
      ((Console.powerOn {}).after
        (interruptedDisable ++ [.step, .step, .step, .step])).machine.cpu.ime = true := by
  decide +kernel

end GameBoy
