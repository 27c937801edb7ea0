import GameBoy.Proofs.Console.Schedule
import GameBoy.Proofs.Machine.Transition

/-!
# The control of the processor

What a processor does next hangs on three of its parts: whether it accepts interrupts, the change
of that which is waiting, and its mode. Together they are its `Control`. Five instructions change
the control, and `control_execute` says that no other does; the start of an instruction makes the
waiting change, the dispatch of an interrupt refuses further ones and lets the processor run, and
the host can only end a suspension.
-/

namespace GameBoy

/-- The part of the processor that decides what a step does. -/
structure Control where
  /-- Interrupts are accepted. -/
  ime : Bool
  /-- What `ime` becomes when the next instruction starts. -/
  pendingIme : Option Bool
  /-- Whether the processor runs. -/
  mode : Mode
  deriving DecidableEq, Repr

/-- The control when an instruction has started: the waiting change is made. -/
def Control.start (k : Control) : Control :=
  { k with ime := k.pendingIme.getD k.ime, pendingIme := none }

/-- What an instruction makes of the control with which it started. -/
def Instruction.control (i : Instruction) (k : Control) : Control :=
  match i with
  | .retInterrupt => { k with ime := true, pendingIme := none }
  | .halt => { k with mode := .halted }
  | .stop => { k with mode := .stopped }
  | .disableInterrupts => { k with pendingIme := some false }
  | .enableInterrupts => { k with pendingIme := some true }
  | _ => k

namespace Cpu

/-- The control of a processor. -/
def control (c : Cpu) : Control := ⟨c.ime, c.pendingIme, c.mode⟩

@[simp] theorem control_set (c : Cpu) (r : Register) (v : UInt8) :
    (c.set r v).control = c.control := by
  cases r <;> rfl

@[simp] theorem control_setPair (c : Cpu) (p : Pair) (w : UInt16) :
    (c.setPair p w).control = c.control := by
  cases p <;> rfl

@[simp] theorem control_advance (c : Cpu) (p : Pointer) :
    (p.advance c).control = c.control := by
  cases p <;> rfl

end Cpu

namespace Machine

variable (m : Machine)

@[simp] theorem control_afterSource (s : Source) :
    (m.afterSource s).cpu.control = m.cpu.control := by
  cases s with
  | memory p => exact m.cpu.control_advance p
  | _ => rfl

@[simp] theorem control_store (d : Destination) (v : UInt8) :
    (m.store d v).cpu.control = m.cpu.control := by
  cases d with
  | register r => exact m.cpu.control_set r v
  | accumulator => rfl
  | memory p => exact m.cpu.control_advance p

@[simp] theorem control_replace (x : Location) (v : UInt8) (f : Flags) :
    (m.replace x v f).cpu.control = m.cpu.control := by
  cases x with
  | register r => exact m.cpu.control_set r v
  | _ => rfl

/-- Only five instructions change the control. -/
theorem control_execute (i : Instruction) :
    (m.execute i).cpu.control = i.control m.cpu.control := by
  cases i with
  | load d s => simp [execute, Instruction.control]
  | loadPair p w => exact m.cpu.control_setPair p w
  | pop p => exact m.drop.cpu.control_setPair p m.top
  | arithmetic op s => exact m.control_afterSource s
  | increment x => exact m.control_replace x _ _
  | decrement x => exact m.control_replace x _ _
  | incrementPair p => exact m.cpu.control_setPair p _
  | decrementPair p => exact m.cpu.control_setPair p _
  | rotate op x => exact m.control_replace x _ _
  | swap x => exact m.control_replace x _ _
  | testBit n s => exact m.control_afterSource s
  | setBit n x => exact m.control_replace x _ _
  | resetBit n x => exact m.control_replace x _ _
  | jumpIf cc a | jumpByIf cc e | callIf cc a | retIf cc =>
    rw [execute]
    split_ifs <;> rfl
  | _ => rfl

end Machine

/-- The change of the acceptance of interrupts that an instruction leaves waiting. -/
def Instruction.change? : Instruction → Option Bool
  | .disableInterrupts => some false
  | .enableInterrupts => some true
  | _ => none

/-- An instruction that has started leaves its own change waiting, and no other. -/
lemma Instruction.pendingIme_control (i : Instruction) (k : Control) :
    (i.control k.start).pendingIme = i.change? := by
  cases i <;> rfl

/-- Only `EI` leaves the acceptance of interrupts waiting. -/
lemma Instruction.change?_eq_some_true_iff (i : Instruction) :
    i.change? = some true ↔ i = .enableInterrupts := by
  cases i <;> simp [change?]

/-- Only `RETI` changes at once whether interrupts are accepted. -/
lemma Instruction.ime_control {i : Instruction} (h : i ≠ .retInterrupt) (k : Control) :
    (i.control k).ime = k.ime := by
  cases i with
  | retInterrupt => exact absurd rfl h
  | _ => rfl

/-! ## Steps and moves -/

/-- What an event makes of the control. -/
def Event.control (e : Event) (k : Control) : Control :=
  match e with
  | .executed i _ => i.control { k with mode := .running }.start
  | .dispatched _ => { k with ime := false, mode := .running }
  | .suspended => k
  | .illegal _ => { k with mode := .running }

/-- Resuming a machine that runs afterwards only sets the mode. -/
lemma Machine.control_resume {m : Machine} (running : m.resume.cpu.mode = .running) :
    m.resume.cpu.control = { m.cpu.control with mode := .running } := by
  rw [resume_of_running running]
  rfl

/-- The event of a step determines the control after it. -/
lemma Machine.Transition.control {m m' : Machine} {e : Event} (h : m.Transition e m') :
    m'.cpu.control = e.control m.cpu.control := by
  cases h with
  | executed running decoded =>
    rw [Event.control, ← control_resume running]
    exact control_execute _ _
  | illegal running decoded => exact control_resume running
  | suspended asleep => rfl

namespace Console

/-- The control of the processor of a console. -/
def control (c : Console) : Control := c.machine.cpu.control

/-- At power-on the processor runs and refuses interrupts. -/
lemma control_powerOn (config : ConsoleConfig) :
    (powerOn config).control = ⟨false, none, .running⟩ := rfl

/-- The event of a transition determines the control after it. -/
lemma Transition.control {c c' : Console} {e : Event} (h : c.Transition e c') :
    c'.control = e.control c.control := by
  cases h with
  | dispatched allowed due => rfl
  | stepped quiet step => exact step.control

/-- The event of a step determines the control after it. -/
lemma control_step (c : Console) : c.step.2.control = c.step.1.control c.control :=
  (transition_of_step rfl).control

/-! ## The waiting change -/

/-- A step leaves the waiting change of the instruction that it executed. A step that executed
none keeps the change that waits. -/
lemma pendingIme_step (c : Console) :
    c.step.2.control.pendingIme =
      c.step.1.instruction?.elim c.control.pendingIme Instruction.change? := by
  rw [control_step]
  cases c.step.1 with
  | executed i cycles => exact i.pendingIme_control _
  | dispatched i => rfl
  | suspended => rfl
  | illegal e => rfl

/-- **The waiting change after a schedule** is that of the instruction executed last. -/
theorem pendingIme_after (c : Console) (schedule : List Move) :
    (c.after schedule).control.pendingIme =
      (lastExecuted? (c.events schedule)).elim c.control.pendingIme Instruction.change? := by
  induction schedule generalizing c with
  | nil => rfl
  | cons m schedule ih =>
    rw [after_cons, ih, events_cons, lastExecuted?_append]
    cases lastExecuted? ((c.move m).events schedule) with
    | some i => rfl
    | none =>
      cases m with
      | step =>
        rw [Option.none_or, event?, Option.toList_some, lastExecuted?_singleton]
        exact c.pendingIme_step
      | host op => rfl
      | wake => rfl

end Console

end GameBoy
