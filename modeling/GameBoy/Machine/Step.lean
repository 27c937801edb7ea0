import GameBoy.Instruction.Cycles
import GameBoy.Instruction.Decode
import GameBoy.Machine.Execute

/-!
# Steps

A step of the machine executes one instruction, does nothing because the processor is suspended, or
fails at an opcode without a meaning. The dispatch of an interrupt is a separate transition, which
the console puts before the step. An `Event` says what happened, so that a run can be followed from
outside.
-/

namespace GameBoy

/-- What happened in a step. -/
inductive Event where
  /-- An instruction was executed in so many clock cycles. -/
  | executed (i : Instruction) (cycles : Nat)
  /-- An interrupt was dispatched. -/
  | dispatched (i : Interrupt)
  /-- The processor is suspended. -/
  | suspended
  /-- There is no instruction to execute. -/
  | illegal (e : IllegalOpcode)
  deriving DecidableEq, Repr

namespace Event

/-- The clock cycles that the dispatch of an interrupt takes. -/
def dispatchCycles : Nat := 20

/-- The clock cycles that a step took, or why it failed. -/
def cost : Event → Except IllegalOpcode Nat
  | executed _ cycles => .ok cycles
  | dispatched _ => .ok dispatchCycles
  | suspended => .ok 0
  | illegal e => .error e

end Event

namespace Machine

/-- An interrupt is requested and enabled. -/
def interruptPending (m : Machine) : Bool := m.memory.pendingInterrupts != 0

/-- An interrupt is requested, enabled and accepted by the processor. -/
def interruptTriggered (m : Machine) : Bool := m.cpu.ime && m.interruptPending

/-- The interrupt that is dispatched next, if any. While the processor waits for a button there is
none. The choice is made among all bits that are requested and enabled, whether or not they stand
for an interrupt. -/
def nextInterrupt? (m : Machine) : Option Interrupt :=
  if m.cpu.mode != .stopped && m.interruptTriggered then
    m.memory.io.mostUrgent? m.memory.interruptEnable
  else none

/-- Dispatches an interrupt: the handler is called, the request withdrawn, and no further
interrupt accepted. -/
def dispatch (m : Machine) (i : Interrupt) : Machine :=
  let m := m.call i.handler
  { cpu := { m.cpu with ime := false, mode := .running }
    memory := m.memory.withdraw i
    lastCycles := Event.dispatchCycles }

/-- Dispatches the next interrupt, if there is one. -/
def serviceInterrupt (m : Machine) : Option Interrupt × Machine :=
  match m.nextInterrupt? with
  | some i => (some i, m.dispatch i)
  | none => (none, m)

/-- Resumes a processor that waits for an interrupt if one is there, accepted or not. -/
def resume (m : Machine) : Machine :=
  if m.cpu.mode = .halted ∧ m.interruptPending then { m with cpu := m.cpu.wake } else m

/-- Starts an instruction: a waiting change of `ime` is made, and the program counter moves to the
next instruction. -/
def start (m : Machine) (next : UInt16) : Machine :=
  { m with cpu := { m.cpu with
      ime := m.cpu.pendingIme.getD m.cpu.ime, pendingIme := none, pc := next } }

/-- Executes the instruction at the program counter, unless the processor is suspended. The
duration of a conditional instruction is that for the flags before it. -/
def step (m : Machine) : Event × Machine :=
  let m := m.resume
  if m.cpu.mode = .running then
    match Instruction.decode m.memory m.cpu.pc with
    | .ok (i, next) =>
      let cycles := i.cycles m.cpu.flags
      (.executed i cycles, { (m.start next).execute i with lastCycles := cycles })
    | .error e => (.illegal e, m)
  else (.suspended, { m with lastCycles := 0 })

/-- Ends a suspension, as a press of a button does. -/
def wake (m : Machine) : Machine := { m with cpu := m.cpu.wake }

end Machine

end GameBoy
