import GameBoy.Machine.Step

/-!
# The console

A `Console` is a machine with settings for driving it. A step of the console dispatches an
interrupt if the settings let it and one is due, and otherwise executes an instruction.
-/

namespace GameBoy

/-- The clock cycles of a picture on the display. -/
def cyclesPerFrame : UInt32 := 69905

/-- How a console is driven. -/
structure ConsoleConfig where
  /-- The clock cycles that a frame may take. -/
  frameCycles : UInt32 := cyclesPerFrame
  /-- Interrupts are dispatched. -/
  serviceInterrupts : Bool := true
  deriving DecidableEq, Repr

/-- The settings as lines of text. -/
def ConsoleConfig.text (c : ConsoleConfig) : String :=
  s!"frame_cycles: {c.frameCycles}\nservice_interrupts: {c.serviceInterrupts}\n"

/-- A machine and the settings for driving it. -/
structure Console where
  /-- The settings. -/
  config : ConsoleConfig
  /-- The machine. -/
  machine : Machine
  deriving DecidableEq

namespace Console

/-- A console at power-on. -/
def powerOn (config : ConsoleConfig) : Console := ⟨config, Machine.powerOn⟩

/-- Puts a program into the ROM. -/
def load (c : Console) (program : Array UInt8) : Except ProgramTooLarge Console :=
  (c.machine.memory.load program).map fun memory =>
    { c with machine := { c.machine with memory := memory } }

/-- The serial output that nobody has collected yet. -/
def serialOutput (c : Console) : Array UInt8 := c.machine.memory.serialOutput

/-- Empties the serial output. -/
def clearSerial (c : Console) : Console :=
  { c with machine := { c.machine with memory := c.machine.memory.clearSerial } }

/-- Dispatches the next interrupt, if there is one and the settings allow it. -/
def serviceInterrupt (c : Console) : Option Interrupt × Console :=
  if c.config.serviceInterrupts then
    let (interrupt?, machine) := c.machine.serviceInterrupt
    (interrupt?, { c with machine := machine })
  else (none, c)

/-- Dispatches an interrupt or executes an instruction. -/
def step (c : Console) : Event × Console :=
  match c.serviceInterrupt with
  | (some i, c) => (.dispatched i, c)
  | (none, c) =>
    let (event, machine) := c.machine.step
    (event, { c with machine := machine })

end Console

end GameBoy
