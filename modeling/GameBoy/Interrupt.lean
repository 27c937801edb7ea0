/-!
# Interrupts

Five devices can interrupt the processor. Each has a bit, the same in the byte of requests and in
the byte that enables them, and a handler at a fixed address. The order of the bits is the order
of priority.
-/

namespace GameBoy

/-- A source of interrupts. -/
inductive Interrupt where
  /-- The display has drawn its last line. -/
  | vBlank
  /-- The display has reached a state that the program watches. -/
  | lcdStatus
  /-- The timer has overflowed. -/
  | timer
  /-- The serial line has finished a transfer. -/
  | serial
  /-- A button has been pressed. -/
  | joypad
  deriving DecidableEq, Repr

namespace Interrupt

/-- All interrupts, the most urgent first. -/
def all : List Interrupt := [vBlank, lcdStatus, timer, serial, joypad]

/-- The name of an interrupt. -/
def name : Interrupt → String
  | vBlank => "VBlank"
  | lcdStatus => "LcdStatus"
  | timer => "Timer"
  | serial => "Serial"
  | joypad => "Joypad"

/-- The interrupt with a given name. -/
def ofName? (s : String) : Option Interrupt := all.find? fun i => i.name == s

/-- The byte that has only the interrupt's bit set. -/
def bit : Interrupt → UInt8
  | vBlank => 0x01
  | lcdStatus => 0x02
  | timer => 0x04
  | serial => 0x08
  | joypad => 0x10

/-- The address of the interrupt's handler. -/
def handler : Interrupt → UInt16
  | vBlank => 0x0040
  | lcdStatus => 0x0048
  | timer => 0x0050
  | serial => 0x0058
  | joypad => 0x0060

/-- The bits that stand for an interrupt. -/
def mask : UInt8 := 0x1F

/-- The interrupt's bit is set in a byte. -/
def isIn (i : Interrupt) (bits : UInt8) : Bool := bits &&& i.bit != 0

/-- The most urgent interrupt whose bit is set in a byte. -/
def mostUrgent? (bits : UInt8) : Option Interrupt := all.find? (isIn · bits)

/-- Bits that stand for no interrupt do not matter. -/
theorem isIn_and_mask (i : Interrupt) (bits : UInt8) : i.isIn (bits &&& mask) = i.isIn bits := by
  have within : mask &&& i.bit = i.bit := by cases i <;> rfl
  rw [isIn, UInt8.and_assoc, within, isIn]

/-- The choice among bits ignores those that stand for no interrupt. -/
theorem mostUrgent?_and_mask (bits : UInt8) : mostUrgent? (bits &&& mask) = mostUrgent? bits := by
  unfold mostUrgent?
  simp only [isIn_and_mask]

end Interrupt

end GameBoy
