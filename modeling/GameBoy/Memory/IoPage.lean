import GameBoy.Hex
import GameBoy.Interrupt
import GameBoy.Memory.HardwareRegister

/-!
# The page of hardware registers

An `IoPage` holds the 128 bytes of the page and the bytes that the program has sent over the serial
line. Writing is plain storage but for one register: a write to the control of the serial line that
asks for a transfer under the console's own clock completes the transfer at once. The byte in the
line's data register is then added to the output, the transfer bit is cleared again, and the serial
interrupt is requested.
-/

namespace GameBoy

/-- The bytes of the page, and the serial output that nobody has collected yet. -/
structure IoPage where
  /-- The byte at each place. -/
  contents : Vector UInt8 0x80
  /-- The bytes sent over the serial line, the oldest first. -/
  serialOutput : Array UInt8
  deriving DecidableEq

/-- An access to the page at an address outside of it. -/
structure OutsideIoPage where
  /-- The address. -/
  address : UInt16
  deriving DecidableEq, Repr

/-- The wording of the error. -/
def OutsideIoPage.message (e : OutsideIoPage) : String :=
  s!"address is not an I/O register address: {Hex.word e.address}"

namespace IoPage

/-- The page as the start-up program leaves them. -/
def powerOn : IoPage where
  contents := HardwareRegister.all.foldl (fun bytes r => bytes.set r.offset r.powerOn)
    (Vector.replicate _ 0)
  serialOutput := #[]

/-- The byte at a place. -/
def get (b : IoPage) (i : IoOffset) : UInt8 := b.contents[i]

/-- Stores a byte at a place without any effect on the others. -/
def store (b : IoPage) (i : IoOffset) (v : UInt8) : IoPage :=
  { b with contents := b.contents.set i v }

/-- The interrupts that are requested. -/
def requests (b : IoPage) : UInt8 := b.get HardwareRegister.interruptFlag.offset

/-- The most urgent interrupt that is requested and in a byte of enabled ones. -/
def mostUrgent? (b : IoPage) (enabled : UInt8) : Option Interrupt :=
  Interrupt.mostUrgent? (b.requests &&& enabled)

/-- Requests an interrupt. -/
def request (b : IoPage) (i : Interrupt) : IoPage :=
  b.store HardwareRegister.interruptFlag.offset (b.requests ||| i.bit)

/-- Withdraws the request of an interrupt. -/
def withdraw (b : IoPage) (i : Interrupt) : IoPage :=
  b.store HardwareRegister.interruptFlag.offset (b.requests &&& ~~~i.bit)

/-- The byte asks for a serial transfer under the console's own clock. -/
def startsTransfer (v : UInt8) : Bool := v &&& 0x81 == 0x81

/-- Adds a byte to the serial output. -/
def send (b : IoPage) (v : UInt8) : IoPage :=
  { b with serialOutput := b.serialOutput.push v }

/-- Writes a byte to a place. A byte that starts a serial transfer, written to the control of the
serial line, also completes the transfer. -/
def set (b : IoPage) (i : IoOffset) (v : UInt8) : IoPage :=
  if i = HardwareRegister.sc.offset && startsTransfer v then
    let sent := b.get HardwareRegister.sb.offset
    ((b.send sent).store HardwareRegister.sc.offset (v &&& 0x7F)).request .serial
  else b.store i v

/-- The byte of a hardware register. -/
def read (b : IoPage) (r : HardwareRegister) : UInt8 := b.get r.offset

/-- Writes a byte to a hardware register. -/
def write (b : IoPage) (r : HardwareRegister) (v : UInt8) : IoPage := b.set r.offset v

/-- The byte at an address of the page. -/
def readAt (b : IoPage) (a : UInt16) : Except OutsideIoPage UInt8 :=
  match IoOffset.ofAddress? a with
  | some i => .ok (b.get i)
  | none => .error ⟨a⟩

/-- Writes a byte to an address of the page. -/
def writeAt (b : IoPage) (a : UInt16) (v : UInt8) : Except OutsideIoPage IoPage :=
  match IoOffset.ofAddress? a with
  | some i => .ok (b.set i v)
  | none => .error ⟨a⟩

/-- Empties the serial output. -/
def clearSerial (b : IoPage) : IoPage := { b with serialOutput := #[] }

/-- A place holds what was stored in it last, and the others keep their bytes. -/
theorem get_store (b : IoPage) (i j : IoOffset) (v : UInt8) :
    (b.store i v).get j = if i = j then v else b.get j := by
  simp only [get, store]
  by_cases h : i = j
  · subst h
    simp
  · simp [h, Fin.val_inj]

/-- Storing sends nothing. -/
@[simp] theorem serialOutput_store (b : IoPage) (i : IoOffset) (v : UInt8) :
    (b.store i v).serialOutput = b.serialOutput := rfl

/-- A write that starts no transfer is plain storage. -/
theorem set_eq_store (b : IoPage) (i : IoOffset) (v : UInt8)
    (h : i ≠ HardwareRegister.sc.offset ∨ startsTransfer v = false) : b.set i v = b.store i v := by
  rcases h with h | h <;> simp [set, h]

end IoPage

end GameBoy
