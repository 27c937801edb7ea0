import GameBoy.Cpu.Flags
import GameBoy.Cpu.Register
import GameBoy.Word

/-!
# The processor

`Cpu` is the state of the processor itself: its registers and flags, whether it accepts
interrupts, and whether it runs. A program changes its acceptance of interrupts with a delay of
one instruction; `pendingIme` holds the change that is waiting.
-/

namespace GameBoy

/-- Whether the processor runs, and if not, what it waits for. -/
inductive Mode where
  /-- Instructions are executed. -/
  | running
  /-- Execution waits for an interrupt that is enabled. -/
  | halted
  /-- Execution waits for a button. -/
  | stopped
  deriving DecidableEq, Repr

namespace Mode

/-- All modes. -/
def all : List Mode := [running, halted, stopped]

/-- The name of a mode. -/
def name : Mode → String
  | running => "Running"
  | halted => "Halted"
  | stopped => "Stopped"

/-- The mode with a given name. -/
def ofName? (s : String) : Option Mode := all.find? fun m => m.name == s

end Mode

/-- The state of the processor. -/
structure Cpu where
  /-- The accumulator. -/
  a : UInt8
  /-- The flags. -/
  flags : Flags
  /-- The upper register of `BC`. -/
  b : UInt8
  /-- The lower register of `BC`. -/
  c : UInt8
  /-- The upper register of `DE`. -/
  d : UInt8
  /-- The lower register of `DE`. -/
  e : UInt8
  /-- The upper register of `HL`. -/
  h : UInt8
  /-- The lower register of `HL`. -/
  l : UInt8
  /-- The stack pointer: the address of the last word pushed. -/
  sp : UInt16
  /-- The program counter: the address of the next instruction. -/
  pc : UInt16
  /-- Interrupts are accepted. -/
  ime : Bool
  /-- What `ime` becomes when the next instruction starts. -/
  pendingIme : Option Bool
  /-- Whether the processor runs. -/
  mode : Mode
  deriving DecidableEq, Repr

namespace Cpu

/-- Where a program starts. -/
def entryPoint : UInt16 := 0x0100

/-- The processor as the start-up program leaves it. -/
def powerOn : Cpu where
  a := 0x01
  flags := Flags.ofByte 0xB0
  b := 0x00
  c := 0x13
  d := 0x00
  e := 0xD8
  h := 0x01
  l := 0x4D
  sp := 0xFFFE
  pc := entryPoint
  ime := false
  pendingIme := none
  mode := .running

/-- The accumulator and the flags as a word. -/
def af (c : Cpu) : UInt16 := Word.ofBytes c.a c.flags.toByte

/-- The word in `B` and `C`. -/
def bc (c : Cpu) : UInt16 := Word.ofBytes c.b c.c

/-- The word in `D` and `E`. -/
def de (c : Cpu) : UInt16 := Word.ofBytes c.d c.e

/-- The word in `H` and `L`. -/
def hl (c : Cpu) : UInt16 := Word.ofBytes c.h c.l

/-- Puts a word into `H` and `L`. -/
def setHl (c : Cpu) (w : UInt16) : Cpu := { c with h := Word.high w, l := Word.low w }

/-- The byte in a register. -/
def get (c : Cpu) : Register → UInt8
  | .a => c.a
  | .b => c.b
  | .c => c.c
  | .d => c.d
  | .e => c.e
  | .h => c.h
  | .l => c.l

/-- Puts a byte into a register. -/
def set (c : Cpu) (r : Register) (v : UInt8) : Cpu :=
  match r with
  | .a => { c with a := v }
  | .b => { c with b := v }
  | .c => { c with c := v }
  | .d => { c with d := v }
  | .e => { c with e := v }
  | .h => { c with h := v }
  | .l => { c with l := v }

/-- The word in a word register. -/
def getPair (c : Cpu) : Pair → UInt16
  | .af => c.af
  | .bc => c.bc
  | .de => c.de
  | .hl => c.hl
  | .sp => c.sp

/-- Puts a word into a word register. The lower half of the flags' byte is lost, for there are
only four flags. -/
def setPair (c : Cpu) (p : Pair) (w : UInt16) : Cpu :=
  match p with
  | .af => { c with a := Word.high w, flags := Flags.ofByte (Word.low w) }
  | .bc => { c with b := Word.high w, c := Word.low w }
  | .de => { c with d := Word.high w, e := Word.low w }
  | .hl => c.setHl w
  | .sp => { c with sp := w }

/-- A register holds what was put into it last, and the others keep their bytes. -/
theorem get_set (c : Cpu) (r q : Register) (v : UInt8) :
    (c.set r v).get q = if q = r then v else c.get q := by
  cases r <;> cases q <;> rfl

/-- A word register other than the accumulator with the flags holds what was put into it. -/
theorem getPair_setPair (c : Cpu) (p : Pair) (w : UInt16) (h : p ≠ .af) :
    (c.setPair p w).getPair p = w := by
  cases p <;> simp_all [getPair, setPair, setHl, bc, de, hl]

/-- Ends a suspension, as a press of a button does. -/
def wake (c : Cpu) : Cpu := { c with mode := .running }

end Cpu

end GameBoy
