import GameBoy.Machine.Basic

/-!
# The state in one line

The state of the processor as a line of text: the word registers in hexadecimal, whether interrupts
are accepted, the waiting change of that, the mode, and the cycles of the last step.
-/

namespace GameBoy

/-- A truth value as a digit. -/
def Machine.bitText (b : Bool) : String := if b then "1" else "0"

/-- A waiting change of `ime`: a digit, or a dash if there is none. -/
def Machine.pendingText (p : Option Bool) : String :=
  match p with
  | some b => bitText b
  | none => "-"

/-- The state of the processor and the cycles of the last step in one line. -/
def Machine.summary (m : Machine) : String :=
  let c := m.cpu
  s!"AF={Hex.word c.af} BC={Hex.word c.bc} DE={Hex.word c.de} HL={Hex.word c.hl} " ++
    s!"SP={Hex.word c.sp} PC={Hex.word c.pc} IME={bitText c.ime} " ++
    s!"PEND={pendingText c.pendingIme} MODE={c.mode.name} LAST={m.lastCycles}"

end GameBoy
