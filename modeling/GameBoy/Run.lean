import GameBoy.Console.Frame
import GameBoy.Serial.Monitor
import GameBoy.Settings.Basic

/-!
# Runs

A run repeats frames until the program reports a result, the processor is suspended with nothing
that could wake it, the frame limit is reached, or an opcode without a meaning is met, in this
order of precedence where several hold. After each frame the serial output is collected; a frame
that fails ends the run before that.

`Run.advance` makes one frame, `Run.finish?` makes frames up to a given number, and `Run.complete`
sets that number beyond all that a frame counter of 64 bits can count.
-/

namespace GameBoy

/-- How a run ends. -/
inductive Outcome where
  /-- The program reported success. -/
  | passed
  /-- The program reported failure. -/
  | failed
  /-- The frame limit was reached. -/
  | frameLimitReached
  /-- The processor is suspended. -/
  | suspended
  deriving DecidableEq, Repr

namespace Outcome

/-- The name of an outcome. -/
def name : Outcome → String
  | passed => "Passed"
  | failed => "Failed"
  | frameLimitReached => "FrameLimitReached"
  | suspended => "Suspended"

/-- The outcome of a run that ends with a verdict. -/
def ofVerdict : Verdict → Outcome
  | .passed => passed
  | .failed => failed

end Outcome

/-- A run under way. -/
structure Run where
  /-- The console. -/
  console : Console
  /-- The watcher of the serial line. -/
  monitor : Monitor
  /-- The number of frames so far. -/
  frames : Nat
  /-- The number of clock cycles so far. -/
  cycles : Nat

namespace Run

/-- A run at its beginning. -/
def start (s : Settings) (c : Console) : Run := ⟨c, Monitor.start s.sink, 0, 0⟩

/-- Collects the serial output. -/
def collect (r : Run) : List Output × Run :=
  let bytes := r.console.serialOutput
  let (outputs, monitor) := r.monitor.consume bytes
  (outputs, { r with console := r.console.clearSerial, monitor := monitor })

/-- Counts a frame. -/
def count (r : Run) (f : FrameSummary) : Run :=
  { r with frames := r.frames + 1, cycles := r.cycles + f.cycles }

/-- The outcome of a run that ends with the last frame, and the message that says so. -/
def ending? (s : Settings) (r : Run) (suspended : Bool) : Option (Outcome × String) :=
  match if s.stopOnResult then r.monitor.verdict? else none with
  | some v =>
    let outcome := Outcome.ofVerdict v
    some (outcome, s!"Program reported {outcome.name} after {r.frames} frames")
  | none =>
    if suspended then
      let mode := r.console.machine.cpu.mode.name
      some (.suspended, s!"CPU suspended in {mode} after {r.frames} frames ({r.cycles} cycles)")
    else if s.frameLimit.any fun limit => limit.toNat ≤ r.frames then
      some (.frameLimitReached, s!"Frame limit of {r.frames} reached ({r.cycles} cycles)")
    else none

/-- Makes one frame: what it shows, the run after it, and the result if the run has ended. -/
def advance (s : Settings) (r : Run) : List Output × Run × Option (Except IllegalOpcode Outcome) :=
  match r.console.runFrame with
  | (.error e, c) => ([], { r with console := c }, some (.error e))
  | (.ok f, c) =>
    let (outputs, r) := (({ r with console := c }).count f).collect
    match ending? s r f.suspended with
    | some (outcome, message) => (outputs ++ [.message message], r, some (.ok outcome))
    | none => (outputs, r, none)

/-- A finished run. -/
structure Report where
  /-- How it ended. -/
  result : Except IllegalOpcode Outcome
  /-- What it showed, the first last. -/
  outputs : List Output
  /-- The run after its last frame. -/
  run : Run

/-- Makes frames until the run ends, at most `n`. What was shown before is given, the first last. -/
def finish? (s : Settings) (n : Nat) (shown : List Output) (r : Run) : Option Report :=
  match n with
  | 0 => none
  | n + 1 =>
    match advance s r with
    | (outputs, r, some result) => some ⟨result, outputs.reverse ++ shown, r⟩
    | (outputs, r, none) => finish? s n (outputs.reverse ++ shown) r

/-- The number of frames that no counter of 64 bits can count. -/
def maxFrames : Nat := 0x10000000000000000

/-- Runs a console to the end. -/
def complete (s : Settings) (c : Console) : Option Report := finish? s maxFrames [] (start s c)

namespace Report

/-- The text that was printed. -/
def printed (r : Report) : String :=
  r.outputs.foldr (fun o text => match o with
    | .print s => text ++ s
    | .message _ => text) ""

/-- The messages that were logged, the first first. -/
def messages (r : Report) : List String :=
  r.outputs.foldl (fun ms o => match o with
    | .print _ => ms
    | .message m => m :: ms) []

end Report

end Run

end GameBoy
