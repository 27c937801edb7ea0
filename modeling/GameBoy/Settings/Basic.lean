import GameBoy.Console.Basic
import GameBoy.Serial.Sink

/-!
# Settings

The settings of a run: how long it may last, what is done with serial text, and how the console is
driven.
-/

namespace GameBoy

/-- The settings of a run. -/
structure Settings where
  /-- The run ends after so many frames; without a limit it ends when the program does. -/
  frameLimit : Option UInt64 := none
  /-- Frames last as long as on the real console. -/
  realtime : Bool := false
  /-- Where serial text goes. -/
  sink : Sink := .stdout
  /-- The run ends when the program reports a result. -/
  stopOnResult : Bool := true
  /-- How the console is driven. -/
  console : ConsoleConfig := {}
  deriving DecidableEq, Repr

namespace Settings

/-- The frame limit as text. -/
def limitText (s : Settings) : String :=
  match s.frameLimit with
  | some n => toString n.toNat
  | none => "<None>"

/-- The settings as lines of text. -/
def text (s : Settings) : String :=
  s!"frame_limit: {s.limitText}\nrealtime: {s.realtime}\nserial_sink: {s.sink.label}\n" ++
    s!"stop_on_result: {s.stopOnResult}\n{s.console.text}"

end Settings

end GameBoy
