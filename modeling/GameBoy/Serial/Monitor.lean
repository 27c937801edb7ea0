import GameBoy.Serial.Sink
import GameBoy.Text.Lines
import GameBoy.Text.Utf8

/-!
# The monitor

Test programs report over the serial line. A `Monitor` passes what they send to a sink and keeps it
in a transcript, in which it looks for the words that announce a result: `Failed` anywhere means
failure, and otherwise `Passed` anywhere means success.
-/

namespace GameBoy

/-- The result that a test program reports. -/
inductive Verdict where
  | passed
  | failed
  deriving DecidableEq, Repr

namespace Verdict

/-- The word that announces a verdict. -/
def marker : Verdict → String
  | passed => "Passed"
  | failed => "Failed"

/-- A text contains another. -/
def occursIn (pattern : List Char) : List Char → Bool
  | [] => pattern.isEmpty
  | c :: cs => pattern.isPrefixOf (c :: cs) || occursIn pattern cs

/-- The verdict that a text announces. Failure outweighs success. -/
def ofText? (cs : List Char) : Option Verdict :=
  if occursIn failed.marker.toList cs then some failed
  else if occursIn passed.marker.toList cs then some passed
  else none

end Verdict

/-- Something that a run shows to its user. -/
inductive Output where
  /-- A text is printed as it is. -/
  | print (text : String)
  /-- A message is logged. -/
  | message (text : String)
  deriving DecidableEq, Repr

/-- A watcher of the serial line. -/
structure Monitor where
  /-- Where the text goes. -/
  sink : Sink
  /-- All text so far. -/
  transcript : List Char
  deriving DecidableEq

namespace Monitor

/-- A monitor that has not seen anything. -/
def start (sink : Sink) : Monitor := ⟨sink, []⟩

/-- What a sink shows of a text. -/
def outputs (sink : Sink) (text : List Char) : List Output :=
  match sink with
  | .stdout => [.print (String.ofList text)]
  | .log =>
    ((Lines.cut text).filter fun line => !line.isEmpty).map fun line =>
      .message ("Serial: " ++ String.ofList line)
  | .discard => []

/-- Takes in what the program has sent since the last time. -/
def consume (m : Monitor) (bytes : Array UInt8) : List Output × Monitor :=
  if bytes.isEmpty then ([], m)
  else
    let text := Utf8.decode bytes.toList
    (outputs m.sink text, { m with transcript := m.transcript ++ text })

/-- The verdict that the program has announced. -/
def verdict? (m : Monitor) : Option Verdict := Verdict.ofText? m.transcript

end Monitor

end GameBoy
