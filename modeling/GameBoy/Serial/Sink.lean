/-!
# Sinks

Where the text goes that a program sends over the serial line.
-/

namespace GameBoy

/-- A destination of serial text. -/
inductive Sink where
  /-- It is printed. -/
  | stdout
  /-- It is logged line by line. -/
  | log
  /-- It is dropped. -/
  | discard
  deriving DecidableEq, Repr

/-- A text that names no sink. -/
structure InvalidSink where
  /-- The text. -/
  text : String
  deriving DecidableEq, Repr

namespace Sink

/-- All sinks. -/
def all : List Sink := [stdout, log, discard]

/-- The name of a sink, under which settings are stored. -/
def name : Sink → String
  | stdout => "Stdout"
  | log => "Log"
  | discard => "Discard"

/-- The name by which users know a sink. -/
def label : Sink → String
  | stdout => "stdout"
  | log => "log"
  | discard => "none"

/-- The sink that a text names: either of its names, where the case of ASCII letters does not
count. -/
def ofText (s : String) : Except InvalidSink Sink :=
  match all.find? fun k => s.toLower == k.name.toLower || s.toLower == k.label with
  | some k => .ok k
  | none => .error ⟨s⟩

end Sink

/-- The wording of the error. -/
def InvalidSink.message (e : InvalidSink) : String :=
  s!"invalid SerialSink string '{e.text}', expected one of: stdout, log, discard, none"

end GameBoy
