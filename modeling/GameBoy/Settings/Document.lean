import GameBoy.Settings.Basic
import GameBoy.Toml.Document
import GameBoy.Toml.Reader

/-!
# Settings as configuration text

A configuration text is a list of changes to the default settings: its entries are taken in their
order, each sets what its key says, and the first that cannot be taken makes the text unusable. Keys
that are not known do not matter. Settings are written with all their keys but a missing frame
limit.
-/

namespace GameBoy

/-- Why a text is no configuration text. -/
inductive SettingsError where
  /-- The text or one of its values is malformed. -/
  | malformed
  /-- A text stands where the name of a sink should be. -/
  | sink (e : InvalidSink)
  deriving DecidableEq, Repr

/-- A value, or the error that it is missing or of the wrong kind. -/
def SettingsError.orMalformed {α : Type} : Option α → Except SettingsError α
  | some x => .ok x
  | none => .error .malformed

open SettingsError (orMalformed)

namespace ConsoleConfig

/-- The keys of the settings. -/
def keys : List String := ["frame_cycles", "service_interrupts"]

/-- The settings as entries. -/
def entries (c : ConsoleConfig) : Toml.Entries :=
  [("frame_cycles", .number c.frameCycles.toNat),
    ("service_interrupts", .boolean c.serviceInterrupts)]

/-- The settings after an entry. -/
def change (c : ConsoleConfig) (key : String) (v : Toml.Value) :
    Except SettingsError ConsoleConfig :=
  if key = "frame_cycles" then
    (orMalformed v.toUInt32?).map fun n => { c with frameCycles := n }
  else if key = "service_interrupts" then
    (orMalformed v.toBool?).map fun b => { c with serviceInterrupts := b }
  else .ok c

/-- The settings that a table describes. -/
def ofTable (t : Toml.Table) : Except SettingsError ConsoleConfig :=
  t.foldlM (fun c (key, v) => c.change key v) {}

end ConsoleConfig

namespace Settings

/-- The frame limit as entries. -/
def limitEntries (s : Settings) : Toml.Entries :=
  match s.frameLimit with
  | some n => [("frame_limit", .number n.toNat)]
  | none => []

/-- The settings as a document. -/
def document (s : Settings) : Toml.Document where
  entries := s.limitEntries ++
    [("realtime", .boolean s.realtime), ("serial_sink", .string s.sink.name),
      ("stop_on_result", .boolean s.stopOnResult)]
  sections := [("emulation", s.console.entries)]

/-- The settings as configuration text. -/
def toml (s : Settings) : String := s.document.text

/-- The sink that a value names. -/
def sinkOf (v : Toml.Value) : Except SettingsError Sink :=
  match v.toText? with
  | none => .error .malformed
  | some text => (Sink.ofText text).mapError .sink

/-- The driving of the console that a value describes. -/
def consoleOf (v : Toml.Value) : Except SettingsError ConsoleConfig :=
  match v.toTable? ConsoleConfig.keys with
  | none => .error .malformed
  | some t => ConsoleConfig.ofTable t

/-- The settings after an entry. -/
def change (s : Settings) (key : String) (v : Toml.Value) : Except SettingsError Settings :=
  if key = "frame_limit" then
    (orMalformed v.toUInt64?).map fun n => { s with frameLimit := some n }
  else if key = "realtime" then
    (orMalformed v.toBool?).map fun b => { s with realtime := b }
  else if key = "serial_sink" then
    (sinkOf v).map fun sink => { s with sink := sink }
  else if key = "stop_on_result" then
    (orMalformed v.toBool?).map fun b => { s with stopOnResult := b }
  else if key = "emulation" then
    (consoleOf v).map fun c => { s with console := c }
  else .ok s

/-- The settings that a table describes. -/
def ofTable (t : Toml.Table) : Except SettingsError Settings :=
  t.foldlM (fun s (key, v) => s.change key v) {}

/-- The settings that a text describes. -/
def ofToml (text : String) : Except SettingsError Settings :=
  match Toml.Table.ofText? text with
  | some t => ofTable t
  | none => .error .malformed

end Settings

end GameBoy
