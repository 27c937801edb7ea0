import GameBoy.CommandLine.FileTree
import GameBoy.CommandLine.Options
import GameBoy.Cpu.Dump
import GameBoy.Run
import GameBoy.Settings.Document
import GameBoy.Text.Control
import GameBoy.Text.Quoted

/-!
# Sessions

A session is one use of the program: the settings are made from their file and the options, the
program is loaded and run, and what happened is reported. `launch` does what precedes the first
frame and `conclude` what follows the last; `respond` is the whole session for given files.
-/

namespace GameBoy.CommandLine

/-- The end of a session that fails. -/
structure Failure where
  /-- What was being done. -/
  context : String
  /-- What went wrong, if that is shown. -/
  cause : Option String
  deriving DecidableEq, Repr

/-- A failure as it is shown. -/
def Failure.text (f : Failure) : String :=
  match f.cause with
  | some cause => s!"Error: {f.context}\n\nCaused by:\n    {cause}\n"
  | none => s!"Error: {f.context}\n"

/-- A message as it is logged, without anything that controls a terminal. -/
def logged (origin message : String) : String :=
  Control.strip s!"[INFO {origin}] {Lines.indentRest message}\n"

namespace Options

/-- Options take precedence over settings. -/
def override (o : Options) (s : Settings) : Settings :=
  { s with
    frameLimit := o.frames.or s.frameLimit
    realtime := o.realtime || s.realtime
    sink := o.sink.getD s.sink }

/-- The settings of a session, where `config` is the text of the file of the settings. -/
def settings (o : Options) (config : Except FileError String) : Except Failure Settings :=
  match o.config with
  | none => .ok (o.override {})
  | some path =>
    match config with
    | .error e =>
      .error ⟨s!"error reading TOML config file from '{Text.quoted path}'", some e.message⟩
    | .ok text =>
      match Settings.ofToml text with
      | .ok s => .ok (o.override s)
      | .error _ =>
        .error ⟨s!"error parsing app config from TOML file at '{Text.quoted path}'", none⟩

/-- A console with the program of a session, where `rom` is the file of the program. -/
def console (o : Options) (s : Settings) (rom : Except FileError (Array UInt8)) :
    Except Failure Console :=
  match rom with
  | .error e => .error ⟨s!"error reading ROM file from '{o.rom}'", some e.message⟩
  | .ok program =>
    match (Console.powerOn s.console).load program with
    | .ok c => .ok c
    | .error e => .error ⟨s!"error loading ROM file '{o.rom}'", some e.message⟩

end Options

/-- A session before its first frame. -/
structure Launch where
  /-- What was logged. -/
  log : String
  /-- The settings and the console, unless the session has failed. -/
  result : Except Failure (Settings × Console)

/-- Does what precedes the first frame. -/
def launch (o : Options) (config : Except FileError String)
    (rom : Except FileError (Array UInt8)) : Launch :=
  match o.settings config with
  | .error f => ⟨"", .error f⟩
  | .ok s =>
    ⟨logged "gbi_cli" ("Running with config:\n" ++ s.text), (o.console s rom).map fun c => (s, c)⟩

/-- Why a run makes the session fail, if it does. -/
def failure? (result : Except IllegalOpcode Outcome) : Option Failure :=
  match result with
  | .error e => some ⟨"emulation stopped", some e.message⟩
  | .ok .failed => some ⟨"program reported failure over serial", none⟩
  | .ok .passed | .ok .frameLimitReached | .ok .suspended => none

/-- What is printed after the last frame. -/
def Options.epilogue (o : Options) (c : Console) : String :=
  if o.dumpState then c.machine.cpu.dump ++ "\n" else ""

/-- What a session leaves: an exit code and texts. -/
structure Response where
  /-- The exit code. -/
  code : UInt8
  /-- The text on standard output. -/
  stdout : String
  /-- The text on standard error. -/
  stderr : String
  deriving DecidableEq, Repr

/-- The response to a failure, after what was printed and logged. -/
def Response.ofEnd (stdout log : String) (f : Option Failure) : Response :=
  match f with
  | some f => ⟨1, stdout, log ++ f.text⟩
  | none => ⟨0, stdout, log⟩

/-- The whole session, none for a run without an end. -/
def Options.respond (o : Options) (config : Except FileError String)
    (rom : Except FileError (Array UInt8)) : Option Response :=
  let launched := launch o config rom
  match launched.result with
  | .error f => some (.ofEnd "" launched.log (some f))
  | .ok (s, c) =>
    (Run.complete s c).map fun report =>
      let log := report.messages.map (logged "gbi_cli::runner")
      .ofEnd (report.printed ++ o.epilogue report.run.console) (launched.log ++ String.join log)
        (failure? report.result)

/-- The text in a file. -/
def textOf (bytes : Array UInt8) : Except FileError String :=
  match String.fromUTF8? ⟨bytes⟩ with
  | some text => .ok text
  | none => .error .notText

/-- The response to a command line, where `read` reads files. A command line that cannot be
understood has the exit code 2. -/
def respond (arguments : List String) (read : String → Except FileError (Array UInt8)) :
    Option Response :=
  match Request.ofArguments arguments with
  | .error e => some ⟨2, "", "error: " ++ e.message ++ "\n"⟩
  | .ok .help => some ⟨0, helpText, ""⟩
  | .ok .version => some ⟨0, versionText, ""⟩
  | .ok (.run o) => o.respond (read (o.config.getD "") >>= textOf) (read o.rom)

end GameBoy.CommandLine
