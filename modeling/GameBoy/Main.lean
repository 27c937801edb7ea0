import GameBoy.CommandLine.Session

/-!
# The program

The command line program: files are read, frames are made one after the other, and what they show is
written as soon as it is known. A run in real time waits after each frame.
-/

open GameBoy GameBoy.CommandLine

namespace GameBoy.Program

/-- The duration of a frame in nanoseconds. -/
def frameDuration : Nat := 1000000000 / 60

/-- The reason why a file could not be read. -/
def fileError (e : IO.Error) : FileError :=
  match e with
  | .noFileOrDirectory .. => .notFound
  | .inappropriateType _ code _ => if code = 21 ∨ code = -21 then .isFolder else .notFolder
  | e => .other (toString e)

/-- Reads a file. -/
def readBytes (path : String) : IO (Except FileError (Array UInt8)) := do
  try
    return .ok (← IO.FS.readBinFile path).data
  catch e => return .error (fileError e)

/-- Writes a text at once. -/
def printNow (text : String) : IO Unit := do
  let out ← IO.getStdout
  out.putStr text
  out.flush

/-- Shows what a run shows. -/
def showOutput : Output → IO Unit
  | .print text => Program.printNow text
  | .message text => IO.eprint (logged "gbi_cli::runner" text)

/-- Makes frames until the run ends. -/
partial def runFrames (s : Settings) (r : Run) :
    IO (Except IllegalOpcode Outcome × Console) := do
  let before ← IO.monoNanosNow
  let (outputs, r, result?) := Run.advance s r
  outputs.forM showOutput
  match result? with
  | some result => return (result, r.console)
  | none =>
    if s.realtime then
      let spent := (← IO.monoNanosNow) - before
      if spent < frameDuration then
        IO.sleep (UInt32.ofNat ((frameDuration - spent) / 1000000))
    runFrames s r

/-- Runs a program. -/
def run (o : Options) : IO UInt32 := do
  let config ← match o.config with
    | some path => pure ((← readBytes path) >>= textOf)
    | none => pure (.ok "")
  let rom ← readBytes o.rom
  let launched := launch o config rom
  IO.eprint launched.log
  match launched.result with
  | .error f =>
    IO.eprint f.text
    return 1
  | .ok (s, c) =>
    let (result, c) ← runFrames s (Run.start s c)
    Program.printNow (o.epilogue c)
    match failure? result with
    | some f =>
      IO.eprint f.text
      return 1
    | none => return 0

end GameBoy.Program

/-- The entry point. -/
def main (arguments : List String) : IO UInt32 := do
  match Request.ofArguments arguments with
  | .error e =>
    IO.eprint ("error: " ++ e.message ++ "\n")
    return 2
  | .ok .help =>
    GameBoy.Program.printNow helpText
    return 0
  | .ok .version =>
    GameBoy.Program.printNow versionText
    return 0
  | .ok (.run o) => GameBoy.Program.run o
