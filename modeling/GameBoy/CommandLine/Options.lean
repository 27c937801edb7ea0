import GameBoy.Settings.Basic

/-!
# Options of the command line

The command line consists of options. An option that takes a value finds it behind an equals sign,
directly behind its letter, or in the next argument, which then must not look like an option. Each
option is given at most once. The arguments are read from left to right: a request for help or the
version takes effect where it stands, unless an error stands before it.
-/

namespace GameBoy.CommandLine

/-- An option. -/
inductive OptionName where
  /-- The file of the program. -/
  | rom
  /-- The file of the settings. -/
  | config
  /-- The frame limit. -/
  | frames
  /-- Frames last as long as on the real console. -/
  | realtime
  /-- Where serial text goes. -/
  | serialSink
  /-- The state of the processor is printed at the end. -/
  | dumpState
  /-- The options are explained. -/
  | help
  /-- The version is printed. -/
  | version
  deriving DecidableEq, Repr

namespace OptionName

/-- All options. -/
def all : List OptionName :=
  [rom, config, frames, realtime, serialSink, dumpState, help, version]

/-- The name behind two hyphens. -/
def long : OptionName → String
  | rom => "rom"
  | config => "config"
  | frames => "frames"
  | realtime => "realtime"
  | serialSink => "serial-sink"
  | dumpState => "dump-state"
  | help => "help"
  | version => "version"

/-- The letter behind one hyphen. -/
def letter? : OptionName → Option Char
  | rom => some 'r'
  | config => some 'c'
  | frames => some 'f'
  | help => some 'h'
  | version => some 'V'
  | realtime | serialSink | dumpState => none

/-- The option takes a value. -/
def takesValue : OptionName → Bool
  | rom | config | frames | serialSink => true
  | realtime | dumpState | help | version => false

/-- The option with a given name. -/
def ofLong? (cs : List Char) : Option OptionName := all.find? fun o => o.long.toList == cs

/-- The option with a given letter. -/
def ofLetter? (c : Char) : Option OptionName := all.find? fun o => o.letter? == some c

end OptionName

/-- What is wrong with a command line. -/
inductive UsageError where
  /-- An argument is no option. -/
  | unexpected (argument : String)
  /-- An option lacks its value. -/
  | valueMissing (o : OptionName)
  /-- An option has a value but takes none. -/
  | valueUnneeded (o : OptionName)
  /-- The value of an option cannot be used. -/
  | valueInvalid (o : OptionName) (value : String)
  /-- An option is given twice. -/
  | repeated (o : OptionName)
  /-- An option that has to be given is not given. -/
  | required (o : OptionName)
  deriving DecidableEq, Repr

/-- The wording of the error. -/
def UsageError.message : UsageError → String
  | unexpected argument => s!"unexpected argument '{argument}'"
  | valueMissing o => s!"a value is required for '--{o.long}'"
  | valueUnneeded o => s!"'--{o.long}' takes no value"
  | valueInvalid o value => s!"invalid value '{value}' for '--{o.long}'"
  | repeated o => s!"'--{o.long}' cannot be used multiple times"
  | required o => s!"'--{o.long}' is required"

/-- The options that have been read. -/
structure Draft where
  /-- The file of the program. -/
  rom : Option String := none
  /-- The file of the settings. -/
  config : Option String := none
  /-- The frame limit. -/
  frames : Option UInt64 := none
  /-- Frames last as long as on the real console. -/
  realtime : Bool := false
  /-- Where serial text goes. -/
  sink : Option Sink := none
  /-- The state of the processor is printed at the end. -/
  dumpState : Bool := false

/-- A complete set of options. -/
structure Options where
  /-- The file of the program. -/
  rom : String
  /-- The file of the settings. -/
  config : Option String
  /-- The frame limit. -/
  frames : Option UInt64
  /-- Frames last as long as on the real console. -/
  realtime : Bool
  /-- Where serial text goes. -/
  sink : Option Sink
  /-- The state of the processor is printed at the end. -/
  dumpState : Bool
  deriving DecidableEq, Repr

/-- What the command line asks for. -/
inductive Request where
  /-- A program is run. -/
  | run (o : Options)
  /-- The options are explained. -/
  | help
  /-- The version is printed. -/
  | version
  deriving DecidableEq, Repr

/-- The number of 64 bits that decimal digits write; a plus sign may stand before them. -/
def number? (s : String) : Option UInt64 :=
  let digits := match s.toList with
    | '+' :: cs => cs
    | cs => cs
  if digits.isEmpty || !digits.all Char.isDigit then none
  else
    let n := digits.foldl (fun n c => 10 * n + (c.toNat - '0'.toNat)) 0
    if n < UInt64.size then some (UInt64.ofNat n) else none

namespace Draft

/-- The draft with the value of an option that has not been given before. -/
def setValue (d : Draft) (o : OptionName) (value : String) : Except UsageError Draft :=
  match o with
  | .rom =>
    if d.rom.isSome then .error (.repeated o)
    else if value.isEmpty then .error (.valueMissing o)
    else .ok { d with rom := some value }
  | .config =>
    if d.config.isSome then .error (.repeated o)
    else if value.isEmpty then .error (.valueMissing o)
    else .ok { d with config := some value }
  | .frames =>
    if d.frames.isSome then .error (.repeated o)
    else
      match number? value with
      | some n => .ok { d with frames := some n }
      | none => .error (.valueInvalid o value)
  | .serialSink =>
    if d.sink.isSome then .error (.repeated o)
    else
      match Sink.ofText value with
      | .ok sink => .ok { d with sink := some sink }
      | .error _ => .error (.valueInvalid o value)
  | .realtime | .dumpState | .help | .version => .error (.valueUnneeded o)

/-- The draft with an option without a value, none where the option is a request of its own. -/
def setSwitch (d : Draft) (o : OptionName) : Except UsageError Draft :=
  match o with
  | .realtime => if d.realtime then .error (.repeated o) else .ok { d with realtime := true }
  | .dumpState => if d.dumpState then .error (.repeated o) else .ok { d with dumpState := true }
  | .rom | .config | .frames | .serialSink | .help | .version => .error (.valueMissing o)

/-- The options of a draft, once the program is known. -/
def complete (d : Draft) : Except UsageError Options :=
  match d.rom with
  | some rom => .ok
    { rom, config := d.config, frames := d.frames, realtime := d.realtime, sink := d.sink,
      dumpState := d.dumpState }
  | none => .error (.required .rom)

end Draft

/-- What an argument is. -/
inductive Argument where
  /-- The mark behind which nothing is an option. -/
  | endOfOptions
  /-- An option, with a value if the argument holds one. -/
  | option (o : OptionName) (value : Option String)
  /-- Something that is no option. -/
  | other

/-- The value that stands directly behind a letter; an equals sign may stand between them. -/
def attached? (cs : List Char) : Option String :=
  match cs with
  | [] => none
  | '=' :: value => some (String.ofList value)
  | value => some (String.ofList value)

/-- What an argument is. Behind the letter of an option without a value nothing is looked at, for
such an option is a request of its own. -/
def Argument.ofText (s : String) : Argument :=
  match s.toList with
  | ['-', '-'] => .endOfOptions
  | '-' :: '-' :: cs =>
    match OptionName.ofLong? (cs.takeWhile (· != '=')), cs.dropWhile (· != '=') with
    | some o, _ :: value => .option o (some (String.ofList value))
    | some o, [] => .option o none
    | none, _ => .other
  | '-' :: c :: cs =>
    match OptionName.ofLetter? c with
    | some o => .option o (if o.takesValue then attached? cs else none)
    | none => .other
  | _ => .other

/-- An argument can be the value of the option before it. -/
def canBeValue (s : String) : Bool :=
  match s.toList with
  | '-' :: _ :: _ => false
  | _ => true

/-- Reads arguments, after the options in a draft. -/
def readArguments (d : Draft) : List String → Except UsageError Request
  | [] => d.complete.map .run
  | argument :: rest =>
    match Argument.ofText argument with
    | .other => .error (.unexpected argument)
    | .endOfOptions =>
      match rest with
      | [] => d.complete.map .run
      | argument :: _ => .error (.unexpected argument)
    | .option o (some value) =>
      match d.setValue o value with
      | .ok d => readArguments d rest
      | .error e => .error e
    | .option .help none => .ok .help
    | .option .version none => .ok .version
    | .option o none =>
      if o.takesValue then
        match rest with
        | [] => .error (.valueMissing o)
        | value :: rest =>
          if canBeValue value then
            match d.setValue o value with
            | .ok d => readArguments d rest
            | .error e => .error e
          else .error (.valueMissing o)
      else
        match d.setSwitch o with
        | .ok d => readArguments d rest
        | .error e => .error e

/-- What a command line asks for. -/
def Request.ofArguments (arguments : List String) : Except UsageError Request :=
  readArguments {} arguments

/-- The program's name and version. -/
def versionText : String := "gbi-cli 0.1.0\n"

/-- The explanation of the options. -/
def helpText : String :=
  "Headless runner for Game Boy test programs\n\n" ++
  "Usage: gbi-cli [OPTIONS] --rom <ROM>\n\n" ++
  "Options:\n" ++
  "  -r, --rom <ROM>                  Path to the program ROM, at most 32KB\n" ++
  "  -c, --config <CONFIG>            " ++
    "Optional TOML config file; command-line flags take precedence\n" ++
  "  -f, --frames <FRAMES>            Stop after this many frames\n" ++
  "      --realtime                   Pace emulation to 60 frames per second\n" ++
  "      --serial-sink <SERIAL_SINK>  Where serial output goes (stdout, log, none)\n" ++
  "      --dump-state                 Print the final CPU registers as TOML\n" ++
  "  -h, --help                       Print help\n" ++
  "  -V, --version                    Print version\n"

end GameBoy.CommandLine
