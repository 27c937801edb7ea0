/-!
# Control sequences

A text can hold sequences of characters that control a terminal instead of being shown. They begin
with the escape character, and their second character says of which kind they are. `Control.strip`
leaves of a text what is shown without a terminal: no control sequences, and no control characters
but white space.

White space is shown even within a sequence, unless the sequence carries a string. What follows it
is shown as well, but the sequence is not forgotten: the next control character belongs to it again.
-/

namespace GameBoy.Control

/-- A place within a control sequence. -/
inductive Sequence where
  /-- Behind the escape character. -/
  | escape
  /-- Behind the escape character and further characters, before the one that ends the sequence. -/
  | intermediate
  /-- Behind the introducer of a function with parameters. -/
  | function
  /-- At the beginning of a string for the device. -/
  | deviceEntry
  /-- Within the parameters of a string for the device. -/
  | deviceParameter
  /-- Behind the parameters of a string for the device. -/
  | deviceIntermediate
  /-- Within a string that is not shown. -/
  | string
  /-- Within a command to the operating system. -/
  | command
  deriving DecidableEq, Repr

/-- Where the reader of a text stands. -/
inductive State where
  /-- Within text that is shown. A sequence may be waiting to be resumed. -/
  | shown (waiting : Option Sequence)
  /-- Within a control sequence. -/
  | within (s : Sequence)
  deriving DecidableEq, Repr

/-- The escape character, which begins a sequence anywhere. -/
def escapeChar : Char := '\x1B'

/-- The characters that end a sequence anywhere. -/
def isCancel (c : Char) : Bool := c == '\x18' || c == '\x1A'

/-- The white space that is shown. -/
def isSpace (c : Char) : Bool := c == '\t' || c == '\n' || c == '\x0C' || c == '\r'

/-- A character that is shown outside of control sequences. -/
def isShown (c : Char) : Bool := isSpace c || (' ' ≤ c && c != '\x7F')

/-- Of the bytes of the character, one that continues it is the terminator of strings. -/
def holdsTerminator (c : Char) : Bool := (String.utf8EncodeChar c).tail.contains 0x9C

namespace Sequence

/-- White space is shown within the sequence. -/
def showsSpace : Sequence → Bool
  | escape | intermediate | function => true
  | deviceEntry | deviceParameter | deviceIntermediate | string | command => false

/-- Where the reader stands behind the second character of a sequence. -/
def afterEscape (c : Char) : State :=
  if ' ' ≤ c ∧ c ≤ '/' then .within intermediate
  else if c = '[' then .within function
  else if c = ']' then .within command
  else if c = 'P' then .within deviceEntry
  else if c = 'X' ∨ c = '^' ∨ c = '_' then .within string
  else if '0' ≤ c ∧ c ≤ '~' then .shown none
  else .within escape

/-- Where the reader stands behind a character of a sequence that neither begins a new one nor ends
all. -/
def after (s : Sequence) (c : Char) : State :=
  match s with
  | escape => afterEscape c
  | intermediate => if '0' ≤ c ∧ c ≤ '~' then .shown none else .within intermediate
  | function => if '@' ≤ c ∧ c ≤ '~' then .shown none else .within function
  | deviceEntry =>
    if ' ' ≤ c ∧ c ≤ '/' then .within deviceIntermediate
    else if '0' ≤ c ∧ c ≤ '?' then .within deviceParameter
    else if '@' ≤ c ∧ c ≤ '~' then .within string
    else .within deviceEntry
  | deviceParameter =>
    if ' ' ≤ c ∧ c ≤ '/' then .within deviceIntermediate
    else if '<' ≤ c ∧ c ≤ '~' then .within string
    else .within deviceParameter
  | deviceIntermediate =>
    if '0' ≤ c ∧ c ≤ '~' then .within string else .within deviceIntermediate
  | string => if holdsTerminator c then .shown none else .within string
  | command => if c = '\x07' then .shown none else .within command

end Sequence

/-- Where the reader stands behind a character that is not shown. -/
def skip (s : Option Sequence) (c : Char) : State :=
  if c = escapeChar then .within .escape
  else if isCancel c then .shown none
  else
    match s with
    | some s => s.after c
    | none => .shown none

/-- Reads a character: whether it is shown, and where the reader stands behind it. A character
outside of ASCII makes an end of a sequence that is waiting. -/
def read (s : State) (c : Char) : Bool × State :=
  match s with
  | .shown waiting =>
    if isShown c then (true, .shown (if c.toNat < 0x80 then waiting else none))
    else (false, skip waiting c)
  | .within s =>
    if s.showsSpace && isSpace c then (true, .shown (some s)) else (false, skip (some s) c)

/-- What is shown of a text from where the reader stands. -/
def stripFrom (s : State) : List Char → List Char
  | [] => []
  | c :: cs =>
    match read s c with
    | (true, s) => c :: stripFrom s cs
    | (false, s) => stripFrom s cs

/-- What is shown of a text. -/
def strip (text : String) : String := String.ofList (stripFrom (.shown none) text.toList)

end GameBoy.Control
