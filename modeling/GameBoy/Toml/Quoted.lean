import GameBoy.Hex

/-!
# Quoted texts

A text stands in double quotes, where a backslash introduces a character that cannot be written as
it is, or in single quotes, where every character stands for itself. It ends on its line, unless it
has three quotes on both sides. A text of several lines does not begin with the line end right
behind its quotes, and it may have one or two quotes of its own before those that close it. In
double quotes, a backslash at the end of a line takes away the blank space up to the next character.
-/

namespace GameBoy.Toml

/-- A blank within a line. -/
def isBlank (c : Char) : Bool := c == ' ' || c == '\t'

/-- The character can stand in a text or a comment: no control characters but the tab. -/
def isPlain (c : Char) : Bool := c == '\t' || (' ' ≤ c && c != '\x7F')

/-! ## Characters with a backslash -/

/-- What was read of a character that is written with a backslash. -/
inductive Escape where
  /-- The backslash. -/
  | begun
  /-- A part of the number of a character, of which so many digits follow the next one. -/
  | numbered (more value : Nat)

/-- The character that a letter after a backslash stands for. -/
def escape? (c : Char) : Option Char :=
  match c with
  | 'b' => some '\x08'
  | 't' => some '\t'
  | 'n' => some '\n'
  | 'f' => some '\x0C'
  | 'r' => some '\r'
  | '"' => some '"'
  | '\\' => some '\\'
  | _ => none

/-- Goes on with a character after a backslash: what was read of it then, unless it is complete, and
the text so far, which is given backwards. -/
def Escape.next? (e : Escape) (text : List Char) (c : Char) : Option (Option Escape × List Char) :=
  match e with
  | begun =>
    if c = 'u' then some (some (numbered 3 0), text)
    else if c = 'U' then some (some (numbered 7 0), text)
    else (escape? c).map fun d => (none, d :: text)
  | numbered more value =>
    match Hex.value? c, more with
    | some d, n + 1 => some (some (numbered n (value * 16 + d)), text)
    | some d, 0 =>
      let number := value * 16 + d
      if number.isValidChar then some (none, Char.ofNat number :: text) else none
    | none, _ => none

/-! ## Texts on one line -/

/-- Reads the rest of a text on one line; what was read before is given backwards. -/
def readQuoted (quote : Char) (escape : Option Escape) (text : List Char) :
    List Char → Option (String × List Char)
  | [] => none
  | c :: cs =>
    match escape with
    | some e =>
      match e.next? text c with
      | some (escape, text) => readQuoted quote escape text cs
      | none => none
    | none =>
      if c = quote then some (String.ofList text.reverse, cs)
      else if c = '\\' ∧ quote = '"' then readQuoted quote (some .begun) text cs
      else if isPlain c then readQuoted quote none (c :: text) cs
      else none

/-! ## Texts of several lines -/

/-- What the next character of a text of several lines is. -/
inductive LongState where
  /-- Part of the text, after so many quotes. -/
  | plain (quotes : Nat)
  /-- Part of a character with a backslash. -/
  | escaped (e : Escape)
  /-- Part of the blank space after a backslash, or what follows it if the line has ended. -/
  | skipping (ended : Bool)

/-- The character is blank space. -/
def isSpace (c : Char) : Bool := isBlank c || c == '\n'

namespace LongState

/-- There were enough quotes to close the text. -/
def closing : LongState → Bool
  | plain quotes => 3 ≤ quotes
  | _ => false

/-- What a character is that is no part of the quotes before it: the blank space after a backslash
ends with the first character that is none. -/
def settle (c : Char) : LongState → LongState
  | skipping true => if isSpace c then skipping true else plain 0
  | state => state

end LongState

/-- The text that was read, backwards, with the three quotes that close it. -/
def closedText (text : List Char) : String := String.ofList (text.drop 3).reverse

/-- Reads the rest of a text of several lines; what was read before is given backwards. No more than
five quotes follow each other at its end. A line end is read as a line feed. -/
def readLong (quote : Char) (state : LongState) (text : List Char) :
    List Char → Option (String × List Char)
  | [] => if state.closing then some (closedText text, []) else none
  | c :: cs =>
    if state.closing && c != quote then some (closedText text, c :: cs)
    else if c = '\r' ∧ cs.head? = some '\n' then readLong quote state text cs
    else
      match state.settle c with
      | .plain quotes =>
        if c = quote then
          if quotes = 4 then some (closedText (c :: text), cs)
          else readLong quote (.plain (quotes + 1)) (c :: text) cs
        else if c = '\\' ∧ quote = '"' then readLong quote (.escaped .begun) text cs
        else if isPlain c || c == '\n' then readLong quote (.plain 0) (c :: text) cs
        else none
      | .escaped e =>
        match e, isSpace c with
        | .begun, true => readLong quote (.skipping (c == '\n')) text cs
        | e, _ =>
          match e.next? text c with
          | some (some e, text) => readLong quote (.escaped e) text cs
          | some (none, text) => readLong quote (.plain 0) text cs
          | none => none
      | .skipping ended =>
        if isSpace c then readLong quote (.skipping (ended || c == '\n')) text cs else none

/-- Drops a line end. -/
def dropLineEnd (cs : List Char) : List Char :=
  match cs with
  | '\n' :: cs => cs
  | '\r' :: '\n' :: cs => cs
  | _ => cs

/-- Reads the rest of a text after its first quote. -/
def readText (quote : Char) (cs : List Char) : Option (String × List Char) :=
  if [quote, quote].isPrefixOf cs then
    readLong quote (.plain 0) [] (dropLineEnd (cs.drop 2))
  else readQuoted quote none [] cs

end GameBoy.Toml
