import GameBoy.Toml.Quoted
import GameBoy.Toml.Scalar
import GameBoy.Toml.Tree

/-!
# Reading configuration texts

A configuration text is a sequence of lines in TOML: an assignment of a value to a key, or a header
that names the table to which the following assignments belong, with comments and blank lines
between them. `readStatements` reads the lines and `Table.ofText?` makes the table that they
describe. Keys may be quoted and dotted, values may be arrays and inline tables; both are less than
`depthLimit` deep. A malformed text is refused as a whole. Why it is refused is not kept, and of a
date or a time only that it is one.
-/

namespace GameBoy.Toml

/-- What a line says. -/
inductive Statement where
  /-- A key, which may be dotted, has a value. -/
  | assign (path : List String) (v : Value)
  /-- The following assignments belong to a table. -/
  | header (heading : Heading) (path : List String)

/-- Dotted keys have fewer parts than this, and arrays and inline tables fewer levels. -/
def depthLimit : Nat := 80

/-- Drops blanks. -/
def skipBlanks (cs : List Char) : List Char := cs.dropWhile isBlank

/-- Reads the end of a line: its line feed, or the end of the text. -/
def readLineEnd (cs : List Char) : Option (List Char) :=
  match cs with
  | [] => some []
  | '\n' :: cs => some cs
  | '\r' :: '\n' :: cs => some cs
  | _ => none

/-- Reads what may follow a statement on its line: blanks and a comment. -/
def readRest (cs : List Char) : Option (List Char) :=
  match skipBlanks cs with
  | '#' :: cs => readLineEnd (cs.dropWhile isPlain)
  | cs => readLineEnd cs

/-! ## Keys -/

/-- The character can stand in a key without quotes. -/
def isBare (c : Char) : Bool := c.isAlphanum || c == '_' || c == '-'

/-- Reads a key without dots. -/
def readKey (cs : List Char) : Option (String × List Char) :=
  match cs with
  | '"' :: cs => readQuoted '"' none [] cs
  | '\'' :: cs => readQuoted '\'' none [] cs
  | _ =>
    match cs.takeWhile isBare with
    | [] => none
    | key => some (String.ofList key, cs.dropWhile isBare)

/-- Reads a key with or without dots, of any length. -/
def readParts (cs : List Char) : Option (List String × List Char) :=
  match readKey cs with
  | none => none
  | some (key, rest) =>
    match skipBlanks rest with
    | '.' :: more =>
      if (skipBlanks more).length < cs.length then
        (readParts (skipBlanks more)).map fun (path, rest) => (key :: path, rest)
      else none
    | _ => some ([key], rest)
termination_by cs.length

/-- Reads a key with or without dots. -/
def readPath (cs : List Char) : Option (List String × List Char) :=
  match readParts cs with
  | some (path, rest) => if path.length < depthLimit then some (path, rest) else none
  | none => none

/-! ## Values -/

/-- Drops blanks, line feeds and comments, which may stand between the values of an array. -/
def skipGaps (inComment : Bool) : List Char → List Char
  | [] => []
  | c :: cs =>
    if c = '\n' then skipGaps false cs
    else if inComment && isPlain c then skipGaps true cs
    else if c = '#' then skipGaps true cs
    else if isBlank c then skipGaps false cs
    else if c = '\r' && cs.head? == some '\n' then skipGaps false cs
    else c :: cs

mutual

/-- Reads a value. `levels` is the number of levels to which values may still be nested, and `fuel`
bounds the number of steps. -/
def readValue (levels fuel : Nat) (cs : List Char) : Option (Value × List Char) :=
  match fuel with
  | 0 => none
  | fuel + 1 =>
    match cs, levels with
    | '"' :: cs, _ => (readText '"' cs).map fun (s, rest) => (.string s, rest)
    | '\'' :: cs, _ => (readText '\'' cs).map fun (s, rest) => (.string s, rest)
    | '[' :: cs, levels + 1 => readArray levels fuel [] (skipGaps false cs)
    | '{' :: cs, levels + 1 =>
      match skipBlanks cs with
      | '}' :: rest => some (.table [], rest)
      | cs => readInline levels fuel [] cs
    | cs, _ => readWord cs

/-- Reads the rest of an array from the next value on; the values before are given backwards. -/
def readArray (levels fuel : Nat) (values : List Value) (cs : List Char) :
    Option (Value × List Char) :=
  match fuel with
  | 0 => none
  | fuel + 1 =>
    match cs with
    | ']' :: rest => some (.array values.reverse, rest)
    | _ =>
      match readValue levels fuel cs with
      | none => none
      | some (v, rest) =>
        match skipGaps false rest with
        | ',' :: rest => readArray levels fuel (v :: values) (skipGaps false rest)
        | ']' :: rest => some (.array (v :: values).reverse, rest)
        | _ => none

/-- Reads the rest of an inline table from the next key on, after the given entries. -/
def readInline (levels fuel : Nat) (entries : List (String × Branch)) (cs : List Char) :
    Option (Value × List Char) :=
  match fuel with
  | 0 => none
  | fuel + 1 =>
    match readPath cs with
    | none => none
    | some (path, rest) =>
      match skipBlanks rest with
      | '=' :: rest =>
        match readValue levels fuel (skipBlanks rest) with
        | none => none
        | some (v, rest) =>
          match Branch.assign? path v entries, skipBlanks rest with
          | some entries, ',' :: rest => readInline levels fuel entries (skipBlanks rest)
          | some entries, '}' :: rest => some (.table (Branch.table entries), rest)
          | _, _ => none
      | _ => none

end

/-! ## Lines -/

/-- Reads the rest of a header after its opening brackets, of which it has two for an element. -/
def readHeader (heading : Heading) (cs : List Char) : Option (Statement × List Char) :=
  match readPath (skipBlanks cs) with
  | none => none
  | some (path, rest) =>
    match heading, skipBlanks rest with
    | .table, ']' :: rest => some (.header .table path, rest)
    | .element, ']' :: ']' :: rest => some (.header .element path, rest)
    | _, _ => none

/-- Reads a statement. -/
def readStatement (cs : List Char) : Option (Statement × List Char) :=
  match cs with
  | '[' :: '[' :: cs => readHeader .element cs
  | '[' :: cs => readHeader .table cs
  | _ =>
    match readPath cs with
    | none => none
    | some (path, rest) =>
      match skipBlanks rest with
      | '=' :: rest =>
        let value := skipBlanks rest
        (readValue (depthLimit - 1) (2 * value.length + 2) value).map fun (v, rest) =>
          (.assign path v, rest)
      | _ => none

/-- Reads a line, which holds at most one statement. -/
def readLine (cs : List Char) : Option (List Statement × List Char) :=
  match readRest cs with
  | some rest => some ([], rest)
  | none =>
    match readStatement (skipBlanks cs) with
    | none => none
    | some (statement, rest) => (readRest rest).map fun rest => ([statement], rest)

/-- Reads all lines. -/
def readStatements (cs : List Char) : Option (List Statement) :=
  if cs.isEmpty then some []
  else
    match readLine cs with
    | none => none
    | some (statements, rest) =>
      if rest.length < cs.length then (readStatements rest).map fun more => statements ++ more
      else none
termination_by cs.length

/-! ## Documents -/

/-- A table under construction, and the header under which assignments are made. -/
structure Draft where
  /-- The header. -/
  path : List String
  /-- The table. -/
  entries : List (String × Branch)

namespace Draft

/-- Follows a statement. -/
def follow? (d : Draft) : Statement → Option Draft
  | .assign path v =>
    (Branch.within? d.path (Branch.assign? path v) d.entries).map fun t => { d with entries := t }
  | .header heading path => (Branch.openTable? heading path d.entries).map fun t => ⟨path, t⟩

/-- Follows statements. -/
def followAll? (d : Draft) : List Statement → Option Draft
  | [] => some d
  | s :: rest =>
    match d.follow? s with
    | none => none
    | some d => d.followAll? rest

end Draft

/-- The table that statements describe. -/
def Table.ofStatements? (statements : List Statement) : Option Table :=
  (Draft.followAll? ⟨[], []⟩ statements).map fun d => Branch.table d.entries

/-- The table that a text describes, none if the text is malformed. A byte order mark in front of
the text is ignored. -/
def Table.ofText? (s : String) : Option Table :=
  let cs := match s.toList with
    | '\uFEFF' :: cs => cs
    | cs => cs
  match readStatements cs with
  | none => none
  | some statements => Table.ofStatements? statements

end GameBoy.Toml
