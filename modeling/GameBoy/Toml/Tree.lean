import GameBoy.Toml.Value

/-!
# Building tables

A text makes its tables piece by piece: a header opens one, or a further one of a sequence, and a
dotted key reaches into one. What may still be added to a table depends on how it came about, so a
`Branch` remembers its `Origin` until the text is complete. Of a sequence only the last table can
grow. A key is never given twice.
-/

namespace GameBoy.Toml

/-- How a table came about. -/
inductive Origin where
  /-- It was passed on the way to the table of a header. -/
  | passed
  /-- It has a header of its own. -/
  | headed
  /-- A dotted key passed it. -/
  | dotted
  deriving DecidableEq, Repr

/-- What a key stands for while a text is read. -/
inductive Branch where
  /-- A finished value. -/
  | leaf (v : Value)
  /-- A table that may still grow. -/
  | fork (origin : Origin) (entries : List (String × Branch))
  /-- A sequence of tables that may still grow, of which only the last one may. -/
  | list (earlier : List Value) (entries : List (String × Branch))

/-- What a header names. -/
inductive Heading where
  /-- A table. -/
  | table
  /-- A further table of a sequence. -/
  | element
  deriving DecidableEq, Repr

namespace Branch

mutual

/-- The finished value of a branch. -/
def value : Branch → Value
  | leaf v => v
  | fork _ entries => .table (table entries)
  | list earlier entries => .array (earlier ++ [.table (table entries)])

/-- The finished table of branches. -/
def table : List (String × Branch) → Table
  | [] => []
  | (key, b) :: rest => (key, value b) :: table rest

end

/-- Replaces what a key stands for. -/
def put (key : String) (b : Branch) (t : List (String × Branch)) : List (String × Branch) :=
  t.map fun entry => if entry.1 = key then (key, b) else entry

/-- Gives a value to a dotted key. Its tables are made where they are missing. A table with a header
of its own is closed to dotted keys, and a table that was passed on the way to others is no place
for the value itself, nor is one of a sequence. -/
def assign? (path : List String) (v : Value) (t : List (String × Branch)) :
    Option (List (String × Branch)) :=
  match path with
  | [] => none
  | [key] =>
    match t.lookup key with
    | none => some (t ++ [(key, leaf v)])
    | some _ => none
  | key :: rest =>
    match t.lookup key with
    | none => (assign? rest v []).map fun s => t ++ [(key, fork .dotted s)]
    | some (fork origin s) =>
      if origin = .headed ∨ (origin = .passed ∧ rest.length = 1) then none
      else (assign? rest v s).map fun s => put key (fork origin s) t
    | some (list earlier s) =>
      if rest.length = 1 then none
      else (assign? rest v s).map fun s => put key (list earlier s) t
    | some (leaf _) => none

/-- Opens the table of a header. It must be new, but for tables that were only passed on the way to
others, and for sequences that have further tables. -/
def openTable? (heading : Heading) (path : List String) (t : List (String × Branch)) :
    Option (List (String × Branch)) :=
  match path with
  | [] => none
  | [key] =>
    match heading, t.lookup key with
    | .table, none => some (t ++ [(key, fork .headed [])])
    | .table, some (fork .passed s) =>
      some (t.filter (fun entry => entry.1 != key) ++ [(key, fork .headed s)])
    | .element, none => some (t ++ [(key, list [] [])])
    | .element, some (list earlier s) =>
      some (put key (list (earlier ++ [.table (table s)]) []) t)
    | _, some _ => none
  | key :: rest =>
    match t.lookup key with
    | none => (openTable? heading rest []).map fun s => t ++ [(key, fork .passed s)]
    | some (fork origin s) => (openTable? heading rest s).map fun s => put key (fork origin s) t
    | some (list earlier s) => (openTable? heading rest s).map fun s => put key (list earlier s) t
    | some (leaf _) => none

/-- Changes the table of a header that has been opened. -/
def within? (path : List String)
    (f : List (String × Branch) → Option (List (String × Branch)))
    (t : List (String × Branch)) : Option (List (String × Branch)) :=
  match path with
  | [] => f t
  | key :: rest =>
    match t.lookup key with
    | some (fork origin s) => (within? rest f s).map fun s => put key (fork origin s) t
    | some (list earlier s) => (within? rest f s).map fun s => put key (list earlier s) t
    | _ => none

end Branch

end GameBoy.Toml
