import GameBoy.Toml.Value

/-!
# Writing configuration texts

What the program writes is simple: texts, numbers and truth values under plain keys, and sections of
the same. A `Document` holds it, `Document.text` writes it, and `Document.table` is the table that
the text describes.
-/

namespace GameBoy.Toml

/-- A value that is not made of others. -/
inductive Scalar where
  /-- A text. -/
  | string (s : String)
  /-- A natural number. -/
  | number (n : Nat)
  /-- A truth value. -/
  | boolean (b : Bool)
  deriving DecidableEq, Repr

namespace Scalar

/-- A scalar as a value. -/
def value : Scalar → Value
  | string s => .string s
  | number n => .integer n
  | boolean b => .boolean b

/-- A scalar as text. A text is put into quotes as it is. -/
def text : Scalar → String
  | string s => "\"" ++ s ++ "\""
  | number n => toString n
  | boolean b => if b then "true" else "false"

end Scalar

/-- Keys with scalars. -/
abbrev Entries := List (String × Scalar)

namespace Entries

/-- The lines of entries. -/
def text (es : Entries) : String :=
  es.foldr (fun (key, v) rest => key ++ " = " ++ v.text ++ "\n" ++ rest) ""

/-- Entries as a table. -/
def table (es : Entries) : Table := es.map fun (key, v) => (key, v.value)

end Entries

/-- Entries, and sections of entries under a name. -/
structure Document where
  /-- The entries outside of all sections. -/
  entries : Entries
  /-- The sections. -/
  sections : List (String × Entries)

namespace Document

/-- The text of a document. An empty line stands before each section. -/
def text (d : Document) : String :=
  Entries.text d.entries ++
    d.sections.foldr (fun (name, es) rest => "\n[" ++ name ++ "]\n" ++ Entries.text es ++ rest) ""

/-- A document as a table. -/
def table (d : Document) : Table :=
  Entries.table d.entries ++ d.sections.map fun (name, es) => (name, .table (Entries.table es))

end Document

end GameBoy.Toml
