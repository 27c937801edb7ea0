/-!
# Lines of text

A text is cut at its line feeds. A carriage return directly before a line feed belongs to the end
of the line, any other is text. What follows the last line feed is a line unless it is empty.
-/

namespace GameBoy.Lines

/-- A line without a carriage return at its end; the line is given backwards. -/
def closed (reversed : List Char) : List Char :=
  match reversed with
  | '\r' :: line => line.reverse
  | line => line.reverse

/-- Cuts a text into lines, after a part of a line that is given backwards. -/
def cutFrom (reversed : List Char) : List Char → List (List Char)
  | [] => if reversed.isEmpty then [] else [reversed.reverse]
  | '\n' :: cs => closed reversed :: cutFrom [] cs
  | c :: cs => cutFrom (c :: reversed) cs

/-- The lines of a text. -/
def cut (cs : List Char) : List (List Char) := cutFrom [] cs

/-- A text all of whose lines but the first are moved to the right by four spaces. -/
def indentRest (s : String) : String :=
  String.ofList (s.toList.flatMap fun c => if c = '\n' then ['\n', ' ', ' ', ' ', ' '] else [c])

end GameBoy.Lines
