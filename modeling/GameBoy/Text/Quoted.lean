import GameBoy.Text.Hidden

/-!
# Quoted texts

A text in quotes shows each of its characters. A double quote, which would end the text, and a
backslash stand behind a backslash, the characters that end or space lines are letters behind a
backslash, and any other hidden character is its number in braces. A single quote is plain.
-/

namespace GameBoy.Text

/-- The letter that stands for a character behind a backslash. -/
def letter? (c : Char) : Option Char :=
  match c with
  | '"' => some '"'
  | '\\' => some '\\'
  | '\t' => some 't'
  | '\n' => some 'n'
  | '\r' => some 'r'
  | '\x00' => some '0'
  | _ => none

/-- The number of a character in braces. -/
def number (c : Char) : List Char := ['\\', 'u', '\x7b'] ++ Nat.toDigits 16 c.toNat ++ ['\x7d']

/-- A character within quotes. -/
def quotedChar (c : Char) : List Char :=
  match letter? c with
  | some letter => ['\\', letter]
  | none => if isHidden c then number c else [c]

/-- A text in quotes. -/
def quoted (s : String) : String :=
  "\"" ++ String.ofList (s.toList.flatMap quotedChar) ++ "\""

end GameBoy.Text
