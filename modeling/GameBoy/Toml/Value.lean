import GameBoy.Toml.Decimal

/-!
# Values of configuration texts

The values that a TOML text can give to a key, and the views that settings take of them. A table
keeps its entries in the order in which they were made, each key once.
-/

namespace GameBoy.Toml

/-- A number that is no whole number. -/
inductive RealNumber where
  /-- A number with digits. -/
  | decimal (d : Decimal)
  /-- An infinite number. -/
  | infinite (negative : Bool)
  /-- No number at all. -/
  | undefined
  deriving DecidableEq, Repr

/-- A value. -/
inductive Value where
  /-- A text. -/
  | string (s : String)
  /-- A whole number of 64 bits. -/
  | integer (n : Int)
  /-- A number with a fraction or an exponent. -/
  | real (x : RealNumber)
  /-- A truth value. -/
  | boolean (b : Bool)
  /-- A date, a time of day, or both. Nothing asks which. -/
  | moment
  /-- A sequence of values. -/
  | array (values : List Value)
  /-- Keys with values. -/
  | table (entries : List (String × Value))
  deriving Repr

/-- Keys with values. -/
abbrev Table := List (String × Value)

namespace Value

/-- The text that a value is. -/
def toText? : Value → Option String
  | string s => some s
  | _ => none

/-- The truth value that a value is. -/
def toBool? : Value → Option Bool
  | boolean b => some b
  | _ => none

/-- The natural number below `2 ^ bits` that a value is. -/
def toNat? (bits : Nat) : Value → Option Nat
  | integer n => if 0 ≤ n ∧ n.toNat < 1 <<< bits then some n.toNat else none
  | _ => none

/-- The byte that a value is. -/
def toUInt8? (v : Value) : Option UInt8 := (v.toNat? 8).map UInt8.ofNat

/-- The word that a value is. -/
def toUInt16? (v : Value) : Option UInt16 := (v.toNat? 16).map UInt16.ofNat

/-- The number of 32 bits that a value is. -/
def toUInt32? (v : Value) : Option UInt32 := (v.toNat? 32).map UInt32.ofNat

/-- The number of 64 bits that a value is. -/
def toUInt64? (v : Value) : Option UInt64 := (v.toNat? 64).map UInt64.ofNat

/-- The table that a value is. An array gives values to known keys, in the order of the keys. A
moment is a table that has no known keys. -/
def toTable? (keys : List String) : Value → Option Table
  | table t => some t
  | array values => some (keys.zip values)
  | moment => some []
  | _ => none

/-- The one choice among named alternatives that a value is: its name, or a table with the name as
its only key and nothing under it. -/
def toChoice? : Value → Option String
  | string s => some s
  | table [(name, table [])] => some name
  | table [(name, array [])] => some name
  | _ => none

end Value

/-- The value of a key. -/
def Table.get? (t : Table) (key : String) : Option Value := List.lookup key t

end GameBoy.Toml
