import GameBoy.Hex
import GameBoy.Toml.Value

/-!
# Numbers, truth values and moments

How values without quotes and brackets are written. A decimal number may have a sign and single
underscores between its digits, but no zero in front; a number in base 16, 8 or 2 has a marker
instead of a sign. A number with a fraction or an exponent is decimal. A moment is a date, a time of
day, or both, and then perhaps how far the clock is ahead of the common one.
-/

namespace GameBoy.Toml

/-! ## Numbers -/

/-- Reads digits after a value so far. Underscores are skipped between two digits. -/
def digitsFrom? (base value : Nat) (afterDigit : Bool) : List Char → Option Nat
  | [] => if afterDigit then some value else none
  | c :: cs =>
    if c = '_' then
      if afterDigit then digitsFrom? base value false cs else none
    else
      match Hex.value? c with
      | some d => if d < base then digitsFrom? base (value * base + d) true cs else none
      | none => none

/-- The number that a sequence of digits writes. -/
def digits? (base : Nat) (cs : List Char) : Option Nat := digitsFrom? base 0 false cs

/-- The number that decimal digits write, without a zero in front. -/
def decimal? (cs : List Char) : Option Nat :=
  match cs with
  | '0' :: _ :: _ => none
  | _ => digits? 10 cs

/-- A word without a sign in front, and whether the sign is a minus sign. -/
def splitSign (cs : List Char) : Bool × List Char :=
  match cs with
  | '+' :: cs => (false, cs)
  | '-' :: cs => (true, cs)
  | _ => (false, cs)

/-- A number with a sign. -/
def withSign (negative : Bool) (n : Nat) : Int := if negative then -Int.ofNat n else Int.ofNat n

/-- The whole number that a word writes, of any size. -/
def wholeNumber? (cs : List Char) : Option Int :=
  match cs with
  | '0' :: 'x' :: cs => (digits? 16 cs).map Int.ofNat
  | '0' :: 'o' :: cs => (digits? 8 cs).map Int.ofNat
  | '0' :: 'b' :: cs => (digits? 2 cs).map Int.ofNat
  | _ =>
    let (negative, cs) := splitSign cs
    (decimal? cs).map (withSign negative)

/-- The whole number of 64 bits that a word writes. -/
def integer? (cs : List Char) : Option Int :=
  match wholeNumber? cs with
  | some n => if -0x8000000000000000 ≤ n ∧ n ≤ 0x7FFFFFFFFFFFFFFF then some n else none
  | none => none

/-- The character belongs to digits. -/
def isDigitPart (c : Char) : Bool := c.isDigit || c == '_'

/-- The power of ten that an exponent writes with its letter. -/
def exponent? (cs : List Char) : Option Int :=
  match cs with
  | [] => none
  | c :: cs =>
    if c = 'e' ∨ c = 'E' then
      let (negative, cs) := splitSign cs
      (digits? 10 cs).map (withSign negative)
    else none

/-- The number that a word without its sign writes with a fraction, an exponent or both. -/
def fraction? (negative : Bool) (cs : List Char) : Option Decimal := do
  let whole ← decimal? (cs.takeWhile isDigitPart)
  match cs.dropWhile isDigitPart with
  | '.' :: cs =>
    let places := cs.takeWhile isDigitPart
    let fraction ← digits? 10 places
    let count := places.countP Char.isDigit
    let exponent ← match cs.dropWhile isDigitPart with
      | [] => some 0
      | cs => exponent? cs
    return ⟨negative, whole * Nat.pow 10 count + fraction, exponent - count⟩
  | cs => return ⟨negative, whole, ← exponent? cs⟩

/-- The number that is no whole number and that a word writes. An infinite number that is not
negative has to be written as such: a decimal number of that magnitude is refused. -/
def real? (cs : List Char) : Option RealNumber :=
  let (negative, cs) := splitSign cs
  if cs = "inf".toList then some (.infinite negative)
  else if cs = "nan".toList then some .undefined
  else
    match fraction? negative cs with
    | none => none
    | some d =>
      if !d.isInfinite then some (.decimal d)
      else if negative then some (.infinite true)
      else none

/-! ## Moments -/

/-- The number that decimal digits write, with nothing between them. -/
def plainNumber? (cs : List Char) : Option Nat :=
  if cs.all Char.isDigit then digits? 10 cs else none

/-- The number of days in a month. -/
def daysOf (year month : Nat) : Nat :=
  if month = 2 then
    if year % 4 = 0 ∧ (year % 100 ≠ 0 ∨ year % 400 = 0) then 29 else 28
  else if month ∈ [4, 6, 9, 11] then 30
  else 31

/-- The word is a date. -/
def isDate (cs : List Char) : Bool :=
  match cs with
  | [y₁, y₂, y₃, y₄, '-', m₁, m₂, '-', d₁, d₂] =>
    match plainNumber? [y₁, y₂, y₃, y₄], plainNumber? [m₁, m₂], plainNumber? [d₁, d₂] with
    | some year, some month, some day =>
      decide (1 ≤ month ∧ month ≤ 12 ∧ 1 ≤ day ∧ day ≤ daysOf year month)
    | _, _, _ => false
  | _ => false

/-- The two digits write a number that is not greater than another. -/
def isUpTo (most : Nat) (c d : Char) : Bool := (plainNumber? [c, d]).any fun n => n ≤ most

/-- The word is a time of day. The last minute may have a second more. -/
def isClock (cs : List Char) : Bool :=
  match cs with
  | h₁ :: h₂ :: ':' :: m₁ :: m₂ :: ':' :: s₁ :: s₂ :: fraction =>
    isUpTo 23 h₁ h₂ && isUpTo 59 m₁ m₂ && isUpTo 60 s₁ s₂ &&
      match fraction with
      | [] => true
      | '.' :: digits => (plainNumber? digits).isSome
      | _ => false
  | _ => false

/-- The word says how far a clock is ahead of the common one. -/
def isOffset (cs : List Char) : Bool :=
  match cs with
  | ['Z'] | ['z'] => true
  | ['+', h₁, h₂, ':', m₁, m₂] | ['-', h₁, h₂, ':', m₁, m₂] => isUpTo 23 h₁ h₂ && isUpTo 59 m₁ m₂
  | _ => false

/-- The character is part of a time of day, and not of what follows it. -/
def isClockPart (c : Char) : Bool := c.isDigit || c == ':' || c == '.'

/-- The word is a time of day, perhaps with how far the clock is ahead. -/
def isTime (cs : List Char) : Bool :=
  isClock (cs.takeWhile isClockPart) &&
    match cs.dropWhile isClockPart with
    | [] => true
    | offset => isOffset offset

/-- The word is a date, a time of day, or both with a mark between them. Only a time with a date may
say how far the clock is ahead. -/
def isMoment (cs : List Char) : Bool :=
  isClock cs ||
    (isDate (cs.take 10) &&
      match cs.drop 10 with
      | [] => true
      | mark :: time => "Tt ".toList.contains mark && isTime time)

/-! ## Words -/

/-- The value that a word writes. -/
def word? (cs : List Char) : Option Value :=
  if cs = "true".toList then some (.boolean true)
  else if cs = "false".toList then some (.boolean false)
  else
    match integer? cs with
    | some n => some (.integer n)
    | none =>
      match real? cs with
      | some x => some (.real x)
      | none => if isMoment cs then some .moment else none

/-- The character ends a word. -/
def endsWord (c : Char) : Bool := " \t\r\n,]\x7d#=".toList.contains c

/-- The characters up to the end of a word. -/
def wordOf (cs : List Char) : List Char := cs.takeWhile fun c => !endsWord c

/-- What follows a word. -/
def afterWord (cs : List Char) : List Char := cs.dropWhile fun c => !endsWord c

/-- The rest of a moment with a blank between the date and the time of day. -/
def afterMoment? (cs : List Char) : Option (List Char) :=
  match afterWord cs with
  | ' ' :: more =>
    if isMoment (wordOf cs ++ ' ' :: wordOf more) then some (afterWord more) else none
  | _ => none

/-- Reads a word. -/
def readWord (cs : List Char) : Option (Value × List Char) :=
  match afterMoment? cs with
  | some rest => some (.moment, rest)
  | none => (word? (wordOf cs)).map fun v => (v, afterWord cs)

end GameBoy.Toml
