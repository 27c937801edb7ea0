/-!
# Hexadecimal text

Bytes and words are shown as upper-case hexadecimal digits of fixed width: two for a byte, four
for a word. Byte strings are the digits of their bytes without separators, and digits of either
case are read.
-/

namespace GameBoy.Hex

/-- The digit for the lower four bits of a number. -/
def digit (n : Nat) : Char :=
  if n % 16 < 10 then Char.ofNat (0x30 + n % 16) else Char.ofNat (0x37 + n % 16)

/-- The two digits of a byte. -/
def byte (b : UInt8) : String :=
  String.ofList [digit (b.toNat / 16), digit b.toNat]

/-- The four digits of a word. -/
def word (w : UInt16) : String :=
  String.ofList [digit (w.toNat / 0x1000), digit (w.toNat / 0x100), digit (w.toNat / 0x10),
    digit w.toNat]

/-- The digits of a sequence of bytes. -/
def bytes (bs : Array UInt8) : String :=
  bs.foldl (fun s b => (s.push (digit (b.toNat / 16))).push (digit b.toNat)) ""

/-- The value of a digit. -/
def value? (c : Char) : Option Nat :=
  if '0' ≤ c ∧ c ≤ '9' then some (c.toNat - 0x30)
  else if 'A' ≤ c ∧ c ≤ 'F' then some (c.toNat - 0x37)
  else if 'a' ≤ c ∧ c ≤ 'f' then some (c.toNat - 0x57)
  else none

/-- The bytes written in a text of digit pairs. -/
def ofChars? : List Char → Array UInt8 → Option (Array UInt8)
  | [], bs => some bs
  | [_], _ => none
  | c :: d :: rest, bs => do
    let high ← value? c
    let low ← value? d
    ofChars? rest (bs.push (UInt8.ofNat (16 * high + low)))

/-- The bytes written in a text, none if it is no sequence of digit pairs. -/
def toBytes? (s : String) : Option (Array UInt8) := ofChars? s.toList #[]

end GameBoy.Hex
