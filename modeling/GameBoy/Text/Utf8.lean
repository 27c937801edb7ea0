/-!
# Reading bytes as text

Bytes are read as UTF-8. A sequence that is no character does not stop the reading: each maximal
part that starts like a character and cannot be continued, and each byte that cannot start one,
becomes a replacement character.

The reader goes from byte to byte. Between bytes it stands either between characters or within one,
and then it knows the value so far, the number of bytes that are missing, and the range of the next
one. The range is the full range of continuation bytes but after four leading bytes, where it keeps
out overlong forms, surrogates and values beyond the last character.
-/

namespace GameBoy.Utf8

/-- The character that stands for bytes that are no text. -/
def replacement : Char := '\uFFFD'

/-- A character of which some bytes have been read. -/
structure Partial where
  /-- The value so far. -/
  value : Nat
  /-- The number of bytes that follow the next one. -/
  more : Nat
  /-- The least next byte. -/
  low : UInt8
  /-- The greatest next byte. -/
  high : UInt8
  deriving DecidableEq, Repr

/-- Where the reader stands: within a character, or else between characters. -/
abbrev State := Option Partial

/-- Reads the first byte of a character. -/
def lead (b : UInt8) : List Char × State :=
  if b < 0x80 then ([Char.ofNat b.toNat], none)
  else if b < 0xC2 then ([replacement], none)
  else if b < 0xE0 then ([], some ⟨b.toNat % 0x20, 0, 0x80, 0xBF⟩)
  else if b = 0xE0 then ([], some ⟨0x0, 1, 0xA0, 0xBF⟩)
  else if b = 0xED then ([], some ⟨0xD, 1, 0x80, 0x9F⟩)
  else if b < 0xF0 then ([], some ⟨b.toNat % 0x10, 1, 0x80, 0xBF⟩)
  else if b = 0xF0 then ([], some ⟨0x0, 2, 0x90, 0xBF⟩)
  else if b < 0xF4 then ([], some ⟨b.toNat % 0x08, 2, 0x80, 0xBF⟩)
  else if b = 0xF4 then ([], some ⟨0x4, 2, 0x80, 0x8F⟩)
  else ([replacement], none)

/-- Reads a byte: the characters that it completes, and where the reader stands after it. A byte
that cannot continue a character ends it and is read as the first of the next. -/
def feed (s : State) (b : UInt8) : List Char × State :=
  match s with
  | none => lead b
  | some p =>
    if p.low ≤ b ∧ b ≤ p.high then
      let value := p.value * 0x40 + b.toNat % 0x40
      match p.more with
      | 0 => ([Char.ofNat value], none)
      | n + 1 => ([], some ⟨value, n, 0x80, 0xBF⟩)
    else
      let (cs, s) := lead b
      (replacement :: cs, s)

/-- What is left at the end: an unfinished character is no character. -/
def finish : State → List Char
  | none => []
  | some _ => [replacement]

/-- Reads bytes from where the reader stands. -/
def decodeFrom (s : State) : List UInt8 → List Char
  | [] => finish s
  | b :: bs =>
    let (cs, s) := feed s b
    cs ++ decodeFrom s bs

/-- The text of a sequence of bytes. -/
def decode (bs : List UInt8) : List Char := decodeFrom none bs

end GameBoy.Utf8
