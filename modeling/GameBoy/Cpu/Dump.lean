import GameBoy.Cpu.Basic
import GameBoy.Toml.Document
import GameBoy.Toml.Reader

/-!
# The processor as configuration text

The state of the processor can be written as a configuration text and read again. The waiting change
of `ime` is left out when there is none; everything else must be there to be read, and keys that
are not known do not matter.
-/

namespace GameBoy

namespace Flags

/-- The keys of the flags. -/
def keys : List String := ["zero", "subtract", "half_carry", "carry"]

/-- The flags as entries. -/
def entries (f : Flags) : Toml.Entries :=
  [("zero", .boolean f.zero), ("subtract", .boolean f.subtract),
    ("half_carry", .boolean f.halfCarry), ("carry", .boolean f.carry)]

/-- The flags that a table describes. -/
def ofTable? (t : Toml.Table) : Option Flags := do
  let zero ← (← t.get? "zero").toBool?
  let subtract ← (← t.get? "subtract").toBool?
  let halfCarry ← (← t.get? "half_carry").toBool?
  let carry ← (← t.get? "carry").toBool?
  return { zero, subtract, halfCarry, carry }

end Flags

namespace Cpu

/-- The waiting change of `ime` as entries. -/
def pendingEntries (c : Cpu) : Toml.Entries :=
  match c.pendingIme with
  | some b => [("pending_ime", .boolean b)]
  | none => []

/-- The state of the processor as a document. -/
def document (c : Cpu) : Toml.Document where
  entries :=
    [("accumulator", .number c.a.toNat), ("b", .number c.b.toNat), ("c", .number c.c.toNat),
      ("d", .number c.d.toNat), ("e", .number c.e.toNat), ("h", .number c.h.toNat),
      ("l", .number c.l.toNat), ("sp", .number c.sp.toNat), ("pc", .number c.pc.toNat),
      ("ime", .boolean c.ime)] ++ c.pendingEntries ++ [("mode", .string c.mode.name)]
  sections := [("flags", c.flags.entries)]

/-- The state of the processor as text. -/
def dump (c : Cpu) : String := c.document.text

/-- The waiting change of `ime` that a table describes. -/
def pendingOfTable? (t : Toml.Table) : Option (Option Bool) :=
  match t.get? "pending_ime" with
  | some v => v.toBool?.map some
  | none => some none

/-- The state of the processor that a table describes. -/
def ofTable? (t : Toml.Table) : Option Cpu := do
  let a ← (← t.get? "accumulator").toUInt8?
  let b ← (← t.get? "b").toUInt8?
  let c ← (← t.get? "c").toUInt8?
  let d ← (← t.get? "d").toUInt8?
  let e ← (← t.get? "e").toUInt8?
  let h ← (← t.get? "h").toUInt8?
  let l ← (← t.get? "l").toUInt8?
  let sp ← (← t.get? "sp").toUInt16?
  let pc ← (← t.get? "pc").toUInt16?
  let ime ← (← t.get? "ime").toBool?
  let pendingIme ← pendingOfTable? t
  let mode ← Mode.ofName? (← (← t.get? "mode").toChoice?)
  let flags ← Flags.ofTable? (← (← t.get? "flags").toTable? Flags.keys)
  return { a, flags, b, c, d, e, h, l, sp, pc, ime, pendingIme, mode }

/-- The state of the processor that a text describes. -/
def ofDump? (s : String) : Option Cpu := (Toml.Table.ofText? s).bind ofTable?

end Cpu

end GameBoy
