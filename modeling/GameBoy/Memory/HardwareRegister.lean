import GameBoy.Word

/-!
# Hardware registers

The hardware is controlled through a page of 128 bytes that starts at address `0xFF00`. A place in
the page is an `IoOffset`. Of the 128 bytes, 41 have a name and a purpose: they are the hardware
registers. This file lists them, their places, and what the start-up program leaves in them.
-/

namespace GameBoy

/-- A place in the page of hardware registers, counted from its start. -/
abbrev IoOffset := Fin 0x80

namespace IoOffset

/-- The address of a place in the page. -/
def address (i : IoOffset) : UInt16 := Word.ofBytes 0xFF (UInt8.ofNat i.val)

/-- The place in the page that an address names, none outside of `0xFF00` to `0xFF7F`. -/
def ofAddress? (a : UInt16) : Option IoOffset :=
  if h : 0xFF00 ≤ a.toNat ∧ a.toNat < 0xFF80 then some ⟨a.toNat - 0xFF00, by omega⟩ else none

end IoOffset

/-- A byte through which the hardware is controlled. -/
inductive HardwareRegister where
  /-- The buttons. -/
  | joyp
  /-- The byte that the serial line sends. -/
  | sb
  /-- The control of the serial line. -/
  | sc
  /-- The divider, the timer, its modulo and its control. -/
  | div | tima | tma | tac
  /-- The requests of interrupts. -/
  | interruptFlag
  /-- The first sound channel, with a sweep. -/
  | nr10 | nr11 | nr12 | nr13 | nr14
  /-- The second sound channel. -/
  | nr21 | nr22 | nr23 | nr24
  /-- The third sound channel, which plays samples. -/
  | nr30 | nr31 | nr32 | nr33 | nr34
  /-- The fourth sound channel, which plays noise. -/
  | nr41 | nr42 | nr43 | nr44
  /-- The mixing of the sound channels. -/
  | nr50 | nr51 | nr52
  /-- The display: its control and status, the position of the background, lines, sprite transfer,
  palettes, and the position of the window. -/
  | lcdc | stat | scy | scx | ly | lyc | dma | bgp | obp0 | obp1 | wy | wx
  deriving DecidableEq, Repr

namespace HardwareRegister

/-- All hardware registers, by ascending address. -/
def all : List HardwareRegister :=
  [joyp, sb, sc, div, tima, tma, tac, interruptFlag,
    nr10, nr11, nr12, nr13, nr14, nr21, nr22, nr23, nr24,
    nr30, nr31, nr32, nr33, nr34, nr41, nr42, nr43, nr44, nr50, nr51, nr52,
    lcdc, stat, scy, scx, ly, lyc, dma, bgp, obp0, obp1, wy, wx]

/-- The name of a hardware register in the hardware's documentation. -/
def name : HardwareRegister → String
  | joyp => "JOYP" | sb => "SB" | sc => "SC"
  | div => "DIV" | tima => "TIMA" | tma => "TMA" | tac => "TAC" | interruptFlag => "IF"
  | nr10 => "NR10" | nr11 => "NR11" | nr12 => "NR12" | nr13 => "NR13" | nr14 => "NR14"
  | nr21 => "NR21" | nr22 => "NR22" | nr23 => "NR23" | nr24 => "NR24"
  | nr30 => "NR30" | nr31 => "NR31" | nr32 => "NR32" | nr33 => "NR33" | nr34 => "NR34"
  | nr41 => "NR41" | nr42 => "NR42" | nr43 => "NR43" | nr44 => "NR44"
  | nr50 => "NR50" | nr51 => "NR51" | nr52 => "NR52"
  | lcdc => "LCDC" | stat => "STAT" | scy => "SCY" | scx => "SCX" | ly => "LY" | lyc => "LYC"
  | dma => "DMA" | bgp => "BGP" | obp0 => "OBP0" | obp1 => "OBP1" | wy => "WY" | wx => "WX"

/-- The place of a hardware register in the page. -/
def offset : HardwareRegister → IoOffset
  | joyp => 0x00 | sb => 0x01 | sc => 0x02
  | div => 0x04 | tima => 0x05 | tma => 0x06 | tac => 0x07 | interruptFlag => 0x0F
  | nr10 => 0x10 | nr11 => 0x11 | nr12 => 0x12 | nr13 => 0x13 | nr14 => 0x14
  | nr21 => 0x16 | nr22 => 0x17 | nr23 => 0x18 | nr24 => 0x19
  | nr30 => 0x1A | nr31 => 0x1B | nr32 => 0x1C | nr33 => 0x1D | nr34 => 0x1E
  | nr41 => 0x20 | nr42 => 0x21 | nr43 => 0x22 | nr44 => 0x23
  | nr50 => 0x24 | nr51 => 0x25 | nr52 => 0x26
  | lcdc => 0x40 | stat => 0x41 | scy => 0x42 | scx => 0x43 | ly => 0x44 | lyc => 0x45
  | dma => 0x46 | bgp => 0x47 | obp0 => 0x48 | obp1 => 0x49 | wy => 0x4A | wx => 0x4B

/-- The address of a hardware register. -/
def address (r : HardwareRegister) : UInt16 := r.offset.address

/-- The hardware register at an address. -/
def ofAddress? (a : UInt16) : Option HardwareRegister := all.find? fun r => r.address == a

/-- The hardware register with a given name. -/
def ofName? (s : String) : Option HardwareRegister := all.find? fun r => r.name == s

/-- What the start-up program leaves in a hardware register: settings of sound, display and
palettes, and zero elsewhere. -/
def powerOn : HardwareRegister → UInt8
  | nr10 => 0x80 | nr11 => 0xBF | nr12 => 0xF3 | nr14 => 0xBF
  | nr21 => 0x3F | nr24 => 0xBF
  | nr30 => 0x7F | nr31 => 0xFF | nr32 => 0x9F | nr34 => 0xBF
  | nr41 => 0xFF | nr44 => 0xBF
  | nr50 => 0x77 | nr51 => 0xF3 | nr52 => 0xF1
  | lcdc => 0x91 | bgp => 0xFC | obp0 => 0xFF | obp1 => 0xFF
  | _ => 0x00

end HardwareRegister

end GameBoy
