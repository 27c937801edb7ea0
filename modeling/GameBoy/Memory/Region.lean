/-!
# Regions of the address space

The sixteen-bit address space is divided once and for all into twelve regions, which follow each
other without a gap. A region has a name, a first and a last address, and `Region.ofAddress` finds
the one to which an address belongs.
-/

namespace GameBoy

/-- A region of the address space. -/
inductive Region where
  /-- The first half of the program. -/
  | romBank0
  /-- The second half of the program. -/
  | romBank1
  /-- The tiles and maps of the display. -/
  | videoRam
  /-- The memory of the cartridge. -/
  | externalRam
  /-- The first half of the working memory. -/
  | workRamBank0
  /-- The second half of the working memory. -/
  | workRamBank1
  /-- A second view of the working memory. -/
  | echoRam
  /-- The attributes of the sprites. -/
  | objectMemory
  /-- Addresses at which nothing is stored. -/
  | unusable
  /-- The page of hardware registers. -/
  | ioRegisters
  /-- The memory inside the processor. -/
  | highRam
  /-- The byte that enables interrupts. -/
  | interruptEnable
  deriving DecidableEq, Repr

namespace Region

/-- All regions, by ascending address. -/
def all : List Region :=
  [romBank0, romBank1, videoRam, externalRam, workRamBank0, workRamBank1, echoRam, objectMemory,
    unusable, ioRegisters, highRam, interruptEnable]

/-- The name of a region. -/
def name : Region → String
  | romBank0 => "ROM bank 0"
  | romBank1 => "ROM bank 1"
  | videoRam => "video RAM"
  | externalRam => "external RAM"
  | workRamBank0 => "work RAM bank 0"
  | workRamBank1 => "work RAM bank 1"
  | echoRam => "echo RAM"
  | objectMemory => "OAM"
  | unusable => "unusable"
  | ioRegisters => "I/O registers"
  | highRam => "high RAM"
  | interruptEnable => "interrupt enable"

/-- The first address of a region. -/
def first : Region → UInt16
  | romBank0 => 0x0000
  | romBank1 => 0x4000
  | videoRam => 0x8000
  | externalRam => 0xA000
  | workRamBank0 => 0xC000
  | workRamBank1 => 0xD000
  | echoRam => 0xE000
  | objectMemory => 0xFE00
  | unusable => 0xFEA0
  | ioRegisters => 0xFF00
  | highRam => 0xFF80
  | interruptEnable => 0xFFFF

/-- The last address of a region. -/
def last : Region → UInt16
  | romBank0 => 0x3FFF
  | romBank1 => 0x7FFF
  | videoRam => 0x9FFF
  | externalRam => 0xBFFF
  | workRamBank0 => 0xCFFF
  | workRamBank1 => 0xDFFF
  | echoRam => 0xFDFF
  | objectMemory => 0xFE9F
  | unusable => 0xFEFF
  | ioRegisters => 0xFF7F
  | highRam => 0xFFFE
  | interruptEnable => 0xFFFF

/-- The region of an address: the regions follow each other, so the first one that ends at or
after the address holds it. -/
def ofAddress (a : UInt16) : Region :=
  if a ≤ romBank0.last then romBank0
  else if a ≤ romBank1.last then romBank1
  else if a ≤ videoRam.last then videoRam
  else if a ≤ externalRam.last then externalRam
  else if a ≤ workRamBank0.last then workRamBank0
  else if a ≤ workRamBank1.last then workRamBank1
  else if a ≤ echoRam.last then echoRam
  else if a ≤ objectMemory.last then objectMemory
  else if a ≤ unusable.last then unusable
  else if a ≤ ioRegisters.last then ioRegisters
  else if a ≤ highRam.last then highRam
  else interruptEnable

end Region

end GameBoy
