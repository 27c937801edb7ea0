import GameBoy.Memory.HardwareRegister

/-!
# Cells

Several addresses can name one stored byte: the echo region shows the work RAM a second time. A
`Cell` is a place where a byte is kept, and `Cell.ofAddress` finds the place that an address
names. Two addresses are interchangeable when they name the same cell.
-/

namespace GameBoy

/-- A place where a byte is kept. -/
inductive Cell where
  /-- A byte of the program. -/
  | rom (i : Fin 0x8000)
  /-- A byte of the video RAM. -/
  | videoRam (i : Fin 0x2000)
  /-- A byte of the cartridge's RAM. -/
  | externalRam (i : Fin 0x2000)
  /-- A byte of the work RAM. -/
  | workRam (i : Fin 0x2000)
  /-- A byte of the sprite attributes. -/
  | objectMemory (i : Fin 0xA0)
  /-- No place at all. -/
  | unusable
  /-- A byte of the page of hardware registers. -/
  | io (i : IoOffset)
  /-- A byte of the processor's own RAM. -/
  | highRam (i : Fin 0x7F)
  /-- The byte that enables interrupts. -/
  | interruptEnable
  deriving DecidableEq, Repr

namespace Cell

/-- The cell that an address names. The echo region lies `0x2000` above the work RAM, whose last
`0x200` bytes it does not show. -/
def ofAddress (a : UInt16) : Cell :=
  if h : a.toNat < 0x8000 then .rom ⟨a.toNat, h⟩
  else if h : a.toNat < 0xA000 then .videoRam ⟨a.toNat - 0x8000, by omega⟩
  else if h : a.toNat < 0xC000 then .externalRam ⟨a.toNat - 0xA000, by omega⟩
  else if h : a.toNat < 0xE000 then .workRam ⟨a.toNat - 0xC000, by omega⟩
  else if h : a.toNat < 0xFE00 then .workRam ⟨a.toNat - 0xE000, by omega⟩
  else if h : a.toNat < 0xFEA0 then .objectMemory ⟨a.toNat - 0xFE00, by omega⟩
  else if a.toNat < 0xFF00 then .unusable
  else if h : a.toNat < 0xFF80 then .io ⟨a.toNat - 0xFF00, by omega⟩
  else if h : a.toNat < 0xFFFF then .highRam ⟨a.toNat - 0xFF80, by omega⟩
  else .interruptEnable

/-- An address in the echo region names the cell that lies `0x2000` below it. -/
theorem ofAddress_echo (a : UInt16) (low : 0xE000 ≤ a.toNat) (high : a.toNat < 0xFE00) :
    ofAddress a = ofAddress (a - 0x2000) := by
  have e : (a - 0x2000).toNat = a.toNat - 0x2000 :=
    UInt16.toNat_sub_of_le a 0x2000 (UInt16.le_iff_toNat_le.2 (by simp; omega))
  have upper : ofAddress a = .workRam ⟨a.toNat - 0xE000, by omega⟩ := by
    unfold ofAddress
    rw [dif_neg (by omega), dif_neg (by omega), dif_neg (by omega), dif_neg (by omega),
      dif_pos high]
  have lower : ofAddress (a - 0x2000) = .workRam ⟨(a - 0x2000).toNat - 0xC000, by omega⟩ := by
    unfold ofAddress
    rw [dif_neg (by omega), dif_neg (by omega), dif_neg (by omega), dif_pos (by omega)]
  rw [upper, lower]
  simp only [e, Cell.workRam.injEq, Fin.mk.injEq]
  omega

end Cell

end GameBoy
