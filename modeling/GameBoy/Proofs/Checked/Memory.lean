import GameBoy.Memory.Basic
import GameBoy.Proofs.Checked.Address

/-!
# Checked memory

The functions of `IoPage` and `Memory`, carried out with checks. Each access goes through the place
that `mapAddress` finds, and all its indices are checked against the sizes of the stores; the page
of hardware registers asserts once more that the address is one of its own. Since the place of an
address is that of its cell, a checked access is the access to the cell, and has no faults.
-/

namespace GameBoy

open Checked

/-! ## The page of hardware registers -/

/-- The place in the page of hardware registers at an address, which must be one of the page. -/
def relativeAddress (a : UInt16) : Checked ℕ :=
  if Region.ioRegisters.first ≤ a ∧ a ≤ Region.ioRegisters.last then
    difference a.toNat Region.ioRegisters.first.toNat
  else .error (.outsideIoPage ⟨a⟩)

/-- The place of a hardware register in the page. -/
def HardwareRegister.relativeAddress (r : HardwareRegister) : Checked ℕ :=
  difference r.address.toNat Region.ioRegisters.first.toNat

/-- The address of a place is not below the first of the page. -/
lemma difference_address (i : IoOffset) :
    difference i.address.toNat Region.ioRegisters.first.toNat = .ok i.val := by
  have above : Region.ioRegisters.first.toNat ≤ i.address.toNat := by
    rw [i.toNat_address]
    exact Nat.le_add_right _ _
  rw [difference_eq above, i.toNat_address]
  exact congrArg Except.ok (Nat.add_sub_cancel_left _ _)

/-- The assertion holds for the addresses of the page. -/
@[simp] theorem relativeAddress_address (i : IoOffset) : relativeAddress i.address = .ok i.val := by
  have above : Region.ioRegisters.first ≤ i.address := by
    rw [UInt16.le_iff_toNat_le, i.toNat_address]
    exact Nat.le_add_right _ _
  have below : i.address ≤ Region.ioRegisters.last := by
    rw [UInt16.le_iff_toNat_le, i.toNat_address]
    exact Nat.add_le_add_left (Nat.le_of_lt_succ i.isLt) _
  rw [relativeAddress, if_pos ⟨above, below⟩, difference_address]

@[simp] theorem HardwareRegister.relativeAddress_eq (r : HardwareRegister) :
    r.relativeAddress = .ok r.offset.val :=
  difference_address r.offset

namespace IoPage

/-- The byte at an address of the page. -/
def readChecked (b : IoPage) (a : UInt16) : Checked UInt8 := do
  let place ← relativeAddress a
  index b.contents place

/-- The interrupts that are requested. -/
def requestsChecked (b : IoPage) : Checked UInt8 := do
  let place ← HardwareRegister.interruptFlag.relativeAddress
  index b.contents place

/-- Changes the interrupts that are requested. -/
def changeRequestsChecked (b : IoPage) (change : UInt8 → UInt8) : Checked IoPage := do
  let place ← HardwareRegister.interruptFlag.relativeAddress
  let before ← index b.contents place
  let contents ← update b.contents place (change before)
  return { b with contents := contents }

/-- Requests an interrupt. -/
def requestChecked (b : IoPage) (i : Interrupt) : Checked IoPage :=
  b.changeRequestsChecked fun bits => bits ||| i.bit

/-- Withdraws the request of an interrupt. -/
def withdrawChecked (b : IoPage) (i : Interrupt) : Checked IoPage :=
  b.changeRequestsChecked fun bits => bits &&& ~~~i.bit

/-- Writes a byte to an address of the page. A byte that starts a serial transfer, written to the
control of the serial line, also completes the transfer. -/
def writeChecked (b : IoPage) (a : UInt16) (v : UInt8) : Checked IoPage := do
  let place ← relativeAddress a
  if a = HardwareRegister.sc.address ∧ startsTransfer v then
    let sent ← b.readChecked HardwareRegister.sb.address
    let contents ← update b.contents place (v &&& 0x7F)
    ({ b.send sent with contents := contents } : IoPage).requestChecked .serial
  else
    let contents ← update b.contents place v
    return { b with contents := contents }

@[simp] theorem readChecked_address (b : IoPage) (i : IoOffset) :
    b.readChecked i.address = .ok (b.get i) := by
  rw [readChecked, relativeAddress_address, ok_bind, index_eq b.contents i.isLt]
  rfl

@[simp] theorem requestsChecked_eq (b : IoPage) : b.requestsChecked = .ok b.requests := by
  rw [requestsChecked, HardwareRegister.relativeAddress_eq, ok_bind,
    index_eq b.contents (Fin.isLt _)]
  rfl

lemma changeRequestsChecked_eq (b : IoPage) (change : UInt8 → UInt8) :
    b.changeRequestsChecked change =
      .ok (b.store HardwareRegister.interruptFlag.offset (change b.requests)) := by
  have inside := HardwareRegister.interruptFlag.offset.isLt
  rw [changeRequestsChecked, HardwareRegister.relativeAddress_eq, ok_bind,
    index_eq b.contents inside, ok_bind, update_eq b.contents inside]
  rfl

@[simp] theorem requestChecked_eq (b : IoPage) (i : Interrupt) :
    b.requestChecked i = .ok (b.request i) :=
  b.changeRequestsChecked_eq _

@[simp] theorem withdrawChecked_eq (b : IoPage) (i : Interrupt) :
    b.withdrawChecked i = .ok (b.withdraw i) :=
  b.changeRequestsChecked_eq _

@[simp] theorem writeChecked_address (b : IoPage) (i : IoOffset) (v : UInt8) :
    b.writeChecked i.address v = .ok (b.set i v) := by
  have same : i.address = HardwareRegister.sc.address ↔ i = HardwareRegister.sc.offset := by
    rw [HardwareRegister.address, ← UInt16.toNat_inj, IoOffset.toNat_address,
      IoOffset.toNat_address, Fin.ext_iff]
    omega
  rw [writeChecked, relativeAddress_address, ok_bind, set]
  by_cases transfer : i = HardwareRegister.sc.offset ∧ startsTransfer v
  · obtain ⟨rfl, starts⟩ := transfer
    rw [if_pos ⟨rfl, starts⟩, if_pos (by rw [starts]; rfl)]
    have sent := b.readChecked_address HardwareRegister.sb.offset
    rw [HardwareRegister.address, sent, ok_bind, update_eq b.contents (Fin.isLt _), ok_bind,
      requestChecked_eq]
    rfl
  · have plain : ¬(decide (i = HardwareRegister.sc.offset) && startsTransfer v) = true := by
      rwa [Bool.and_eq_true, decide_eq_true_iff]
    rw [if_neg (by rwa [same]), if_neg plain, update_eq b.contents i.isLt]
    rfl

end IoPage

/-! ## Reading and writing a place -/

/-- The index of a byte of the work RAM, from its bank and its offset in the bank. -/
def workRamIndex (bank offset : ℕ) : Checked ℕ :=
  if bank < 2 then
    if offset < 0x1000 then .ok (0x1000 * bank + offset) else .error (.outOfBounds offset 0x1000)
  else .error (.outOfBounds bank 2)

lemma workRamIndex_eq (bank : Fin 2) (offset : Fin 0x1000) :
    workRamIndex bank offset = .ok (0x1000 * bank + offset) := by
  rw [workRamIndex, if_pos bank.isLt, if_pos offset.isLt]

namespace Memory

/-- The byte at a place. -/
def readPlace (m : Memory) : MappedAddress → Checked UInt8
  | .rom i => index m.rom i
  | .videoRam i => index m.videoRam i
  | .externalRam i => index m.externalRam i
  | .workRam bank offset => do
    let i ← workRamIndex bank offset
    index m.workRam i
  | .objectMemory i => index m.objectMemory i
  | .unusable => return openBus
  | .io a => m.io.readChecked a
  | .highRam i => index m.highRam i
  | .interruptEnable => return m.interruptEnable

/-- Writes a byte to a place. -/
def writePlace (m : Memory) (p : MappedAddress) (v : UInt8) : Checked Memory :=
  match p with
  | .rom i => do
    let rom ← update m.rom i v
    return { m with rom := rom }
  | .videoRam i => do
    let videoRam ← update m.videoRam i v
    return { m with videoRam := videoRam }
  | .externalRam i => do
    let externalRam ← update m.externalRam i v
    return { m with externalRam := externalRam }
  | .workRam bank offset => do
    let i ← workRamIndex bank offset
    let workRam ← update m.workRam i v
    return { m with workRam := workRam }
  | .objectMemory i => do
    let objectMemory ← update m.objectMemory i v
    return { m with objectMemory := objectMemory }
  | .unusable => return m
  | .io a => do
    let io ← m.io.writeChecked a v
    return { m with io := io }
  | .highRam i => do
    let highRam ← update m.highRam i v
    return { m with highRam := highRam }
  | .interruptEnable => return { m with interruptEnable := v }

/-- What is read at the place of a cell is the byte in the cell. -/
lemma readPlace_eq (m : Memory) {p : MappedAddress} {c : Cell} (place : p.IsAt c) :
    m.readPlace p = .ok (m.get c) := by
  cases place with
  | rom i | videoRam i | externalRam i | objectMemory i | highRam i => exact index_eq _ i.isLt
  | workRam bank offset =>
    rw [readPlace, workRamIndex_eq, ok_bind]
    exact index_eq m.workRam _
  | io i => exact m.io.readChecked_address i
  | unusable | interruptEnable => rfl

/-- What is written to the place of a cell is put into the cell. -/
lemma writePlace_eq (m : Memory) {p : MappedAddress} {c : Cell} (place : p.IsAt c) (v : UInt8) :
    m.writePlace p v = .ok (m.set c v) := by
  cases place with
  | rom i | videoRam i | externalRam i | objectMemory i | highRam i =>
    rw [writePlace, update_eq _ i.isLt]
    rfl
  | workRam bank offset =>
    rw [writePlace, workRamIndex_eq, ok_bind, update_eq m.workRam (by omega)]
    rfl
  | io i =>
    rw [writePlace, IoPage.writeChecked_address]
    rfl
  | unusable | interruptEnable => rfl

/-! ## The address space -/

/-- The byte at an address. -/
def readChecked (m : Memory) (a : UInt16) : Checked UInt8 := do
  let place ← mapAddress 1 a
  m.readPlace place

/-- Writes a byte to an address. -/
def writeChecked (m : Memory) (a : UInt16) (v : UInt8) : Checked Memory := do
  let place ← mapAddress 1 a
  m.writePlace place v

/-- The word at an address, lower byte first. -/
def readWordChecked (m : Memory) (a : UInt16) : Checked UInt16 := do
  let low ← m.readChecked a
  let high ← m.readChecked (a + 1)
  return Word.ofBytes high low

/-- Writes a word to an address, lower byte first. -/
def writeWordChecked (m : Memory) (a : UInt16) (w : UInt16) : Checked Memory := do
  let m ← m.writeChecked a (Word.low w)
  m.writeChecked (a + 1) (Word.high w)

/-- Adds one to the byte at an address. -/
def incrementChecked (m : Memory) (a : UInt16) : Checked Memory := do
  let v ← m.readChecked a
  m.writeChecked a (v + 1)

/-- Takes one from the byte at an address. -/
def decrementChecked (m : Memory) (a : UInt16) : Checked Memory := do
  let v ← m.readChecked a
  m.writeChecked a (v - 1)

/-- The interrupts that are both requested and enabled. -/
def pendingInterruptsChecked (m : Memory) : Checked UInt8 := do
  let requests ← m.io.readChecked HardwareRegister.interruptFlag.address
  return m.interruptEnable &&& requests &&& Interrupt.mask

/-- Withdraws the request of an interrupt. -/
def withdrawChecked (m : Memory) (i : Interrupt) : Checked Memory := do
  let io ← m.io.withdrawChecked i
  return { m with io := io }

@[simp] theorem readChecked_eq (m : Memory) (a : UInt16) : m.readChecked a = .ok (m.read a) := by
  obtain ⟨p, found, place⟩ := exists_mapAddress a
  rw [readChecked, found, ok_bind]
  exact m.readPlace_eq place

@[simp] theorem writeChecked_eq (m : Memory) (a : UInt16) (v : UInt8) :
    m.writeChecked a v = .ok (m.write a v) := by
  obtain ⟨p, found, place⟩ := exists_mapAddress a
  rw [writeChecked, found, ok_bind]
  exact m.writePlace_eq place v

@[simp] theorem readWordChecked_eq (m : Memory) (a : UInt16) :
    m.readWordChecked a = .ok (m.readWord a) := by
  rw [readWordChecked, readChecked_eq, ok_bind, readChecked_eq]
  rfl

@[simp] theorem writeWordChecked_eq (m : Memory) (a : UInt16) (w : UInt16) :
    m.writeWordChecked a w = .ok (m.writeWord a w) := by
  rw [writeWordChecked, writeChecked_eq, ok_bind, writeChecked_eq]
  rfl

@[simp] theorem incrementChecked_eq (m : Memory) (a : UInt16) :
    m.incrementChecked a = .ok (m.increment a) := by
  rw [incrementChecked, readChecked_eq, ok_bind, writeChecked_eq]
  rfl

@[simp] theorem decrementChecked_eq (m : Memory) (a : UInt16) :
    m.decrementChecked a = .ok (m.decrement a) := by
  rw [decrementChecked, readChecked_eq, ok_bind, writeChecked_eq]
  rfl

@[simp] theorem pendingInterruptsChecked_eq (m : Memory) :
    m.pendingInterruptsChecked = .ok m.pendingInterrupts := by
  rw [pendingInterruptsChecked, HardwareRegister.address, IoPage.readChecked_address]
  rfl

@[simp] theorem withdrawChecked_eq (m : Memory) (i : Interrupt) :
    m.withdrawChecked i = .ok (m.withdraw i) := by
  rw [withdrawChecked, IoPage.withdrawChecked_eq]
  rfl

/-! ## Programs -/

/-- Replaces what is at the first indices. -/
def copyInto {n : ℕ} (v : Vector UInt8 n) (bytes : Array UInt8) : Checked (Vector UInt8 n) :=
  if bytes.size ≤ n then .ok (Vector.ofFn fun i => bytes.getD i v[i])
  else .error (.outOfBounds bytes.size n)

/-- Replaces what is at all indices from one on. -/
def fillFrom {n : ℕ} (v : Vector UInt8 n) (k : ℕ) (x : UInt8) : Checked (Vector UInt8 n) :=
  if k ≤ n then .ok (Vector.ofFn fun i => if k ≤ i then x else v[i])
  else .error (.outOfBounds k n)

/-- Puts a program into the ROM and fills the rest of it with zeros. -/
def loadChecked (m : Memory) (program : Array UInt8) :
    Checked (Except ProgramTooLarge Memory) := do
  if romSize < program.size then
    return .error ⟨program.size⟩
  else
    let copied ← copyInto m.rom program
    let filled ← fillFrom copied program.size 0
    return .ok { m with rom := filled }

@[simp] theorem loadChecked_eq (m : Memory) (program : Array UInt8) :
    m.loadChecked program = .ok (m.load program) := by
  unfold loadChecked load
  by_cases large : romSize < program.size
  · rw [if_pos large, if_pos large]
    rfl
  · have fits : program.size ≤ 0x8000 := Nat.le_of_not_lt large
    rw [if_neg large, if_neg large, copyInto, if_pos fits, ok_bind, fillFrom, if_pos fits, ok_bind]
    -- Behind the program, the bytes that were there before are the ones that zeros replace.
    refine congrArg (fun rom => Except.ok (Except.ok { m with rom := rom })) ?_
    apply Vector.ext
    intro i inside
    rw [Vector.getElem_ofFn, Vector.getElem_ofFn]
    by_cases behind : program.size ≤ i
    · rw [if_pos behind, Array.getD_eq_getD_getElem?, Array.getElem?_eq_none behind]
      rfl
    · have within : i < program.size := Nat.lt_of_not_le behind
      rw [if_neg behind]
      simp [Vector.getElem_ofFn, within]

end Memory

end GameBoy
