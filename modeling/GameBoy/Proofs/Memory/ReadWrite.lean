import GameBoy.Memory.Basic
import GameBoy.Proofs.Memory.Address

/-!
# Reading what was written

One law says what an address reads after a write to another, `read_write`: a write changes the cell
that its address names and nothing else, except that a write which starts a serial transfer stores
a byte without the transfer bit and adds the serial interrupt to the requests. The law is the
image of `Memory.get_set` for cells, and that of `IoPage.get_set` for the page of hardware
registers.
-/

namespace GameBoy

/-! ## Addresses that retain what is written -/

/-- The address is neither one of those at which nothing is stored nor one in the page of hardware
registers behind them: a write to it stores the byte and does nothing else. -/
def Retains (a : UInt16) : Prop := ¬(0xFEA0 ≤ a.toNat ∧ a.toNat ≤ 0xFF7F)

instance (a : UInt16) : Decidable (Retains a) := inferInstanceAs (Decidable (¬_))

namespace Retains

variable {a : UInt16} (h : Retains a)

include h

lemma not_unusable : ¬ Unusable a := by
  intro missing
  exact h ⟨missing.1, Nat.le_trans missing.2 (by decide)⟩

/-- No transfer is started by a write. -/
lemma ne_control : a ≠ 0xFF02 := by
  rintro rfl
  exact h (by decide)

/-- No interrupt is requested by a write. -/
lemma ne_requests : a ≠ 0xFF0F := by
  rintro rfl
  exact h (by decide)

/-- No hardware register is named. -/
lemma ofAddress_ne_io (i : IoOffset) : Cell.ofAddress a ≠ .io i := by
  intro here
  have named := Cell.isNamedBy_ofAddress a
  rw [here, Cell.IsNamedBy] at named
  exact h (by omega)

end Retains

/-! ## Cells -/

/-- Sending keeps the bytes of the page. -/
lemma IoPage.get_send (p : IoPage) (v : UInt8) (i : IoOffset) : (p.send v).get i = p.get i := rfl

/-- What a place of the page holds after a write to another: a write that starts a serial transfer
changes two places, and every other write changes one. -/
lemma IoPage.get_set (p : IoPage) (i j : IoOffset) (v : UInt8) :
    (p.set i v).get j =
      if i = HardwareRegister.sc.offset ∧ startsTransfer v then
        if j = HardwareRegister.sc.offset then v &&& 0x7F
        else if j = HardwareRegister.interruptFlag.offset then p.get j ||| 0x08
        else p.get j
      else if i = j then v
      else p.get j := by
  by_cases h : i = HardwareRegister.sc.offset ∧ startsTransfer v
  · have ne : HardwareRegister.sc.offset ≠ HardwareRegister.interruptFlag.offset := by decide
    rw [if_pos h, set, if_pos (by simp [h.1, h.2]), request, requests, get_store, get_store,
      get_store, if_neg ne, get_send, get_send]
    by_cases requests : j = HardwareRegister.interruptFlag.offset
    · rw [requests, if_pos rfl, if_neg ne.symm, if_pos rfl]
      rfl
    · rw [if_neg (Ne.symm requests), if_neg requests]
      simp only [eq_comm]
  · rw [if_neg h, set_eq_store p i v (by rwa [not_and_or, Bool.not_eq_true] at h), get_store]

namespace Memory

/-- Putting a byte into a cell outside of the page keeps the page. -/
lemma io_set (m : Memory) (c : Cell) (v : UInt8) (plain : ∀ i, c ≠ .io i) :
    (m.set c v).io = m.io := by
  cases c with
  | io i => exact absurd rfl (plain i)
  | _ => rfl

/-- What a cell holds after a write to another. -/
lemma get_set (m : Memory) (c d : Cell) (v : UInt8) :
    (m.set c v).get d =
      if c = .unusable then m.get d
      else if c = .io HardwareRegister.sc.offset ∧ IoPage.startsTransfer v then
        if d = .io HardwareRegister.sc.offset then v &&& 0x7F
        else if d = .io HardwareRegister.interruptFlag.offset then m.get d ||| 0x08
        else m.get d
      else if c = d then v
      else m.get d := by
  by_cases missing : c = .unusable
  · rw [if_pos missing, missing]
    rfl
  rw [if_neg missing]
  by_cases page : ∃ i, c = .io i
  · obtain ⟨i, rfl⟩ := page
    cases d with
    | io j => simpa [get, set] using IoPage.get_set m.io i j v
    | _ => simp [get, set]
  · have plain : ∀ i, c ≠ .io i := not_exists.1 page
    rw [if_neg fun h => plain _ h.1]
    by_cases same : c = d
    · rw [if_pos same, ← same, get_set_same m c v plain missing]
    rw [if_neg same]
    cases d with
    | io j => exact congrArg (IoPage.get · j) (io_set m c v plain)
    | _ => exact get_set_of_ne m c _ v same (by simp)

/-- Of two bytes put into a cell, the second stays. -/
lemma set_set (m : Memory) {c : Cell} (v w : UInt8) (plain : ∀ i, c ≠ .io i) :
    (m.set c v).set c w = m.set c w := by
  cases c with
  | io i => exact absurd rfl (plain i)
  | unusable | interruptEnable => rfl
  | _ => simp only [set, Vector.set_set]

/-- Putting the byte of a cell into it changes nothing. -/
lemma set_get (m : Memory) {c : Cell} (plain : ∀ i, c ≠ .io i) : m.set c (m.get c) = m := by
  cases c with
  | io i => exact absurd rfl (plain i)
  | unusable | interruptEnable => rfl
  | _ => simp [set, get]

/-! ## Addresses -/

/-- Where nothing is stored, the open bus is read. -/
lemma read_unusable (m : Memory) (a : UInt16) (h : Unusable a) : m.read a = openBus := by
  rw [read, (Cell.ofAddress_eq_unusable_iff a).2 h]
  rfl

/-- An address of the echo region reads like the one in the work RAM. -/
lemma read_canonical (m : Memory) (a : UInt16) : m.read (canonical a) = m.read a := by
  rw [read, Cell.ofAddress_canonical, read]

/-- The byte of a place in the page is the one at its address. -/
lemma read_ioAddress (m : Memory) (i : IoOffset) : m.read i.address = m.io.get i := by
  rw [read, (Cell.ofAddress_eq_io_iff i.address i).2 rfl]
  rfl

/-- The byte that enables interrupts is the one at the last address. -/
lemma read_last (m : Memory) : m.read 0xFFFF = m.interruptEnable := by
  have e : Cell.ofAddress 0xFFFF = .interruptEnable := by decide
  rw [read, e]
  rfl

/-- Writing a place of the page is writing its address. -/
lemma write_ioAddress (m : Memory) (i : IoOffset) (v : UInt8) :
    m.write i.address v = { m with io := m.io.set i v } := by
  rw [write, (Cell.ofAddress_eq_io_iff i.address i).2 rfl]
  rfl

/-- Storing in the byte of requests is writing its address, for the write starts no transfer. -/
lemma write_requests (m : Memory) (v : UInt8) :
    m.write 0xFF0F v =
      { m with io := m.io.store HardwareRegister.interruptFlag.offset v } := by
  have e : (0xFF0F : UInt16) = HardwareRegister.interruptFlag.offset.address := by decide
  rw [e, write_ioAddress, IoPage.set_eq_store _ _ _ (.inl (by decide))]

/-- The requests of interrupts are the byte at their address. -/
lemma read_requests (m : Memory) : m.read 0xFF0F = m.io.requests :=
  m.read_ioAddress HardwareRegister.interruptFlag.offset

/-- An interrupt is requested by writing its bit. -/
lemma request_eq_write (m : Memory) (i : Interrupt) :
    m.request i = m.write 0xFF0F (m.read 0xFF0F ||| i.bit) := by
  rw [write_requests, read_requests, request, IoPage.request]

/-- The request of an interrupt is withdrawn by writing over its bit. -/
lemma withdraw_eq_write (m : Memory) (i : Interrupt) :
    m.withdraw i = m.write 0xFF0F (m.read 0xFF0F &&& ~~~i.bit) := by
  rw [write_requests, read_requests, withdraw, IoPage.withdraw]

/-- **Read over write.** A write changes the byte that its address stands for. A write that starts
a serial transfer clears the transfer bit and requests the serial interrupt, and a write where
nothing is stored changes nothing. -/
theorem read_write (m : Memory) (a b : UInt16) (v : UInt8) :
    (m.write a v).read b =
      if Unusable a then m.read b
      else if a = 0xFF02 ∧ v &&& 0x81 = 0x81 then
        if b = 0xFF02 then v &&& 0x7F
        else if b = 0xFF0F then m.read b ||| 0x08
        else m.read b
      else if canonical a = canonical b then v
      else m.read b := by
  have sc : HardwareRegister.sc.offset.address = 0xFF02 := by decide
  have requests : HardwareRegister.interruptFlag.offset.address = 0xFF0F := by decide
  rw [read, write, get_set, ← read]
  simp only [Cell.ofAddress_eq_unusable_iff, Cell.ofAddress_eq_io_iff, sc, requests,
    IoPage.startsTransfer, beq_iff_eq]
  by_cases ha : Unusable a
  · rw [if_pos ha, if_pos ha]
  · simp only [Cell.ofAddress_eq_iff a b ha]

/-- The law for an address of the last page, where every address stands for itself. -/
lemma read_write_of_le (m : Memory) (a : UInt16) {b : UInt16} (v : UInt8)
    (hb : 0xFF00 ≤ b.toNat) :
    (m.write a v).read b =
      if a = 0xFF02 ∧ v &&& 0x81 = 0x81 then
        if b = 0xFF02 then v &&& 0x7F
        else if b = 0xFF0F then m.read b ||| 0x08
        else m.read b
      else if a = b then v
      else m.read b := by
  have here : canonical a = canonical b ↔ a = b := by
    rw [eq_comm, canonical_eq_iff_of_le b a (Nat.le_trans (by decide) hb)]
  rw [read_write]
  simp only [here]
  by_cases missing : Unusable a
  · have other {x : UInt16} (hx : 0xFF00 ≤ x.toNat) : a ≠ x := by
      rintro rfl
      exact absurd (Nat.le_trans hx missing.2) (by decide)
    rw [if_pos missing, if_neg fun h => other (by decide) h.1, if_neg (other hb)]
  · rw [if_neg missing]

/-- A byte whose highest bit was cleared asks for no transfer. -/
lemma and_ne_of_cleared (v : UInt8) : (v &&& 0x7F) &&& 0x81 ≠ 0x81 := by
  intro asks
  have lower : v &&& 0x01 = 0x81 := by
    rw [← asks, UInt8.and_assoc]
    rfl
  have upper : (v &&& 0x01) &&& 0x80 = 0x80 := congrArg (· &&& 0x80) lower
  rw [UInt8.and_assoc] at upper
  exact absurd (UInt8.and_zero.symm.trans upper) (by decide)

/-- A byte that was written is read back, where bytes are stored and no transfer starts. -/
lemma read_write_self (m : Memory) (a : UInt16) (v : UInt8) (stored : ¬ Unusable a)
    (plain : a ≠ 0xFF02) : (m.write a v).read a = v := by
  rw [read_write, if_neg stored, if_neg fun h => plain h.1, if_pos rfl]

/-- A write that starts no transfer changes no other byte. -/
lemma read_write_of_ne (m : Memory) (a b : UInt16) (v : UInt8) (plain : a ≠ 0xFF02)
    (other : canonical a ≠ canonical b) : (m.write a v).read b = m.read b := by
  have noTransfer : ¬(a = 0xFF02 ∧ v &&& 0x81 = 0x81) := fun h => plain h.1
  rw [read_write, if_neg noTransfer, if_neg other, ite_self]

/-- An address that retains what is written reads it back. -/
lemma read_write_of_retains (m : Memory) {a : UInt16} (v : UInt8) (h : Retains a) :
    (m.write a v).read a = v :=
  m.read_write_self a v h.not_unusable h.ne_control

/-- Of two bytes written to an address that retains what is written, the second stays. -/
lemma write_write (m : Memory) {a : UInt16} (v w : UInt8) (h : Retains a) :
    (m.write a v).write a w = m.write a w :=
  m.set_set v w h.ofAddress_ne_io

/-- Writing what is read there changes nothing. -/
lemma write_read (m : Memory) {a : UInt16} (h : Retains a) : m.write a (m.read a) = m :=
  m.set_get h.ofAddress_ne_io

/-- What an address reads after a program was loaded: the program, zeros behind it, and outside of
the ROM what was there before. -/
lemma read_load {m m' : Memory} {program : Array UInt8} (h : m.load program = .ok m')
    (a : UInt16) :
    m'.read a = if a.toNat < romSize then program.getD a.toNat 0 else m.read a := by
  unfold load at h
  split_ifs at h
  obtain rfl := Except.ok.inj h
  have named := Cell.isNamedBy_ofAddress a
  unfold read romSize
  cases e : Cell.ofAddress a with
  | rom i =>
    rw [e] at named
    have lt : a.toNat < 0x8000 := by
      rw [show a.toNat = i from named]
      exact i.isLt
    rw [if_pos lt, show a.toNat = i from named]
    simp [get]
  | _ =>
    rw [e] at named
    simp only [Cell.IsNamedBy, Unusable] at named
    rw [if_neg (by omega)]
    simp only [get]

/-- Collecting the serial output changes no byte. -/
lemma read_clearSerial (m : Memory) (a : UInt16) : m.clearSerial.read a = m.read a := by
  unfold read
  cases Cell.ofAddress a <;> rfl

end Memory

end GameBoy
