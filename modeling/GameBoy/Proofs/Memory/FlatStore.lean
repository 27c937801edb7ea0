import GameBoy.Proofs.Memory.Operation
import GameBoy.Proofs.Memory.ReadWrite

/-!
# Memory as a flat store

A `FlatStore` is the simplest memory that could stand behind the address bus: one byte for each
canonical address. It knows no regions and no arrays. Its operations are those of the memory, and
two rules of the hardware are left: nothing is stored from `0xFEA0` to `0xFEFF`, and a write to
`0xFF02` that asks for a serial transfer stores the byte without the transfer bit and adds the
serial interrupt to the byte at `0xFF0F`.

The main statement is that a memory and the flat store that starts with the same bytes cannot be
told apart by reading, whatever operations are performed on both.
-/

namespace GameBoy

/-- A byte for each canonical address. The bytes kept under other addresses are never read. -/
structure FlatStore where
  /-- The byte under an address. -/
  cells : UInt16 → UInt8

namespace FlatStore

/-- The byte at an address. -/
def read (s : FlatStore) (a : UInt16) : UInt8 := if Unusable a then 0xFF else s.cells (canonical a)

/-- Keeps a byte under the canonical address. -/
def put (s : FlatStore) (a : UInt16) (v : UInt8) : FlatStore :=
  ⟨fun b => if b = canonical a then v else s.cells b⟩

/-- Writes a byte to an address. -/
def write (s : FlatStore) (a : UInt16) (v : UInt8) : FlatStore :=
  if Unusable a then s
  else if a = 0xFF02 ∧ v &&& 0x81 = 0x81 then
    (s.put 0xFF02 (v &&& 0x7F)).put 0xFF0F (s.read 0xFF0F ||| 0x08)
  else s.put a v

/-- Puts a program below `0x8000` and fills the rest with zeros, unless the program is larger. -/
def load (s : FlatStore) (program : Array UInt8) : FlatStore :=
  if 0x8000 < program.size then s
  else ⟨fun a => if a.toNat < 0x8000 then program.getD a.toNat 0 else s.cells a⟩

/-- The store after an operation. -/
def perform (s : FlatStore) : Memory.Operation → FlatStore
  | .write a v => s.write a v
  | .writeWord a w => (s.write a (Word.low w)).write (a + 1) (Word.high w)
  | .increment a => s.write a (s.read a + 1)
  | .decrement a => s.write a (s.read a - 1)
  | .load program => s.load program
  | .writeIo i v => s.write i.address v
  | .request i => s.write 0xFF0F (s.read 0xFF0F ||| i.bit)
  | .withdraw i => s.write 0xFF0F (s.read 0xFF0F &&& ~~~i.bit)
  | .clearSerial => s

/-- The store after a sequence of operations. -/
def performAll (s : FlatStore) (ops : List Memory.Operation) : FlatStore := ops.foldl perform s

/-- The store with the bytes of a memory. -/
def ofMemory (m : Memory) : FlatStore := ⟨m.read⟩

/-! ## The law of the flat store -/

/-- What an address reads after a byte was kept under another. -/
lemma read_put (s : FlatStore) (a b : UInt16) (v : UInt8) (ha : ¬ Unusable a) :
    (s.put a v).read b = if canonical a = canonical b then v else s.read b := by
  by_cases same : canonical a = canonical b
  · have hb : ¬ Unusable b := by rwa [← unusable_canonical b, ← same, unusable_canonical a]
    rw [if_pos same, read, if_neg hb]
    exact if_pos same.symm
  · have kept : (s.put a v).cells (canonical b) = s.cells (canonical b) := if_neg (Ne.symm same)
    rw [if_neg same, read, kept, read]

/-- What an address reads after a write to another. -/
lemma read_write (s : FlatStore) (a b : UInt16) (v : UInt8) :
    (s.write a v).read b =
      if Unusable a then s.read b
      else if a = 0xFF02 ∧ v &&& 0x81 = 0x81 then
        if b = 0xFF02 then v &&& 0x7F
        else if b = 0xFF0F then s.read b ||| 0x08
        else s.read b
      else if canonical a = canonical b then v
      else s.read b := by
  unfold write
  by_cases ha : Unusable a
  · rw [if_pos ha, if_pos ha]
  rw [if_neg ha, if_neg ha]
  by_cases transfer : a = 0xFF02 ∧ v &&& 0x81 = 0x81
  · have sc := canonical_eq_iff_of_le 0xFF02 b (by decide)
    have requests := canonical_eq_iff_of_le 0xFF0F b (by decide)
    rw [if_pos transfer, if_pos transfer, read_put _ _ _ _ (by decide),
      read_put _ _ _ _ (by decide)]
    simp only [sc, requests]
    by_cases hb : b = 0xFF0F
    · rw [if_pos hb, if_neg (by rw [hb]; decide), if_pos hb, hb]
    · rw [if_neg hb, if_neg hb]
  · rw [if_neg transfer, if_neg transfer, read_put _ _ _ _ ha]

/-! ## Simulation -/

/-- The store and the memory read the same everywhere. -/
def Represents (s : FlatStore) (m : Memory) : Prop := ∀ a, m.read a = s.read a

variable {s : FlatStore} {m : Memory}

/-- A memory is represented by the store with its bytes. -/
lemma represents_ofMemory (m : Memory) : (ofMemory m).Represents m := by
  intro a
  unfold read ofMemory
  split_ifs with h
  · exact m.read_unusable a h
  · exact (m.read_canonical a).symm

/-- Writing a byte keeps the two alike: both obey the same law. -/
lemma Represents.write (h : s.Represents m) (a : UInt16) (v : UInt8) :
    (s.write a v).Represents (m.write a v) := by
  intro b
  rw [Memory.read_write, read_write, h b]

/-- Loading a program keeps the two alike. -/
lemma Represents.load (h : s.Represents m) (program : Array UInt8) :
    (s.load program).Represents (m.loadOrKeep program) := by
  intro a
  unfold Memory.loadOrKeep FlatStore.load
  cases loaded : m.load program with
  | error e =>
    have large : 0x8000 < program.size := by
      unfold Memory.load at loaded
      split_ifs at loaded with large
      exact large
    rw [if_pos large]
    exact h a
  | ok m' =>
    have small : ¬ 0x8000 < program.size := by
      unfold Memory.load at loaded
      split_ifs at loaded with large
      exact large
    rw [if_neg small]
    show m'.read a = _
    rw [Memory.read_load loaded, h a]
    unfold read Memory.romSize
    by_cases rom : a.toNat < 0x8000
    · have usable : ¬ Unusable a := by
        unfold Unusable
        omega
      rw [if_pos rom, if_neg usable, canonical_of_lt a (by omega)]
      exact (if_pos rom).symm
    · have above : ¬ (canonical a).toNat < 0x8000 := by
        rw [toNat_canonical]
        split_ifs <;> omega
      rw [if_neg rom]
      simp only [if_neg above]

/-- Every operation keeps the two alike. -/
lemma Represents.perform (h : s.Represents m) (op : Memory.Operation) :
    (s.perform op).Represents (m.perform op) := by
  cases op with
  | write a v => exact h.write a v
  | writeWord a w => exact (h.write a _).write (a + 1) _
  | increment a =>
    rw [Memory.perform, Memory.increment, h a]
    exact h.write a _
  | decrement a =>
    rw [Memory.perform, Memory.decrement, h a]
    exact h.write a _
  | load program => exact h.load program
  | writeIo i v =>
    rw [Memory.perform, ← Memory.write_ioAddress]
    exact h.write i.address v
  | request i =>
    rw [Memory.perform, Memory.request_eq_write, h 0xFF0F]
    exact h.write 0xFF0F _
  | withdraw i =>
    rw [Memory.perform, Memory.withdraw_eq_write, h 0xFF0F]
    exact h.write 0xFF0F _
  | clearSerial =>
    intro a
    rw [Memory.perform, Memory.read_clearSerial]
    exact h a

/-- Every sequence of operations keeps the two alike. -/
lemma Represents.performAll (h : s.Represents m) (ops : List Memory.Operation) :
    (s.performAll ops).Represents (m.performAll ops) := by
  induction ops generalizing s m with
  | nil => exact h
  | cons op ops ih => exact ih (h.perform op)

end FlatStore

/-- **Memory is a flat store of canonical cells.** A write changes what its law says, and nothing
is stored from `0xFEA0` to `0xFEFF`. After any sequence of operations every address reads as in the
flat store that began with the same bytes, and so do the hardware registers and the byte that
enables interrupts, which can also be read without the address bus. -/
theorem memory_isFlatStore (m : Memory) :
    (∀ (a b : UInt16) (v : UInt8),
      (m.write a v).read b =
        if 0xFEA0 ≤ a ∧ a ≤ 0xFEFF then m.read b
        else if a = 0xFF02 ∧ v &&& 0x81 = 0x81 then
          if b = 0xFF02 then v &&& 0x7F
          else if b = 0xFF0F then m.read b ||| 0x08
          else m.read b
        else if canonical a = canonical b then v
        else m.read b) ∧
    (∀ b : UInt16, 0xFEA0 ≤ b ∧ b ≤ 0xFEFF → m.read b = 0xFF) ∧
    ∀ ops : List Memory.Operation,
      (∀ b, (m.performAll ops).read b = ((FlatStore.ofMemory m).performAll ops).read b) ∧
      (∀ r : HardwareRegister,
        (m.performAll ops).io.read r = ((FlatStore.ofMemory m).performAll ops).read r.address) ∧
      (m.performAll ops).interruptEnable =
        ((FlatStore.ofMemory m).performAll ops).read 0xFFFF := by
  refine ⟨fun a b v => m.read_write a b v, fun b hb => m.read_unusable b hb, fun ops => ?_⟩
  have same := (FlatStore.represents_ofMemory m).performAll ops
  refine ⟨same, fun r => ?_, ?_⟩
  · rw [← same r.address]
    exact ((m.performAll ops).read_ioAddress r.offset).symm
  · rw [← same 0xFFFF, Memory.read_last]

/-- The last address at which nothing is stored reads `0xFF` at power-on. -/
theorem memory_isFlatStore_powerOn :
    (0xFEA0 ≤ (0xFEFF : UInt16) ∧ (0xFEFF : UInt16) ≤ 0xFEFF) ∧
      Memory.powerOn.read 0xFEFF = 0xFF := by
  have h : 0xFEA0 ≤ (0xFEFF : UInt16) ∧ (0xFEFF : UInt16) ≤ 0xFEFF := by decide
  exact ⟨h, (memory_isFlatStore Memory.powerOn).2.1 0xFEFF h⟩

end GameBoy
