import GameBoy.Proofs.Memory.OperationWrites

/-!
# Loading a program

A program is loaded completely or not at all. One that fits replaces the whole ROM: it begins at the
first address, and zeros follow up to the end of the ROM, so that nothing is left of what the ROM
held before. One that does not fit is refused and changes nothing.

The reason that nothing is left is that the ROM is the only part of the memory that a load changes
and the only one that it does not depend on. So a load makes the same of two memories that agree
outside of the ROM (`Memory.AgreeOutsideRom.load_eq`), and such are the memories before and after
any writes to the ROM and loads of other programs (`Memory.agreeOutsideRom_performAll`).
-/

namespace GameBoy

namespace Memory

/-! ## Memories that differ in the ROM only -/

/-- The second memory differs from the first in the ROM only. -/
def AgreeOutsideRom (m m' : Memory) : Prop := ∃ rom, m' = { m with rom := rom }

namespace AgreeOutsideRom

variable {m m' m'' : Memory}

lemma refl (m : Memory) : AgreeOutsideRom m m := ⟨m.rom, rfl⟩

lemma trans (h : AgreeOutsideRom m m') (h' : AgreeOutsideRom m' m'') : AgreeOutsideRom m m'' := by
  obtain ⟨rom, rfl⟩ := h
  obtain ⟨rom', rfl⟩ := h'
  exact ⟨rom', rfl⟩

/-- What the ROM holds does not matter to a load. -/
lemma load_eq (h : AgreeOutsideRom m m') (program : Array UInt8) :
    m'.load program = m.load program := by
  obtain ⟨rom, rfl⟩ := h
  rfl

end AgreeOutsideRom

/-- The operation changes nothing but the ROM: it writes there, or it loads a program. -/
def Operation.OnRom : Operation → Prop
  | write a _ | increment a | decrement a => a.toNat < 0x8000
  | writeWord a _ => a.toNat + 1 < 0x8000
  | load _ => True
  | writeIo .. | request _ | withdraw _ | clearSerial => False

/-! ## Loading -/

variable (m : Memory) (program : Array UInt8)

/-- A program is refused exactly if it is too large. -/
lemma load_eq_error_iff (e : ProgramTooLarge) :
    m.load program = .error e ↔ romSize < program.size ∧ e = ⟨program.size⟩ := by
  unfold load
  split_ifs with large
  · rw [Except.error.injEq, eq_comm]
    exact (and_iff_right large).symm
  · exact ⟨nofun, fun h => absurd h.1 large⟩

/-- A program that fits changes the ROM only. -/
lemma exists_load_eq_ok (fits : program.size ≤ romSize) :
    ∃ m', m.load program = .ok m' ∧ AgreeOutsideRom m m' :=
  ⟨_, if_neg (Nat.not_lt.2 fits), _, rfl⟩

/-- A program that is refused leaves the memory alone. -/
lemma loadOrKeep_of_large (large : romSize < program.size) : m.loadOrKeep program = m := by
  rw [loadOrKeep, (m.load_eq_error_iff program _).2 ⟨large, rfl⟩]

/-- Loading changes the ROM only, whether the program fits or not. -/
lemma agreeOutsideRom_loadOrKeep : AgreeOutsideRom m (m.loadOrKeep program) := by
  by_cases large : romSize < program.size
  · rw [m.loadOrKeep_of_large program large]
    exact .refl m
  · obtain ⟨m', loaded, agree⟩ := m.exists_load_eq_ok program (Nat.le_of_not_lt large)
    rw [loadOrKeep, loaded]
    exact agree

/-! ## Operations on the ROM -/

/-- A write to the ROM changes the ROM only. -/
lemma agreeOutsideRom_write {a : UInt16} (v : UInt8) (rom : a.toNat < 0x8000) :
    AgreeOutsideRom m (m.write a v) := by
  have cell : Cell.ofAddress a = .rom ⟨a.toNat, rom⟩ := dif_pos rom
  rw [write, cell]
  exact ⟨_, rfl⟩

lemma agreeOutsideRom_perform {op : Operation} (rom : op.OnRom) :
    AgreeOutsideRom m (m.perform op) := by
  cases op with
  | write a v => exact m.agreeOutsideRom_write v rom
  | increment a | decrement a => exact m.agreeOutsideRom_write _ rom
  | writeWord a w =>
    have lower : a.toNat < 0x8000 := Nat.lt_of_succ_lt rom
    have upper : (a + 1).toNat < 0x8000 := by
      rw [UInt16.toNat_add]
      exact Nat.lt_of_le_of_lt (Nat.mod_le _ _) rom
    exact (m.agreeOutsideRom_write _ lower).trans (agreeOutsideRom_write _ _ upper)
  | load program => exact m.agreeOutsideRom_loadOrKeep program
  | writeIo | request | withdraw | clearSerial => exact rom.elim

/-- A sequence of operations on the ROM changes the ROM only. -/
lemma agreeOutsideRom_performAll {ops : List Operation} (rom : ∀ op ∈ ops, op.OnRom) :
    AgreeOutsideRom m (m.performAll ops) := by
  induction ops generalizing m with
  | nil => exact .refl m
  | cons op ops ih =>
    obtain ⟨first, others⟩ := List.forall_mem_cons.1 rom
    exact (m.agreeOutsideRom_perform first).trans (ih (m.perform op) others)

end Memory

/-- The error tells the size of the program and that of the ROM. -/
lemma ProgramTooLarge.message_eq (e : ProgramTooLarge) :
    e.message = s!"program is {e.size} bytes, larger than the ROM capacity of 32768 bytes" := by
  have capacity : toString Memory.romSize = "32768" := by decide
  simp only [message, capacity, String.append_assoc]
  rfl

/-- **Loading a program.** A program of more than 32768 bytes is refused, by an error that tells
both sizes, and nothing changes. Every other program is loaded: the ROM reads the program and zeros
behind it, and all other addresses, the hardware registers, the byte that enables interrupts and the
serial output are what they were. What the ROM held before does not matter, and so writes to the ROM
and loads of other programs leave no trace. -/
theorem load_replacesRom (m : Memory) (program : Array UInt8) :
    (∀ e, m.load program = .error e ↔ 32768 < program.size ∧ e = ⟨program.size⟩) ∧
    (∀ e, m.load program = .error e → m.loadOrKeep program = m ∧
      e.message =
        s!"program is {program.size} bytes, larger than the ROM capacity of 32768 bytes") ∧
    (program.size ≤ 32768 → ∃ m', m.load program = .ok m' ∧
      (∀ a : UInt16, a.toNat < 0x8000 →
        m'.read a = if h : a.toNat < program.size then program[a.toNat] else 0) ∧
      (∀ a : UInt16, 0x8000 ≤ a.toNat → m'.read a = m.read a) ∧
      m'.io = m.io ∧ m'.interruptEnable = m.interruptEnable ∧
      m'.serialOutput = m.serialOutput) ∧
    (∀ rom, { m with rom := rom }.load program = m.load program) ∧
    ∀ ops : List Memory.Operation, (∀ op ∈ ops, op.OnRom) →
      (m.performAll ops).load program = m.load program := by
  refine ⟨m.load_eq_error_iff program, ?_, ?_, fun rom => ?_, fun ops rom => ?_⟩
  · intro e refused
    obtain ⟨large, rfl⟩ := (m.load_eq_error_iff program e).1 refused
    exact ⟨m.loadOrKeep_of_large program large, ProgramTooLarge.message_eq _⟩
  · intro fits
    obtain ⟨m', loaded, agree⟩ := m.exists_load_eq_ok program fits
    have read := Memory.read_load loaded
    obtain ⟨rom, rfl⟩ := agree
    refine ⟨_, loaded, ?_, ?_, rfl, rfl, rfl⟩
    · intro a inside
      rw [read, Memory.romSize, if_pos inside]
      rfl
    · intro a above
      rw [read, Memory.romSize, if_neg (Nat.not_lt.2 above)]
  · exact Memory.AgreeOutsideRom.load_eq ⟨rom, rfl⟩ program
  · exact (m.agreeOutsideRom_performAll rom).load_eq program

/-- Four bytes at the beginning of the ROM, and one at its end. -/
def earlierProgram : List Memory.Operation :=
  [.load #[0x01, 0x02, 0x03, 0x04], .write 0x7FFF 0xAA]

/-- A shorter program in place of an earlier one, and a program with one byte too many. -/
theorem load_replacesRom_shorter :
    let m := Memory.powerOn.performAll earlierProgram
    let program : Array UInt8 := #[0xC3, 0x50, 0x01]
    let large := Array.replicate 32769 (0x00 : UInt8)
    (program.size ≤ 32768 ∧ 32768 < large.size ∧ ∀ op ∈ earlierProgram, op.OnRom) ∧
      (m.load large = .error ⟨large.size⟩ ∧ m.loadOrKeep large = m) ∧
      (∃ m', m.load program = .ok m' ∧
        m'.read 0x0002 = 0x01 ∧ m'.read 0x0003 = 0x00 ∧ m'.read 0x7FFF = 0x00 ∧
        m'.read 0x8000 = m.read 0x8000) ∧
      m.load program = Memory.powerOn.load program := by
  intro m program large
  have fits : program.size ≤ 32768 := by decide
  have exceeds : 32768 < large.size := by
    rw [Array.size_replicate]
    decide
  have rom : ∀ op ∈ earlierProgram, op.OnRom := by
    intro op member
    rcases List.mem_pair.1 member with rfl | rfl
    · trivial
    · exact (by decide : (0x7FFF : UInt16).toNat < 0x8000)
  obtain ⟨refused, kept, -⟩ := load_replacesRom m large
  obtain ⟨-, -, loads, -⟩ := load_replacesRom m program
  obtain ⟨-, -, -, -, forgets⟩ := load_replacesRom Memory.powerOn program
  have error := (refused ⟨large.size⟩).2 ⟨exceeds, rfl⟩
  obtain ⟨m', loaded, inside, above, -⟩ := loads fits
  exact ⟨⟨fits, exceeds, rom⟩, ⟨error, (kept _ error).1⟩,
    ⟨m', loaded, inside 0x0002 (by decide), inside 0x0003 (by decide), inside 0x7FFF (by decide),
      above 0x8000 (by decide)⟩,
    forgets earlierProgram rom⟩

end GameBoy
