import GameBoy.Proofs.Memory.WordAccess
import GameBoy.Proofs.Serial.Transfer

/-!
# The order of two writes

A memory is what its cells hold and what it has sent (`Memory.ext_of_get`). A byte that is put into
a cell affects that cell, and in the serial control it can affect the requests of interrupts as
well. A cell that two writes do not both affect holds the same in either order
(`Memory.get_set_set`), and neighbouring addresses never affect one cell together
(`Cell.not_affects_succ`), so no address shows in which order two neighbours were written.

The serial output can show it. A transfer sends what the data register holds at the time, and the
data register is the neighbour of the control: `Memory.write_succ_comm_iff` says that the order
matters there, when a transfer starts and the data register gets another byte, and nowhere else.
-/

namespace GameBoy

/-! ## Cells -/

/-- A byte that is put into the cell `c` can change the byte in the cell `d`. -/
def Cell.Affects (c d : Cell) : Prop :=
  c ≠ .unusable ∧ c = d ∨
    c = .io HardwareRegister.sc.offset ∧ d = .io HardwareRegister.interruptFlag.offset

namespace Memory

variable {m m' : Memory} {c d e : Cell}

/-- Two memories are the same if their cells hold the same and they have sent the same. -/
lemma ext_of_get (cells : ∀ c, m.get c = m'.get c) (sent : m.serialOutput = m'.serialOutput) :
    m = m' := by
  have page : m.io = m'.io := by
    have contents : m.io.contents = m'.io.contents :=
      Vector.ext fun i hi => cells (.io ⟨i, hi⟩)
    exact congrArg₂ IoPage.mk contents sent
  have rom : m.rom = m'.rom := Vector.ext fun i hi => cells (.rom ⟨i, hi⟩)
  have videoRam : m.videoRam = m'.videoRam := Vector.ext fun i hi => cells (.videoRam ⟨i, hi⟩)
  have externalRam : m.externalRam = m'.externalRam :=
    Vector.ext fun i hi => cells (.externalRam ⟨i, hi⟩)
  have workRam : m.workRam = m'.workRam := Vector.ext fun i hi => cells (.workRam ⟨i, hi⟩)
  have objectMemory : m.objectMemory = m'.objectMemory :=
    Vector.ext fun i hi => cells (.objectMemory ⟨i, hi⟩)
  have highRam : m.highRam = m'.highRam := Vector.ext fun i hi => cells (.highRam ⟨i, hi⟩)
  have interruptEnable : m.interruptEnable = m'.interruptEnable := cells .interruptEnable
  cases m
  cases m'
  congr

/-- A cell that is not affected keeps its byte. -/
lemma get_set_of_not_affects (m : Memory) (v : UInt8) (other : ¬ c.Affects d) :
    (m.set c v).get d = m.get d := by
  obtain ⟨elsewhere, quiet⟩ := not_or.1 other
  rw [get_set]
  by_cases missing : c = .unusable
  · rw [if_pos missing]
  have ne : c ≠ d := fun same => elsewhere ⟨missing, same⟩
  rw [if_neg missing, if_neg ne]
  by_cases transfer : c = .io HardwareRegister.sc.offset ∧ IoPage.startsTransfer v
  · rw [if_pos transfer, if_neg fun control => ne (transfer.1.trans control.symm),
      if_neg fun requests => quiet ⟨transfer.1, requests⟩]
  · rw [if_neg transfer]

/-- What a cell holds after a write depends on what it held before, and on no other cell. -/
lemma get_set_congr (c : Cell) (v : UInt8) (same : m.get d = m'.get d) :
    (m.set c v).get d = (m'.set c v).get d := by
  rw [get_set, get_set, same]

/-- A cell that two writes do not both affect holds the same in either order. -/
lemma get_set_set (m : Memory) (u v : UInt8) (apart : ¬ (c.Affects e ∧ d.Affects e)) :
    ((m.set d v).set c u).get e = ((m.set c u).set d v).get e := by
  by_cases first : c.Affects e
  · have second : ¬ d.Affects e := fun second => apart ⟨first, second⟩
    rw [get_set_of_not_affects _ v second]
    exact get_set_congr c u (m.get_set_of_not_affects v second)
  · rw [get_set_of_not_affects _ u first]
    exact (get_set_congr d v (m.get_set_of_not_affects u first)).symm

/-- Two writes that affect no cell together can be told apart only by what they send. -/
lemma set_set_comm_iff (m : Memory) (u v : UInt8) (apart : ∀ e, ¬ (c.Affects e ∧ d.Affects e)) :
    (m.set d v).set c u = (m.set c u).set d v ↔
      ((m.set d v).set c u).serialOutput = ((m.set c u).set d v).serialOutput :=
  ⟨congrArg serialOutput, ext_of_get fun e => m.get_set_set u v (apart e)⟩

/-- What a write does to the page of hardware registers depends on the page only. -/
lemma io_set_congr (c : Cell) (v : UInt8) (same : m.io = m'.io) :
    (m.set c v).io = (m'.set c v).io := by
  cases c with
  | io i => exact congrArg (IoPage.set · i v) same
  | _ => exact same

end Memory

/-- Neighbouring addresses affect no cell together, the last address and the first included. -/
lemma Cell.not_affects_succ (a : UInt16) (e : Cell) :
    ¬ ((ofAddress a).Affects e ∧ (ofAddress (a + 1)).Affects e) := by
  rintro ⟨⟨present, rfl⟩ | ⟨control, rfl⟩, second⟩
  · rcases second with ⟨-, same⟩ | ⟨control, requests⟩
    · have usable : ¬ Unusable a := mt (ofAddress_eq_unusable_iff a).2 present
      exact canonical_succ_ne a ((ofAddress_eq_iff a (a + 1) usable).1 same.symm).symm
    · -- The address is that of the data register, which is no request.
      have here : a + 1 = 0xFF02 := (ofAddress_eq_io_iff (a + 1) _).1 control
      obtain rfl := (Memory.succ_eq_control a).1 here
      exact absurd requests (by decide)
  · obtain rfl : a = 0xFF02 := (ofAddress_eq_io_iff a _).1 control
    rcases second with ⟨-, same⟩ | ⟨control', -⟩
    · exact absurd same (by decide)
    · exact absurd control' (by decide)

/-! ## Neighbouring addresses -/

namespace Memory

variable (m : Memory) (a : UInt16) (u v : UInt8)

/-- The order in which neighbours are written shows at no address. -/
lemma read_write_succ_comm (b : UInt16) :
    ((m.write (a + 1) u).write a v).read b = ((m.write a v).write (a + 1) u).read b :=
  m.get_set_set v u (Cell.not_affects_succ a (Cell.ofAddress b))

/-- If the control is written before the data register, the old byte is transferred. -/
lemma serialOutput_control_data (starts : u &&& 0x81 = 0x81) :
    ((m.write 0xFF02 u).write 0xFF01 v).serialOutput =
      m.serialOutput.push (m.read 0xFF01) := by
  rw [serialOutput_write_eq, if_neg fun h => absurd h.1 (by decide), serialOutput_write_eq,
    if_pos ⟨rfl, starts⟩]

/-- If the control is written after the data register, the new byte is transferred. -/
lemma serialOutput_data_control (starts : u &&& 0x81 = 0x81) :
    ((m.write 0xFF01 v).write 0xFF02 u).serialOutput = m.serialOutput.push v := by
  rw [serialOutput_write_eq, if_pos ⟨rfl, starts⟩, m.read_write_self _ v (by decide) (by decide),
    serialOutput_write_eq, if_neg fun h => absurd h.1 (by decide)]

/-- Everywhere else the order in which neighbours are written does not show in the output. -/
lemma serialOutput_write_succ_comm (quiet : ¬ (a = 0xFF01 ∧ u &&& 0x81 = 0x81)) :
    ((m.write (a + 1) u).write a v).serialOutput =
      ((m.write a v).write (a + 1) u).serialOutput := by
  have silent : ¬ (a + 1 = 0xFF02 ∧ u &&& 0x81 = 0x81) := fun h =>
    quiet ⟨(succ_eq_control a).1 h.1, h.2⟩
  rw [serialOutput_write_eq _ a, serialOutput_write_eq _ (a + 1), serialOutput_write_eq _ (a + 1),
    serialOutput_write_eq m a, if_neg silent, if_neg silent]
  by_cases transfer : a = 0xFF02 ∧ v &&& 0x81 = 0x81
  · -- What lies behind the control is not the data register.
    have data : (m.write (a + 1) u).read 0xFF01 = m.read 0xFF01 := by
      rw [transfer.1]
      exact m.read_write_of_ne _ _ u (by decide) (by decide)
    rw [data]
  · rw [if_neg transfer, if_neg transfer]

/-- **The order of neighbouring writes.** Two bytes can be written to neighbouring addresses in
either order, unless they go to the registers of the serial line, the byte in the control starts a
transfer, and the byte in the data register is not the one that was there before. -/
theorem write_succ_comm_iff :
    (m.write (a + 1) u).write a v = (m.write a v).write (a + 1) u ↔
      ¬ (a = 0xFF01 ∧ u &&& 0x81 = 0x81 ∧ m.read 0xFF01 ≠ v) := by
  have output : (m.write (a + 1) u).write a v = (m.write a v).write (a + 1) u ↔
      ((m.write (a + 1) u).write a v).serialOutput =
        ((m.write a v).write (a + 1) u).serialOutput :=
    m.set_set_comm_iff v u (Cell.not_affects_succ a)
  rw [output]
  by_cases transfer : a = 0xFF01 ∧ u &&& 0x81 = 0x81
  · obtain ⟨rfl, starts⟩ := transfer
    have control : (0xFF01 : UInt16) + 1 = 0xFF02 := rfl
    rw [control, m.serialOutput_control_data u v starts, m.serialOutput_data_control u v starts]
    simp only [Array.push_inj_right, starts, true_and, not_not]
  · have same := m.serialOutput_write_succ_comm a u v transfer
    exact iff_of_true same fun h => transfer ⟨h.1, h.2.1⟩

end Memory

end GameBoy
