import GameBoy.Proofs.Machine.UnseenChange
import GameBoy.Proofs.Memory.WriteOrder

/-!
# A step depends on what it touches

Every byte of plain storage that a step does not touch could as well hold another value. The step
would do the same, and it would leave that value where it is (`Console.step_withByte`), and so would
a run (`Console.steps_withByte`).

The reason is that a write to a plain byte commutes with the reads and the writes of other cells, so
that it is a change which they do not see (`Memory.unseenAt_write`). What a step reads of the memory
besides, the requests of interrupts and the byte that enables them, is not plain storage.
-/

namespace GameBoy

/-! ## Plain storage -/

/-- The address is one of plain storage: something is stored there, and it is neither a place in the
page of hardware registers nor the byte that enables interrupts. -/
def Plain (a : UInt16) : Prop := ¬(0xFEA0 ≤ a.toNat ∧ a.toNat ≤ 0xFF7F) ∧ a ≠ 0xFFFF

instance (a : UInt16) : Decidable (Plain a) := inferInstanceAs (Decidable (_ ∧ _))

namespace Plain

variable {a : UInt16} (plain : Plain a)

include plain

lemma not_unusable : ¬ Unusable a := Retains.not_unusable plain.1

/-- No hardware register is named. -/
lemma ofAddress_ne_io (i : IoOffset) : Cell.ofAddress a ≠ .io i :=
  Retains.ofAddress_ne_io plain.1 i

/-- The byte that enables interrupts is not named. -/
lemma ofAddress_ne_interruptEnable : Cell.ofAddress a ≠ .interruptEnable := by
  intro here
  have named := Cell.isNamedBy_ofAddress a
  rw [here, Cell.IsNamedBy] at named
  exact plain.2 (UInt16.toNat_inj.1 named)

/-- No transfer is started by a write. -/
lemma ne_control : a ≠ 0xFF02 := Retains.ne_control plain.1

end Plain

namespace Memory

variable (m : Memory) {a : UInt16} (v : UInt8) (plain : Plain a)

/-- Bytes of different cells can be put there in either order, unless both are hardware
registers. -/
lemma set_comm {c d : Cell} (w : UInt8) (other : c ≠ d) (outside : ∀ i, c ≠ .io i) :
    (m.set c v).set d w = (m.set d w).set c v := by
  have apart (e : Cell) : ¬ (d.Affects e ∧ c.Affects e) := by
    rintro ⟨first, ⟨-, rfl⟩ | ⟨control, -⟩⟩
    · rcases first with ⟨-, same⟩ | ⟨-, requests⟩
      · exact other same.symm
      · exact outside _ requests
    · exact outside _ control
  have page : ((m.set c v).set d w).io = ((m.set d w).set c v).io := by
    rw [io_set_congr d w (m.io_set c v outside), io_set _ c v outside]
  exact (m.set_set_comm_iff w v apart).2 (congrArg IoPage.serialOutput page)

include plain

/-- A write to a plain byte commutes with every write to another cell. -/
lemma write_comm {b : UInt16} (w : UInt8) (other : canonical a ≠ canonical b) :
    (m.write a v).write b w = (m.write b w).write a v :=
  m.set_comm v w (mt (Cell.ofAddress_eq_iff a b plain.not_unusable).1 other) plain.ofAddress_ne_io

/-- A write to a plain byte keeps the page of hardware registers. -/
lemma io_write : (m.write a v).io = m.io := m.io_set _ v plain.ofAddress_ne_io

/-- A write to a plain byte keeps the byte that enables interrupts. -/
lemma interruptEnable_write : (m.write a v).interruptEnable = m.interruptEnable := by
  have outside := plain.ofAddress_ne_interruptEnable
  unfold write
  cases cell : Cell.ofAddress a with
  | interruptEnable => exact absurd cell outside
  | _ => rfl

/-- A write to a plain byte commutes with the withdrawal of a request. -/
lemma withdraw_write (i : Interrupt) :
    (m.write a v).withdraw i = (m.withdraw i).write a v := by
  have outside := plain.ofAddress_ne_io
  unfold write
  cases cell : Cell.ofAddress a with
  | io j => exact absurd cell (outside j)
  | _ => rfl

/-- After a write to a plain byte, its cell holds what was written, and the others are as before. -/
lemma read_write_of_plain (b : UInt16) :
    (m.write a v).read b = if canonical a = canonical b then v else m.read b := by
  rw [read_write, if_neg plain.not_unusable, if_neg fun h => plain.ne_control h.1]

/-- A write to a plain byte is not seen at the addresses of other cells. -/
lemma unseenAt_write : UnseenAt (fun b => canonical a ≠ canonical b) (·.write a v) where
  read m _ other := m.read_write_of_ne a _ v plain.ne_control other
  write m _ w other := m.write_comm v plain w other
  requests m := congrArg IoPage.requests (m.io_write v plain)
  interruptEnable m := m.interruptEnable_write v plain
  withdraw m i := m.withdraw_write v plain i

end Memory

/-! ## The console -/

namespace Console

/-- The console with another byte at an address. -/
def withByte (c : Console) (a : UInt16) (v : UInt8) : Console :=
  { c with machine := c.machine.write a v }

variable (c : Console) {a : UInt16} (v : UInt8) (plain : Plain a)

include plain

/-- The other byte is read at all addresses of its cell, and everything else is as before. -/
lemma read_withByte (b : UInt16) :
    (c.withByte a v).machine.memory.read b =
      if canonical a = canonical b then v else c.machine.memory.read b :=
  c.machine.memory.read_write_of_plain v plain b

/-- A step does the same with another byte where it touches nothing, and leaves it there. -/
theorem step_withByte (untouched : ∀ b ∈ c.touched, canonical a ≠ canonical b) :
    (c.withByte a v).step = (c.step.1, c.step.2.withByte a v) :=
  c.step_changeMemory (Memory.unseenAt_write v plain) untouched

/-- A run does the same with another byte where none of its steps touches anything, and leaves it
there. -/
theorem steps_withByte (n : ℕ)
    (untouched : ∀ k < n, ∀ b ∈ (c.steps k).touched, canonical a ≠ canonical b) :
    (c.withByte a v).steps n = (c.steps n).withByte a v ∧
      ∀ k < n, (c.withByte a v).stepEvent k = c.stepEvent k := by
  induction n with
  | zero => exact ⟨rfl, fun k none => absurd none k.not_lt_zero⟩
  | succ n ih =>
    obtain ⟨before, events⟩ := ih fun k earlier => untouched k (earlier.trans n.lt_succ_self)
    have last := (c.steps n).step_withByte v plain (untouched n n.lt_succ_self)
    rw [← before] at last
    refine ⟨?_, fun k earlier => ?_⟩
    · rw [steps_succ_last, last, steps_succ_last]
    · rcases Nat.lt_succ_iff_lt_or_eq.1 earlier with lt | rfl
      · exact events k lt
      · rw [stepEvent, last, stepEvent]

end Console

/-- **A step depends on what it touches.** Let a byte of plain storage have another value, where no
address of its cell is touched in the step. Then the same happens in the step, at the same cost or
with the same error. The console afterwards is the one that it would have been, with the other value
in the cell of the byte. -/
theorem step_of_untouched (c : Console) {a : UInt16} (v : UInt8) (plain : Plain a)
    (untouched : ∀ b ∈ c.touched, canonical a ≠ canonical b) :
    (c.withByte a v).step.1 = c.step.1 ∧
    (c.withByte a v).step.2 = c.step.2.withByte a v ∧
    (c.withByte a v).step.2.machine.cpu = c.step.2.machine.cpu ∧
    ∀ b, (c.withByte a v).step.2.machine.memory.read b =
      if canonical a = canonical b then v else c.step.2.machine.memory.read b := by
  rw [c.step_withByte v plain untouched]
  exact ⟨rfl, rfl, rfl, c.step.2.read_withByte v plain⟩

/-- A console that stores the stack pointer on both sides of the end of the work RAM, where the echo
region begins. -/
def storingIntoEcho : Console where
  config := {}
  machine :=
    { Machine.powerOn with
      memory := ((Memory.powerOn.write 0x0100 0x08).write 0x0101 0xFF).write 0x0102 0xDF }

/-- The first byte of the work RAM is touched, for its echo is written. The second byte is not, and
through its own echo another value is read there afterwards. -/
theorem step_of_untouched_echo :
    (storingIntoEcho.touched = [0x0100, 0x0101, 0x0102, 0xDFFF, 0xE000] ∧
      Plain 0xC001 ∧ ∀ b ∈ storingIntoEcho.touched, canonical 0xC001 ≠ canonical b) ∧
    (storingIntoEcho.withByte 0xC001 0x58).step.1.cost = .ok 20 ∧
    (storingIntoEcho.withByte 0xC001 0x58).step.2.machine.cpu.pc = 0x0103 ∧
    (storingIntoEcho.withByte 0xC001 0x58).step.2.machine.memory.read 0xE001 = 0x58 ∧
    (storingIntoEcho.withByte 0xC001 0x58).step.2.machine.memory.read 0xC000 = 0xFF := by
  have touched : storingIntoEcho.touched = [0x0100, 0x0101, 0x0102, 0xDFFF, 0xE000] := by
    decide +kernel
  have plain : Plain 0xC001 := by decide
  have untouched : ∀ b ∈ storingIntoEcho.touched, canonical 0xC001 ≠ canonical b := by
    intro b member
    rw [touched] at member
    simp only [List.mem_cons, List.not_mem_nil, or_false] at member
    rcases member with rfl | rfl | rfl | rfl | rfl <;> decide
  obtain ⟨event, -, cpu, memory⟩ := step_of_untouched storingIntoEcho 0x58 plain untouched
  refine ⟨⟨touched, plain, untouched⟩, ?_, ?_, ?_, ?_⟩
  · rw [event]
    decide +kernel
  · rw [cpu]
    decide +kernel
  · rw [memory]
    decide
  · rw [memory, if_neg (by decide)]
    decide +kernel

end GameBoy
