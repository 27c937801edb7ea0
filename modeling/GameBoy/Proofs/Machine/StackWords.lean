import GameBoy.Proofs.Memory.WriteOrder

/-!
# Words on the stack

The stack pointer moves down before each byte of a word that is pushed, so the upper byte is written
first. A word in memory is written from its lower byte up. The two bytes are neighbours, and no
address shows the order in which they were written (`Machine.read_push`): a word on the stack is a
word in memory, and it comes back like one (`Machine.top_push`), wherever the stack lies.

What was sent can show the order. A push over both registers of the serial line writes the control
first, and transfers the byte that the data register held before the push.
-/

namespace GameBoy

/-- A word is pushed over both registers of the serial line exactly from the address behind
them. -/
lemma sub_two_eq_data (sp : UInt16) : sp - 2 = 0xFF01 ↔ sp = 0xFF03 :=
  UInt16.sub_left_inj (a := sp) (b := 0xFF03) 2

namespace Machine

variable (m : Machine) (w : UInt16)

/-- A push writes to two neighbouring addresses, to the higher one first. -/
lemma memory_push :
    (m.push w).memory =
      (m.memory.write (m.cpu.sp - 2 + 1) (Word.high w)).write (m.cpu.sp - 2) (Word.low w) := by
  have above : m.cpu.sp - 2 + 1 = m.cpu.sp - 1 := by grind
  rw [above]
  rfl

/-- After a push every address reads as if the word had been written to memory. -/
theorem read_push (b : UInt16) :
    (m.push w).memory.read b = (m.memory.writeWord (m.cpu.sp - 2) w).read b := by
  rw [memory_push, Memory.read_write_succ_comm, Memory.writeWord]

/-- A word that was pushed comes back byte by byte, like a word that was written to memory. -/
theorem top_push :
    (m.push w).top =
      Word.ofBytes (Memory.readBack (m.cpu.sp - 2 + 1) (Word.high w))
        (Memory.readBack (m.cpu.sp - 2) (Word.low w)) := by
  have top : (m.push w).top = (m.push w).memory.readWord (m.cpu.sp - 2) := rfl
  rw [top, Memory.readWord, m.read_push, m.read_push, ← Memory.readWord, Memory.readWord_writeWord]

/-- A push leaves the memory that writing the word leaves, unless it transfers another byte. -/
lemma memory_push_eq_iff :
    (m.push w).memory = m.memory.writeWord (m.cpu.sp - 2) w ↔
      ¬ (m.cpu.sp = 0xFF03 ∧ Word.high w &&& 0x81 = 0x81 ∧
        m.memory.read 0xFF01 ≠ Word.low w) := by
  rw [memory_push, Memory.writeWord, Memory.write_succ_comm_iff, sub_two_eq_data]

/-- A push over the registers of the serial line transfers the byte that was in the data register,
and writing the word transfers its lower byte. -/
lemma serialOutput_push {m : Machine} {w : UInt16} (sp : m.cpu.sp = 0xFF03)
    (starts : Word.high w &&& 0x81 = 0x81) :
    (m.push w).memory.serialOutput = m.memory.serialOutput.push (m.memory.read 0xFF01) ∧
      (m.memory.writeWord (m.cpu.sp - 2) w).serialOutput =
        m.memory.serialOutput.push (Word.low w) := by
  have data : m.cpu.sp - 2 = 0xFF01 := (sub_two_eq_data m.cpu.sp).2 sp
  have control : (0xFF01 : UInt16) + 1 = 0xFF02 := rfl
  rw [memory_push, Memory.writeWord, data, control]
  exact ⟨m.memory.serialOutput_control_data _ _ starts,
    m.memory.serialOutput_data_control _ _ starts⟩

end Machine

/-- **Words on the stack are words in memory.** The word that is removed from the stack is the word
in memory at the stack pointer, which moves up by two and changes nothing else. A push moves the
stack pointer down by two, changes no other register, and leaves the memory that writing the word
to the new stack pointer leaves, the serial output included. It does so for every stack pointer,
every memory and every word, with one exception: the word is pushed over both registers of the
serial line, its upper byte starts a transfer, and its lower byte is not the one in the data
register. Then the two memories hold the same bytes, but the push has sent the old byte of the data
register and the other write has sent the new one. -/
theorem stackWords_eq_memoryWords (m : Machine) (w : UInt16) :
    (m.top = m.memory.readWord m.cpu.sp ∧
      m.drop = { m with cpu := { m.cpu with sp := m.drop.cpu.sp } } ∧
      m.drop.cpu.sp.toNat = (m.cpu.sp.toNat + 2) % 2 ^ 16) ∧
    ((m.push w).cpu = { m.cpu with sp := m.cpu.sp - 2 } ∧
      (m.push w).cpu.sp.toNat = (m.cpu.sp.toNat + (2 ^ 16 - 2)) % 2 ^ 16 ∧
      (m.push w).lastCycles = m.lastCycles) ∧
    ((m.push w).memory = m.memory.writeWord (m.cpu.sp - 2) w ↔
      ¬ (m.cpu.sp = 0xFF03 ∧ Word.high w &&& 0x81 = 0x81 ∧
        m.memory.read 0xFF01 ≠ Word.low w)) ∧
    (∀ b, (m.push w).memory.read b = (m.memory.writeWord (m.cpu.sp - 2) w).read b) ∧
    (m.cpu.sp = 0xFF03 → Word.high w &&& 0x81 = 0x81 →
      (m.push w).memory.serialOutput = m.memory.serialOutput.push (m.memory.read 0xFF01) ∧
      (m.memory.writeWord (m.cpu.sp - 2) w).serialOutput =
        m.memory.serialOutput.push (Word.low w)) := by
  have up : m.drop.cpu.sp.toNat = (m.cpu.sp.toNat + 2) % 2 ^ 16 := UInt16.toNat_add m.cpu.sp 2
  have down : (m.push w).cpu.sp.toNat = (m.cpu.sp.toNat + (2 ^ 16 - 2)) % 2 ^ 16 := by
    rw [Nat.add_comm]
    exact UInt16.toNat_sub m.cpu.sp 2
  exact ⟨⟨rfl, rfl, up⟩, ⟨rfl, down, rfl⟩, m.memory_push_eq_iff w, m.read_push w,
    Machine.serialOutput_push⟩

/-- A machine that pushes over the registers of the serial line, with the letter A in the data
register. -/
def pushingOverSerialLine : Machine where
  cpu := { Cpu.powerOn with sp := 0xFF03 }
  memory := Memory.powerOn.write 0xFF01 0x41
  lastCycles := 0

/-- The push of a word that starts a transfer and has the letter B for its lower byte sends A, and
writing the word to memory sends B. -/
theorem stackWords_eq_memoryWords_serial :
    let m := pushingOverSerialLine
    (m.cpu.sp = 0xFF03 ∧ Word.high 0x8142 &&& 0x81 = 0x81) ∧
      (m.push 0x8142).memory.serialOutput = #[0x41] ∧
      (m.memory.writeWord 0xFF01 0x8142).serialOutput = #[0x42] ∧
      (m.push 0x8142).memory ≠ m.memory.writeWord 0xFF01 0x8142 := by
  intro m
  have starts : Word.high 0x8142 &&& 0x81 = 0x81 := by decide
  have held : m.memory.read 0xFF01 = 0x41 :=
    Memory.powerOn.read_write_self 0xFF01 0x41 (by decide) (by decide)
  have quiet : m.memory.serialOutput = #[] := by
    have plain := Memory.powerOn.serialOutput_write_eq 0xFF01 0x41
    rwa [if_neg fun h => absurd h.1 (by decide)] at plain
  have lower : m.cpu.sp - 2 = 0xFF01 := (sub_two_eq_data m.cpu.sp).2 rfl
  obtain ⟨-, -, same, -, sent⟩ := stackWords_eq_memoryWords m 0x8142
  obtain ⟨pushed, written⟩ := sent rfl starts
  rw [held, quiet] at pushed
  rw [lower, quiet] at written
  rw [lower] at same
  refine ⟨⟨rfl, starts⟩, pushed, written, fun equal => same.1 equal ⟨rfl, starts, ?_⟩⟩
  rw [held]
  decide

end GameBoy
