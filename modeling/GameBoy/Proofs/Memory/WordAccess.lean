import GameBoy.Proofs.Memory.ReadWrite

/-!
# Words that are read back

A word is written byte by byte, its lower byte first, to an address and the one after it, and it is
read from the same two addresses. What an address reads after a byte was written to it depends on
the address and the byte, but not on the memory: it is `Memory.readBack`. The second byte never
disturbs the first (`Memory.read_write_succ`), whether the word wraps around behind the last
address, lies across two regions, or fills both registers of the serial line. So a word is read back
byte by byte (`Memory.readWord_writeWord`), and it is the word that was written exactly if this
holds of both of its bytes.
-/

namespace GameBoy

namespace Memory

/-! ## Bytes -/

/-- What an address reads after a byte was written to it: the open bus where nothing is stored, and
at the serial control, a byte that starts a transfer without the transfer bit. -/
def readBack (a : UInt16) (v : UInt8) : UInt8 :=
  if Unusable a then openBus
  else if a = 0xFF02 ∧ v &&& 0x81 = 0x81 then v &&& 0x7F
  else v

variable (m : Memory) (a : UInt16)

lemma read_write_same (v : UInt8) : (m.write a v).read a = readBack a v := by
  unfold readBack
  by_cases missing : Unusable a
  · rw [if_pos missing, read_unusable _ a missing]
  rw [if_neg missing, read_write, if_neg missing]
  by_cases transfer : a = 0xFF02 ∧ v &&& 0x81 = 0x81
  · rw [if_pos transfer, if_pos transfer, if_pos transfer.1]
  · rw [if_neg transfer, if_neg transfer, if_pos rfl]

/-- A byte comes back unless it is lost or starts a transfer. -/
lemma readBack_eq_iff (v : UInt8) :
    readBack a v = v ↔ ¬(Unusable a ∧ v ≠ 0xFF ∨ a = 0xFF02 ∧ v &&& 0x81 = 0x81) := by
  unfold readBack
  by_cases missing : Unusable a
  · have plain : a ≠ 0xFF02 := by
      rintro rfl
      exact absurd missing (by decide)
    rw [if_pos missing, openBus, eq_comm]
    simp only [missing, plain, true_and, false_and, or_false, not_not]
  rw [if_neg missing]
  by_cases transfer : a = 0xFF02 ∧ v &&& 0x81 = 0x81
  · have changed : v &&& 0x7F ≠ v := by
      intro same
      exact and_ne_of_cleared v (same.symm ▸ transfer.2)
    rw [if_pos transfer]
    exact ⟨fun same => absurd same changed, fun other => absurd (.inr transfer) other⟩
  · rw [if_neg transfer]
    exact ⟨fun _ => not_or.2 ⟨fun lost => missing lost.1, transfer⟩, fun _ => rfl⟩

/-- The serial control lies behind the data register. -/
lemma succ_eq_control : a + 1 = 0xFF02 ↔ a = 0xFF01 :=
  UInt16.add_left_inj (a := a) (b := 0xFF01) 1

/-- A write does not change the byte before the one that it names, not even if it starts a
transfer. -/
lemma read_write_succ (v : UInt8) : (m.write (a + 1) v).read a = m.read a := by
  rw [read_write, if_neg (canonical_succ_ne a)]
  by_cases transfer : a + 1 = 0xFF02 ∧ v &&& 0x81 = 0x81
  · obtain rfl := (succ_eq_control a).1 transfer.1
    rw [if_neg (by decide), if_pos transfer, if_neg (by decide), if_neg (by decide)]
  · rw [if_neg transfer, ite_self]

/-! ## Words -/

/-- A word is read back byte by byte. -/
theorem readWord_writeWord (w : UInt16) :
    (m.writeWord a w).readWord a =
      Word.ofBytes (readBack (a + 1) (Word.high w)) (readBack a (Word.low w)) := by
  rw [writeWord, readWord, read_write_same, read_write_succ, read_write_same]

end Memory

/-- Two bytes make a word exactly if they are its halves. -/
lemma Word.ofBytes_eq_iff (h l : UInt8) (w : UInt16) :
    ofBytes h l = w ↔ h = high w ∧ l = low w := by
  constructor
  · rintro rfl
    exact ⟨(high_ofBytes h l).symm, (low_ofBytes h l).symm⟩
  · rintro ⟨rfl, rfl⟩
    exact ofBytes_high_low w

/-- **Words that are read back.** A word that was written is read back, wherever it lies and
whatever the memory held, unless one of its bytes is lost or starts a serial transfer. A byte is
lost where nothing is stored, and then it comes back only if it is what is read there. A byte that
starts a transfer comes back without the transfer bit: the lower byte at the serial control, or the
upper byte of a word that begins at the data register before it. -/
theorem readWord_writeWord_eq_iff (m : Memory) (a w : UInt16) :
    (m.writeWord a w).readWord a = w ↔
      ¬((0xFEA0 ≤ a ∧ a ≤ 0xFEFF) ∧ Word.low w ≠ 0xFF ∨
        (0xFEA0 ≤ a + 1 ∧ a + 1 ≤ 0xFEFF) ∧ Word.high w ≠ 0xFF ∨
        a = 0xFF02 ∧ Word.low w &&& 0x81 = 0x81 ∨
        a = 0xFF01 ∧ Word.high w &&& 0x81 = 0x81) := by
  have missing (b : UInt16) : Unusable b ↔ 0xFEA0 ≤ b ∧ b ≤ 0xFEFF := Iff.rfl
  rw [m.readWord_writeWord, Word.ofBytes_eq_iff, Memory.readBack_eq_iff, Memory.readBack_eq_iff,
    Memory.succ_eq_control, missing, missing, ← not_or]
  -- The upper byte comes first in the word, and the lower one in the list of exceptions.
  exact not_congr ((or_comm.trans or_or_or_comm).trans or_assoc)

end GameBoy
