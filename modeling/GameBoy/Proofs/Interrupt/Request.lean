import GameBoy.Proofs.Interrupt.Dispatch
import GameBoy.Proofs.Memory.OperationWrites

/-!
# Requests of interrupts

An interrupt is requested while its bit is set in the byte at `0xFF0F`. One law says what a write
does to that bit, `Memory.requested_write`: a write to this address puts the bit where the byte has
it, a write that starts a transfer sets the bit of the serial line, and every other write, the
missing cells and the echo of the work RAM included, leaves it. Sequences of writes and the
operations of the outside follow from the law.
-/

namespace GameBoy

namespace Interrupt

variable {i j : Interrupt} {a b : UInt8}

lemma isIn_or : i.isIn (a ||| b) ↔ i.isIn a ∨ i.isIn b := by
  rw [isIn_iff, isIn_iff, isIn_iff, UInt8.toNat_or, Nat.testBit_or, Bool.or_eq_true]

lemma isIn_and : i.isIn (a &&& b) ↔ i.isIn a ∧ i.isIn b := by
  rw [isIn_iff, isIn_iff, isIn_iff, UInt8.toNat_and, Nat.testBit_and, Bool.and_eq_true]

/-- The bit of the most urgent interrupt is set. -/
lemma isIn_of_mostUrgent? (h : mostUrgent? a = some i) : i.isIn a :=
  (List.find?_eq_some_iff_append.1 h).1

/-- No two interrupts share a bit. -/
lemma isIn_bit : i.isIn j.bit ↔ i = j := by
  cases i <;> cases j <;> decide

lemma isIn_not_bit : i.isIn (~~~j.bit) ↔ i ≠ j := by
  cases i <;> cases j <;> decide

end Interrupt

/-- A write requests an interrupt: it writes the bit of the interrupt to `0xFF0F`, or it starts a
transfer, which requests the interrupt of the serial line. -/
def BusWrite.Raises (w : BusWrite) (t : Interrupt) : Prop :=
  w.address = 0xFF0F ∧ t.isIn w.value ∨
    t = .serial ∧ w.address = 0xFF02 ∧ w.value &&& 0x81 = 0x81

namespace Memory

variable {m : Memory} {t i : Interrupt}

/-- An interrupt is requested. -/
def Requested (m : Memory) (t : Interrupt) : Prop := t.isIn (m.read 0xFF0F)

instance (m : Memory) (t : Interrupt) : Decidable (m.Requested t) :=
  inferInstanceAs (Decidable (_ = true))

/-! ## Writes -/

/-- **Requests over a write.** After a write an interrupt is requested exactly if the write requests
it, or if it was requested before and the write goes to another address than that of the requests.
-/
theorem requested_write (m : Memory) (w : BusWrite) (t : Interrupt) :
    (m.write w.address w.value).Requested t ↔
      w.Raises t ∨ m.Requested t ∧ w.address ≠ 0xFF0F := by
  unfold Requested BusWrite.Raises
  rw [read_write_of_le m w.address w.value (by decide)]
  by_cases transfer : w.address = 0xFF02 ∧ w.value &&& 0x81 = 0x81
  · have serial : t.isIn 0x08 ↔ t = .serial := Interrupt.isIn_bit (j := .serial)
    rw [if_pos transfer, if_neg (by decide), if_pos rfl, Interrupt.isIn_or, serial]
    simp [transfer, or_comm]
  · rw [if_neg transfer]
    by_cases address : w.address = 0xFF0F <;> simp [address, transfer]

/-- A request stays over writes to other addresses than that of the requests. -/
lemma Requested.writeAll (h : m.Requested t) {ws : List BusWrite}
    (other : ∀ w ∈ ws, w.address ≠ 0xFF0F) : (m.writeAll ws).Requested t := by
  induction ws generalizing m with
  | nil => exact h
  | cons w ws ih =>
    rw [writeAll_cons]
    refine ih ?_ fun w' hw' => other w' (List.mem_cons_of_mem _ hw')
    exact (m.requested_write w t).2 (.inr ⟨h, other w List.mem_cons_self⟩)

/-- If an interrupt is requested after some writes and was not before, one of them requests it. -/
lemma exists_raises_of_writeAll {ws : List BusWrite} (before : ¬ m.Requested t)
    (after : (m.writeAll ws).Requested t) : ∃ w ∈ ws, w.Raises t := by
  induction ws generalizing m with
  | nil => exact absurd after before
  | cons w ws ih =>
    by_cases raised : (m.write w.address w.value).Requested t
    · rcases (m.requested_write w t).1 raised with here | ⟨earlier, -⟩
      · exact ⟨w, List.mem_cons_self, here⟩
      · exact absurd earlier before
    · obtain ⟨w', member, here⟩ := ih raised after
      exact ⟨w', List.mem_cons_of_mem _ member, here⟩

/-! ## Requests and withdrawals -/

lemma requested_iff_of_io_eq {m' : Memory} (h : m'.io = m.io) :
    m'.Requested t ↔ m.Requested t := by
  unfold Requested
  rw [read_requests, read_requests, h]

lemma requested_request : (m.request i).Requested t ↔ m.Requested t ∨ t = i := by
  unfold Requested
  rw [request_eq_write, read_write_requests, if_pos rfl, Interrupt.isIn_or, Interrupt.isIn_bit]

lemma requested_withdraw : (m.withdraw i).Requested t ↔ m.Requested t ∧ t ≠ i := by
  unfold Requested
  rw [withdraw_eq_write, read_write_requests, if_pos rfl, Interrupt.isIn_and,
    Interrupt.isIn_not_bit]

/-! ## Operations -/

/-- A request stays over an operation that neither withdraws it nor writes to its address. -/
lemma Requested.perform (h : m.Requested t) {op : Operation} (keeps : op ≠ .withdraw t)
    (other : ∀ w ∈ op.writes m, w.address ≠ 0xFF0F) : (m.perform op).Requested t := by
  cases op with
  | load program => exact (requested_iff_of_io_eq (m.io_loadOrKeep program)).2 h
  | request i => exact requested_request.2 (.inl h)
  | withdraw i =>
    refine requested_withdraw.2 ⟨h, ?_⟩
    rintro rfl
    exact keeps rfl
  | clearSerial => exact h
  | write | writeWord | increment | decrement | writeIo =>
    rw [perform_eq_writeAll rfl]
    exact h.writeAll other

/-- If an interrupt is requested after an operation and was not before, the operation is its request
or one of the writes requests it. -/
lemma raises_of_perform {op : Operation} (before : ¬ m.Requested t)
    (after : (m.perform op).Requested t) : op = .request t ∨ ∃ w ∈ op.writes m, w.Raises t := by
  cases op with
  | load program => exact absurd ((requested_iff_of_io_eq (m.io_loadOrKeep program)).1 after) before
  | request i =>
    rcases requested_request.1 after with earlier | rfl
    · exact absurd earlier before
    · exact .inl rfl
  | withdraw i => exact absurd (requested_withdraw.1 after).1 before
  | clearSerial => exact absurd after before
  | write | writeWord | increment | decrement | writeIo =>
    rw [perform_eq_writeAll rfl] at after
    exact .inr (exists_raises_of_writeAll before after)

end Memory

end GameBoy
