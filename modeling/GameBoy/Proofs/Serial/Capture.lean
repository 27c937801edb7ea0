import GameBoy.Proofs.Interrupt.Request

/-!
# Capture of the serial output

The host can reach the serial line in many ways: by a byte or by either half of a word, by counting
the control up or down, and through the page of hardware registers. All of them are writes on the
address bus, so the account of the bytes that were sent is kept write by write: what the host has
collected, and then what it can still collect, is what was sent (`Memory.collected_append_output`).
The control never keeps a byte that asks for a transfer, since the transfer is over at once.
-/

namespace GameBoy

namespace Memory

/-- The bytes that an operation hands over to the host. -/
def Operation.collected (op : Operation) (m : Memory) : List UInt8 :=
  match op with
  | clearSerial => m.serialOutput.toList
  | write .. | writeWord .. | increment _ | decrement _ | load _ | writeIo .. | request _
  | withdraw _ => []

/-- The bytes that the host collects in a sequence of operations, the first first. -/
def collected (m : Memory) : List Operation → List UInt8
  | [] => []
  | op :: ops => op.collected m ++ (m.perform op).collected ops

/-- The bytes that are sent in a sequence of operations, the first first: for each write to the
serial control that starts a transfer, the byte that the data register holds then. -/
def sent (m : Memory) : List Operation → List UInt8
  | [] => []
  | op :: ops => m.transfers (op.writes m) ++ (m.perform op).sent ops

variable (m : Memory)

/-! ## The account -/

/-- What an operation hands over and what it leaves is what there was and what it sends. -/
lemma collected_append_output_perform (op : Operation) :
    op.collected m ++ (m.perform op).serialOutput.toList =
      m.serialOutput.toList ++ m.transfers (op.writes m) := by
  cases op with
  | load program =>
    have same : (m.perform (.load program)).serialOutput = m.serialOutput :=
      congrArg IoPage.serialOutput (m.io_loadOrKeep program)
    rw [same]
    exact (List.append_nil _).symm
  | request i | withdraw i => exact (List.append_nil _).symm
  | clearSerial => rfl
  | write | writeWord | increment | decrement | writeIo =>
    rw [perform_eq_writeAll rfl]
    exact m.serialOutput_writeAll _

/-- What the host has collected in a sequence of operations, and then what it has not collected yet,
is what there was before and what is sent in the sequence. -/
lemma collected_append_output (ops : List Operation) :
    m.collected ops ++ (m.performAll ops).serialOutput.toList =
      m.serialOutput.toList ++ m.sent ops := by
  induction ops generalizing m with
  | nil => exact (List.append_nil _).symm
  | cons op ops ih =>
    calc m.collected (op :: ops) ++ (m.performAll (op :: ops)).serialOutput.toList
        = op.collected m ++ ((m.perform op).collected ops ++
            ((m.perform op).performAll ops).serialOutput.toList) := List.append_assoc _ _ _
      _ = op.collected m ++ (m.perform op).serialOutput.toList ++ (m.perform op).sent ops := by
          rw [ih, List.append_assoc]
      _ = m.serialOutput.toList ++ m.sent (op :: ops) := by
          rw [collected_append_output_perform, List.append_assoc, sent]

/-! ## The serial control -/

/-- What every address reads after a write that starts a transfer. -/
lemma read_write_of_transfer {v : UInt8} (starts : v &&& 0x81 = 0x81) (a : UInt16) :
    (m.write 0xFF02 v).read a =
      if a = 0xFF02 then v &&& 0x7F
      else if a = 0xFF0F then m.read a ||| 0x08
      else m.read a := by
  rw [read_write, if_neg (by decide), if_pos ⟨rfl, starts⟩]

/-- No transfer is in progress: the serial control does not hold the two bits that ask for one. -/
def LineIdle (m : Memory) : Prop := m.read 0xFF02 &&& 0x81 ≠ 0x81

variable {m}

/-- A write leaves no transfer in progress. -/
lemma LineIdle.write (h : m.LineIdle) (a : UInt16) (v : UInt8) : (m.write a v).LineIdle := by
  unfold LineIdle
  rw [read_write_of_le m a v (by decide)]
  by_cases transfer : a = 0xFF02 ∧ v &&& 0x81 = 0x81
  · rw [if_pos transfer, if_pos rfl]
    exact and_ne_of_cleared v
  rw [if_neg transfer]
  by_cases control : a = 0xFF02
  · rw [if_pos control]
    exact fun asks => transfer ⟨control, asks⟩
  · rw [if_neg control]
    exact h

/-- No operation leaves a transfer in progress. -/
lemma LineIdle.perform (op : Operation) (h : m.LineIdle) : (m.perform op).LineIdle := by
  refine perform_invariant (fun m a v h => h.write a v) (fun m program h => ?_)
    (fun m h => ?_) op h
  · have control (m : Memory) : m.read 0xFF02 = m.io.get HardwareRegister.sc.offset :=
      m.read_ioAddress HardwareRegister.sc.offset
    unfold LineIdle at h ⊢
    rw [control] at h ⊢
    rwa [io_loadOrKeep]
  · unfold LineIdle
    rw [read_clearSerial]
    exact h

end Memory

/-- **Capture of the serial output.** After every sequence of operations from power-on, what the
host has collected, followed by what it has not collected yet, is what was sent: in order, the byte
that the data register held at each write to the control that had the highest and the lowest bit
set. And the control holds no such byte.

The operations that address the bus do nothing but their writes. A write that starts a transfer
clears the transfer bit of the control, requests the interrupt of the serial line, and changes
nothing else that can be read. This interrupt is requested by nothing but such a write, a write of
its bit to the requests, and the host. -/
theorem serialOutput_captured (ops : List Memory.Operation) :
    (Memory.powerOn.collected ops ++ (Memory.powerOn.performAll ops).serialOutput.toList =
        Memory.powerOn.sent ops ∧
      (Memory.powerOn.performAll ops).read 0xFF02 &&& 0x81 ≠ 0x81) ∧
    ∀ m : Memory,
      (∀ op : Memory.Operation, op.isOnBus → m.perform op = m.writeAll (op.writes m)) ∧
      (∀ v : UInt8, v &&& 0x81 = 0x81 →
        (m.write 0xFF02 v).Requested .serial ∧
        ∀ a, (m.write 0xFF02 v).read a =
          if a = 0xFF02 then v &&& 0x7F
          else if a = 0xFF0F then m.read a ||| 0x08
          else m.read a) ∧
      (∀ op : Memory.Operation, ¬ m.Requested .serial → (m.perform op).Requested .serial →
        op = .request .serial ∨ ∃ w ∈ op.writes m,
          w.address = 0xFF0F ∧ Interrupt.serial.isIn w.value ∨
            w.address = 0xFF02 ∧ w.value &&& 0x81 = 0x81) := by
  refine ⟨⟨Memory.powerOn.collected_append_output ops, ?_⟩,
    fun m => ⟨fun op => ?_, fun v starts => ?_, fun op before after => ?_⟩⟩
  · exact Memory.performAll_invariant (P := Memory.LineIdle) (fun m op h => h.perform op) ops
      (by decide +kernel : Memory.powerOn.read 0xFF02 &&& 0x81 ≠ 0x81)
  · exact Memory.perform_eq_writeAll
  · refine ⟨(m.requested_write ⟨0xFF02, v⟩ .serial).2 (.inl (.inr ⟨rfl, rfl, starts⟩)), ?_⟩
    exact m.read_write_of_transfer starts
  · refine (Memory.raises_of_perform before after).imp_right ?_
    rintro ⟨w, member, request | ⟨-, transfer⟩⟩
    · exact ⟨w, member, .inl request⟩
    · exact ⟨w, member, .inr transfer⟩

/-- A word that fills both registers of the serial line, the data before the control. -/
def bothRegisters : Memory.Operation := .writeWord 0xFF01 0x8142

/-- Three bytes on the serial line: one through the page of hardware registers, which is collected,
one by a word, and one by counting the control up. -/
def threeTransfers : List Memory.Operation :=
  [.write 0xFF01 0x41, .writeIo HardwareRegister.sc.offset 0x81, .clearSerial,
    bothRegisters, .write 0xFF02 0x80, .increment 0xFF02]

/-- The second byte is sent twice, and the count leaves the control without the transfer bit. At
power-on the word would request the interrupt of the serial line, by its upper half. -/
theorem serialOutput_captured_threeTransfers :
    Memory.powerOn.sent threeTransfers = [0x41, 0x42, 0x42] ∧
      (Memory.powerOn.collected threeTransfers ++
        (Memory.powerOn.performAll threeTransfers).serialOutput.toList =
          Memory.powerOn.sent threeTransfers ∧
        (Memory.powerOn.performAll threeTransfers).read 0xFF02 &&& 0x81 ≠ 0x81) ∧
      (bothRegisters.isOnBus ∧
        Memory.powerOn.perform bothRegisters =
          Memory.powerOn.writeAll (bothRegisters.writes Memory.powerOn)) ∧
      (Memory.powerOn.write 0xFF02 0x81).Requested .serial ∧
      (¬ Memory.powerOn.Requested .serial ∧
        ∃ w ∈ bothRegisters.writes Memory.powerOn,
          w.address = 0xFF0F ∧ Interrupt.serial.isIn w.value ∨
            w.address = 0xFF02 ∧ w.value &&& 0x81 = 0x81) := by
  obtain ⟨account, write⟩ := serialOutput_captured threeTransfers
  obtain ⟨bus, transfer, request⟩ := write Memory.powerOn
  have idle : ¬ Memory.powerOn.Requested .serial := by decide +kernel
  refine ⟨by decide +kernel, account, ⟨rfl, bus bothRegisters rfl⟩, (transfer 0x81 rfl).1, idle, ?_⟩
  rcases request bothRegisters idle (by decide +kernel) with other | raised
  · cases other
  · exact raised

end GameBoy
