import GameBoy.Proofs.Console.Steps
import GameBoy.Proofs.Interrupt.Delivery

/-!
# The memory that a step writes

A step writes at most two bytes, and where it writes is told by the instruction and the registers
before the step: `Event.written` is the table. The bytes on the bus are known from
`Console.writes`; that they go to the addresses of the table is proved here for instructions that
have an encoding. What a write leaves alone is known from `Memory.read_write`: everything but its own
cell, and the byte of requests if it starts a serial transfer. So every other address reads after the
step as before it, and since the two bytes of a word go to different addresses, at most one of them
starts a transfer.
-/

namespace GameBoy

/-! ## The table -/

/-- The address that is written when a byte is put where a destination says. -/
def Destination.written (d : Destination) (c : Cpu) : List UInt16 :=
  match d with
  | .memory p => [p.address c]
  | .register _ | .accumulator => []

/-- The address of the byte at a location, if it is in memory. -/
def Location.addressed (x : Location) (c : Cpu) : List UInt16 :=
  match x with
  | .atHl => [c.hl]
  | .register _ | .accumulator => []

/-- The addresses that are written when a word is pushed. -/
def Cpu.pushed (c : Cpu) : List UInt16 := [c.sp - 1, c.sp - 2]

/-- The addresses that an instruction writes when it starts with the given registers. -/
def Instruction.written (i : Instruction) (c : Cpu) : List UInt16 :=
  match i with
  | .load d _ => d.written c
  | .increment x | .decrement x | .rotate _ x | .swap x | .setBit _ x | .resetBit _ x =>
    x.addressed c
  | .storeSp a => [a, a + 1]
  | .push _ | .call _ | .restart _ => c.pushed
  | .callIf cc _ => if cc.holds c.flags then c.pushed else []
  | _ => []

/-- The addresses that are written in a step which starts with the given registers. -/
def Event.written (e : Event) (c : Cpu) : List UInt16 :=
  match e with
  | .executed i _ => i.written c
  | .dispatched _ => c.pushed
  | .suspended | .illegal _ => []

/-- The bits that are withdrawn from the requests in a step. -/
def Event.withdrawn : Event → UInt8
  | .dispatched i => i.bit
  | .executed .. | .suspended | .illegal _ => 0x00

/-- The addresses that a step of the console writes. -/
def Console.written (c : Console) : List UInt16 := c.step.1.written c.machine.cpu

/-! ## The table and the bus -/

/-- Reading the source of a load does not move the pointer to which it stores: no load that has an
encoding has two pointers. -/
lemma Destination.written_afterSource {d : Destination} {s : Source} (h : d.isLoadedFrom s)
    (m : Machine) : d.written (m.afterSource s).cpu = d.written m.cpu := by
  cases d with
  | register r => rfl
  | accumulator => rfl
  | memory p =>
    cases s with
    | memory q => cases p <;> cases h
    | _ => rfl

namespace Instruction

variable {i : Instruction} (m : Machine)

/-- An instruction that has an encoding writes to the addresses of the table. -/
theorem map_address_writes (encodable : i.isEncodable) :
    (i.writes m).map BusWrite.address = i.written m.cpu := by
  have byte (x : Location) (v : UInt8) :
      (x.writes v m.cpu).map BusWrite.address = x.addressed m.cpu := by
    cases x <;> rfl
  have word (w : UInt16) : (m.cpu.pushes w).map BusWrite.address = m.cpu.pushed := rfl
  cases i with
  | load d s =>
    have stored : (d.writes (m.readSource s) (m.afterSource s).cpu).map BusWrite.address =
        d.written (m.afterSource s).cpu := by
      cases d <;> rfl
    exact stored.trans (Destination.written_afterSource encodable m)
  | increment x | decrement x | rotate op x | swap x | setBit n x | resetBit n x => exact byte x _
  | callIf cc a =>
    rw [writes, written]
    split_ifs
    · exact word m.cpu.pc
    · rfl
  | _ => rfl

/-- What the start of an instruction changes does not matter to the table. -/
lemma written_start (i : Instruction) (next : UInt16) :
    i.written (m.resume.start next).cpu = i.written m.cpu := by
  rw [m.resume_eq]
  cases i with
  | load d s =>
    cases d with
    | memory p => cases p <;> rfl
    | _ => rfl
  | _ => rfl

end Instruction

/-- A step of the machine writes to the addresses of the table. -/
lemma Machine.map_address_writes (m : Machine) :
    m.writes.map BusWrite.address = m.step.1.written m.cpu := by
  unfold writes step
  by_cases running : m.resume.cpu.mode = .running
  · simp only [if_pos running]
    cases decoded : Instruction.decode m.resume.memory m.resume.cpu.pc with
    | error x => rfl
    | ok found =>
      obtain ⟨i, next⟩ := found
      have encodable := Instruction.isEncodable_of_decode decoded
      exact (i.map_address_writes (m.resume.start next) encodable).trans (i.written_start m next)
  · simp only [if_neg running]
    rfl

/-- A step of the console writes to the addresses of the table. -/
theorem Console.map_address_writes (c : Console) :
    c.writes.map BusWrite.address = c.written := by
  unfold Console.writes written step
  unfold serviceInterrupt Machine.serviceInterrupt
  by_cases allowed : c.config.serviceInterrupts
  · rw [if_pos allowed]
    cases c.machine.nextInterrupt? with
    | some i => rfl
    | none => exact c.machine.map_address_writes
  · rw [if_neg allowed]
    exact c.machine.map_address_writes

/-- No address is written twice in a step. -/
lemma Event.written_nodup (e : Event) (c : Cpu) : (e.written c).Nodup := by
  have pushed : c.pushed.Nodup := by
    have other : c.sp - 1 ≠ c.sp - 2 := by
      intro same
      exact absurd ((UInt16.sub_right_inj c.sp).1 same) (by decide)
    exact List.nodup_cons.2 ⟨mt List.mem_singleton.1 other, List.nodup_singleton _⟩
  cases e with
  | dispatched i => exact pushed
  | suspended => exact List.nodup_nil
  | illegal x => exact List.nodup_nil
  | executed i cycles =>
    cases i with
    | load d s => cases d <;> simp [written, Instruction.written, Destination.written]
    | increment x | decrement x | rotate op x | swap x | setBit n x | resetBit n x =>
      cases x <;> simp [written, Instruction.written, Location.addressed]
    | storeSp a =>
      have other : a ≠ a + 1 := by
        intro same
        exact absurd (UInt16.left_eq_add.1 same) (by decide)
      exact List.nodup_cons.2 ⟨mt List.mem_singleton.1 other, List.nodup_singleton _⟩
    | push p | call a | restart n => exact pushed
    | callIf cc a =>
      simp only [written, Instruction.written]
      split_ifs
      · exact pushed
      · exact List.nodup_nil
    | _ => exact List.nodup_nil

/-! ## What writes leave alone -/

namespace Memory

variable (m : Memory)

/-- A write changes no other cell than its own, the byte of requests apart. -/
lemma read_write_of_outside {a b : UInt16} (v : UInt8) (plain : b ≠ 0xFF0F)
    (outside : canonical b ≠ canonical a) : (m.write a v).read b = m.read b := by
  rw [read_write, if_neg (Ne.symm outside)]
  by_cases transfer : a = 0xFF02 ∧ v &&& 0x81 = 0x81
  · have elsewhere : b ≠ 0xFF02 := by
      rintro rfl
      exact outside (congrArg canonical transfer.1.symm)
    rw [if_pos transfer, if_neg elsewhere, if_neg plain, ite_self]
  · rw [if_neg transfer, ite_self]

/-- Writes change no other cells than their own, the byte of requests apart. -/
lemma read_writeAll_of_outside {b : UInt16} {ws : List BusWrite} (plain : b ≠ 0xFF0F)
    (outside : ∀ w ∈ ws, canonical b ≠ canonical w.address) :
    (m.writeAll ws).read b = m.read b := by
  induction ws generalizing m with
  | nil => rfl
  | cons w ws ih =>
    have first := outside w List.mem_cons_self
    have others := fun w' hw' => outside w' (List.mem_cons_of_mem w hw')
    rw [writeAll_cons, ih _ others, m.read_write_of_outside w.value plain first]

/-- Writes to other addresses change the byte of requests only by a transfer, which sets the bit of
the serial line. -/
lemma requests_writeAll {ws : List BusWrite} (other : ∀ w ∈ ws, w.address ≠ 0xFF0F) :
    (m.writeAll ws).read 0xFF0F =
      m.read 0xFF0F ||| if m.transfers ws = [] then 0x00 else 0x08 := by
  induction ws generalizing m with
  | nil => exact UInt8.or_zero.symm
  | cons w ws ih =>
    have first := other w List.mem_cons_self
    have others := fun w' hw' => other w' (List.mem_cons_of_mem w hw')
    rw [writeAll_cons, ih _ others, m.read_write_of_le w.address w.value (by decide)]
    by_cases transfer : w.address = 0xFF02 ∧ w.value &&& 0x81 = 0x81
    · have twice : (0x08 ||| if (m.write w.address w.value).transfers ws = [] then 0x00 else 0x08) =
          (0x08 : UInt8) := by
        split_ifs <;> rfl
      have sends : m.transfers (w :: ws) ≠ [] := by
        rw [transfers, if_pos transfer]
        exact List.cons_ne_nil _ _
      rw [if_pos transfer, if_neg (by decide), if_pos rfl, UInt8.or_assoc, twice, if_neg sends]
    · have same : m.transfers (w :: ws) = (m.write w.address w.value).transfers ws := by
        rw [transfers, if_neg transfer, List.nil_append]
      rw [if_neg transfer, if_neg first, same]

/-- Only writes to the serial control transfer bytes, each of them one at most. -/
lemma length_transfers_le (ws : List BusWrite) :
    (m.transfers ws).length ≤ (ws.map BusWrite.address).count 0xFF02 := by
  induction ws generalizing m with
  | nil => exact Nat.le_refl 0
  | cons w ws ih =>
    have rest := ih (m.write w.address w.value)
    rw [transfers, List.length_append, List.map_cons, List.count_cons]
    by_cases control : w.address = 0xFF02
    · rw [if_pos (beq_iff_eq.2 control)]
      split_ifs <;> simp <;> omega
    · rw [if_neg (fun h => control h.1), if_neg (by simpa using control)]
      simpa using rest

end Memory

/-! ## Steps -/

namespace Console

variable (c : Console)

/-- Only the dispatch of an interrupt withdraws a request. -/
lemma withdrawn_of_not_serviced (h : c.serviceInterrupt.1 = none) :
    c.step.1.withdrawn = 0x00 := by
  cases event : c.step.1 with
  | dispatched i =>
    rw [dispatched_iff.1 event] at h
    cases h
  | executed | suspended | illegal => rfl

/-- After a step every address reads what the writes of the step leave there, and a dispatch clears
a bit of the requests. -/
lemma read_step (a : UInt16) :
    c.step.2.machine.memory.read a =
      if a = 0xFF0F then (c.machine.memory.writeAll c.writes).read a &&& ~~~c.step.1.withdrawn
      else (c.machine.memory.writeAll c.writes).read a := by
  rw [memory_step]
  cases serviced : c.serviceInterrupt.1 with
  | none =>
    rw [c.withdrawn_of_not_serviced serviced]
    exact ((ite_congr rfl (fun _ => UInt8.and_neg_one) fun _ => rfl).trans (ite_self _)).symm
  | some i =>
    have bit : c.step.1.withdrawn = i.bit := congrArg Event.withdrawn (dispatched_iff.2 serviced)
    simp only [Memory.withdraw_eq_write, Memory.read_write_requests, bit]
    split_ifs with here
    · rw [here]
    · rfl

/-- The writes of a step go to the addresses of the table. -/
lemma mem_written {w : BusWrite} (member : w ∈ c.writes) : w.address ∈ c.written := by
  rw [← map_address_writes]
  exact List.mem_map_of_mem member

variable {a : UInt16} (plain : a ≠ 0xFF0F)

include plain

/-- A step changes no other cells than those that it writes, the byte of requests apart. -/
lemma read_step_of_outside (outside : ∀ w ∈ c.written, canonical a ≠ canonical w) :
    c.step.2.machine.memory.read a = c.machine.memory.read a := by
  rw [c.read_step, if_neg plain]
  exact c.machine.memory.read_writeAll_of_outside plain fun w member =>
    outside w.address (c.mem_written member)

/-- A run changes no other cells than those that its steps write, the byte of requests apart. -/
theorem read_steps_of_outside (n : ℕ)
    (outside : ∀ k < n, ∀ w ∈ (c.steps k).written, canonical a ≠ canonical w) :
    (c.steps n).machine.memory.read a = c.machine.memory.read a := by
  induction n with
  | zero => rfl
  | succ n ih =>
    have last := (c.steps n).read_step_of_outside plain (outside n n.lt_succ_self)
    have before := ih fun k earlier => outside k (earlier.trans n.lt_succ_self)
    rw [steps_succ_last, last, before]

end Console

/-- **The memory that a step writes.** After a step of the console, whatever its outcome, every
address reads as before that names no cell which the step writes, the byte of requests apart. The
serial output grows by one byte at most, and by none unless the step writes to the serial control.
If the step does not write to the requests, they gain the bit of the serial line exactly if a byte
was sent, and a dispatch withdraws its bit; they change in no other way. What a dispatch has
withdrawn is not requested any more, even if the push has just written it. -/
theorem step_write_footprint (c : Console) :
    (∀ a, a ≠ 0xFF0F → (∀ w ∈ c.written, canonical a ≠ canonical w) →
      c.step.2.machine.memory.read a = c.machine.memory.read a) ∧
    (∃ sent : List UInt8,
      c.step.2.serialOutput.toList = c.serialOutput.toList ++ sent ∧
      sent.length ≤ 1 ∧
      (sent ≠ [] → 0xFF02 ∈ c.written) ∧
      (0xFF0F ∉ c.written →
        c.step.2.machine.memory.read 0xFF0F =
          (c.machine.memory.read 0xFF0F ||| if sent = [] then 0x00 else 0x08) &&&
            ~~~c.step.1.withdrawn)) ∧
    ∀ i, c.step.1 = .dispatched i → i.isIn (c.step.2.machine.memory.read 0xFF0F) = false := by
  refine ⟨fun a plain outside => c.read_step_of_outside plain outside,
    ⟨c.transferred, c.serialOutput_step, ?_, ?_, ?_⟩, ?_⟩
  · -- No address occurs twice in the table, and only the serial control sends.
    have count : (c.writes.map BusWrite.address).count 0xFF02 ≤ 1 := by
      rw [c.map_address_writes]
      exact List.nodup_iff_count_le_one.1 (c.step.1.written_nodup c.machine.cpu) 0xFF02
    exact (c.machine.memory.length_transfers_le c.writes).trans count
  · intro sends
    have some : 0 < c.transferred.length := List.length_pos_iff.2 sends
    have bound := c.machine.memory.length_transfers_le c.writes
    rw [c.map_address_writes] at bound
    exact List.count_pos_iff.1 (some.trans_le bound)
  · intro outside
    have other : ∀ w ∈ c.writes, w.address ≠ 0xFF0F := by
      intro w member here
      exact outside (here ▸ c.mem_written member)
    rw [c.read_step, if_pos rfl, c.machine.memory.requests_writeAll other, Console.transferred]
  · intro i dispatched
    have gone : ¬ c.step.2.Requested i := Console.not_requested_of_dispatched dispatched
    exact Bool.eq_false_iff.2 gone

/-- The console around the machine whose next push starts a serial transfer. -/
def dispatchingOverSerial : Console := ⟨{}, pushingToSerialControl⟩

/-- The push of the dispatch sends the byte in the data register, which is kept, and requests the
interrupt of the serial line; the request of the buttons is withdrawn. -/
theorem step_write_footprint_dispatch :
    (dispatchingOverSerial.written = [0xFF03, 0xFF02] ∧
      dispatchingOverSerial.step.1 = .dispatched .joypad) ∧
    dispatchingOverSerial.step.2.machine.memory.read 0xFF01 =
      dispatchingOverSerial.machine.memory.read 0xFF01 ∧
    dispatchingOverSerial.step.2.serialOutput = #[0x58] ∧
    dispatchingOverSerial.step.2.machine.memory.read 0xFF0F = 0x08 ∧
    Interrupt.joypad.isIn (dispatchingOverSerial.step.2.machine.memory.read 0xFF0F) = false := by
  have written : dispatchingOverSerial.written = [0xFF03, 0xFF02] := by decide +kernel
  have dispatched : dispatchingOverSerial.step.1 = .dispatched .joypad := by decide +kernel
  have output : dispatchingOverSerial.step.2.serialOutput = #[0x58] := by decide +kernel
  obtain ⟨kept, ⟨sent, grown, -, -, requests⟩, gone⟩ := step_write_footprint dispatchingOverSerial
  have one : sent = [0x58] := by
    have before : dispatchingOverSerial.serialOutput.toList = [] := by decide +kernel
    rw [output, before, List.nil_append] at grown
    exact grown.symm
  refine ⟨⟨written, dispatched⟩, kept 0xFF01 (by decide) ?_, output, ?_, gone .joypad dispatched⟩
  · rw [written]
    exact List.forall_mem_cons.2 ⟨by decide, List.forall_mem_singleton.2 (by decide)⟩
  · rw [requests (by rw [written]; decide), one, dispatched]
    decide +kernel

end GameBoy
