import GameBoy.Proofs.Machine.Transition
import GameBoy.Proofs.Memory.ReadWrite
import Mathlib.Data.Nat.Bitwise
import Mathlib.Order.Bounds.Basic

/-!
# The dispatch of an interrupt

Two parts of the machine decide about a dispatch. The guard looks at the five bits that stand for an
interrupt, and the choice looks at all bits that are requested and enabled; so that the choice finds
something whenever the guard lets it, the bits that stand for no interrupt must not matter. The
choice is made before the program counter is pushed. The push can write the very bytes that were
consulted, or send a byte over the serial line, and only the request that was chosen before is
withdrawn after it.
-/

namespace GameBoy

namespace Interrupt

variable {bits : UInt8} {i j : Interrupt}

/-- The place of the interrupt's bit in a byte, counted from the lowest. -/
def index : Interrupt → ℕ
  | vBlank => 0
  | lcdStatus => 1
  | timer => 2
  | serial => 3
  | joypad => 4

lemma toNat_bit (i : Interrupt) : i.bit.toNat = 2 ^ i.index := by
  cases i <;> rfl

lemma bit_eq_shiftLeft (i : Interrupt) : i.bit = 1 <<< UInt8.ofNat i.index := by
  cases i <;> rfl

/-- The handlers lie eight bytes apart. -/
lemma handler_eq (i : Interrupt) : i.handler = UInt16.ofNat (0x40 + 8 * i.index) := by
  cases i <;> rfl

/-- Each of the five lower bits stands for an interrupt. -/
lemma exists_index_eq {k : ℕ} (h : k < 5) : ∃ i : Interrupt, i.index = k := by
  match k, h with
  | 0, _ => exact ⟨vBlank, rfl⟩
  | 1, _ => exact ⟨lcdStatus, rfl⟩
  | 2, _ => exact ⟨timer, rfl⟩
  | 3, _ => exact ⟨serial, rfl⟩
  | 4, _ => exact ⟨joypad, rfl⟩

lemma index_lt (i : Interrupt) : i.index < 5 := by
  cases i <;> decide

lemma mem_all (i : Interrupt) : i ∈ all := by
  cases i <;> decide

/-- The order of priority is that of the bits. -/
lemma all_pairwise : all.Pairwise fun i j => i.index < j.index := by
  decide

lemma isIn_iff : i.isIn bits ↔ bits.toNat.testBit i.index := by
  have zero : bits &&& i.bit = 0 ↔ bits.toNat.testBit i.index = false := by
    rw [← UInt8.toNat_inj, UInt8.toNat_and, toNat_bit, Nat.and_two_pow]
    cases bits.toNat.testBit i.index <;> simp
  rw [isIn, bne_iff_ne, ne_eq, zero, Bool.not_eq_false]

/-- The most urgent interrupt is the one with the lowest bit. -/
lemma isLeast_of_mostUrgent? (h : mostUrgent? bits = some i) :
    IsLeast {k | bits.toNat.testBit k} i.index := by
  obtain ⟨here, before, after, split, none⟩ := List.find?_eq_some_iff_append.1 h
  refine ⟨isIn_iff.1 here, fun k set => ?_⟩
  by_contra lower
  obtain ⟨j, rfl⟩ := exists_index_eq (Nat.lt_trans (Nat.lt_of_not_le lower) i.index_lt)
  -- An interrupt with a lower bit comes earlier in the list, where no bit was set.
  have ordered := all_pairwise
  rw [split, List.pairwise_append, List.pairwise_cons] at ordered
  have member := j.mem_all
  rw [split, List.mem_append, List.mem_cons] at member
  rcases member with early | rfl | late
  · have refuted := none j early
    rw [isIn_iff.2 set] at refuted
    cases refuted
  · exact lower (Nat.le_refl _)
  · exact lower (Nat.le_of_lt (ordered.2.1.1 j late))

/-- There is a most urgent interrupt as soon as a bit is set that stands for one. -/
lemma exists_mostUrgent? (h : bits &&& mask ≠ 0) : ∃ i, mostUrgent? bits = some i := by
  by_contra missing
  have none : mostUrgent? bits = none := by
    rw [Option.eq_none_iff_forall_ne_some]
    exact not_exists.1 missing
  refine h (UInt8.toNat_inj.1 (Nat.eq_of_testBit_eq fun k => ?_))
  have masked : mask.toNat = 2 ^ 5 - 1 := rfl
  rw [UInt8.toNat_and, Nat.testBit_and, masked, Nat.testBit_two_pow_sub_one]
  by_cases low : k < 5
  · obtain ⟨i, rfl⟩ := exists_index_eq low
    have unset := List.find?_eq_none.1 none i i.mem_all
    rw [isIn_iff, Bool.not_eq_true] at unset
    rw [unset]
    simp
  · simp [low]

end Interrupt

namespace Machine

variable (m : Machine)

lemma pendingInterrupts_eq :
    m.memory.pendingInterrupts = m.memory.read 0xFFFF &&& m.memory.read 0xFF0F &&& 0x1F := by
  rw [Memory.read_last, Memory.read_requests]
  rfl

/-- The choice finds an interrupt whenever the guard lets it. -/
lemma exists_mostUrgent?_of_pending (h : m.interruptPending) :
    ∃ i, m.memory.io.mostUrgent? m.memory.interruptEnable = some i := by
  rw [IoPage.mostUrgent?, UInt8.and_comm]
  exact Interrupt.exists_mostUrgent? (bne_iff_ne.1 h)

/-- The memory after the program counter was pushed. -/
def pushed : Memory :=
  (m.memory.write (m.cpu.sp - 1) (Word.high m.cpu.pc)).write (m.cpu.sp - 2) (Word.low m.cpu.pc)

/-- The machine after the dispatch of an interrupt, part by part. -/
lemma dispatch_eq (i : Interrupt) :
    m.dispatch i =
      { cpu := { m.cpu with
          pc := UInt16.ofNat (0x40 + 8 * i.index)
          sp := m.cpu.sp - 2
          ime := false
          mode := .running }
        memory := m.pushed.write 0xFF0F (m.pushed.read 0xFF0F &&& ~~~(1 <<< UInt8.ofNat i.index))
        lastCycles := 20 } := by
  rw [← Interrupt.handler_eq, ← Interrupt.bit_eq_shiftLeft, ← Memory.withdraw_eq_write]
  rfl

end Machine

namespace Memory

/-- A write to the byte of requests changes no other byte, and sends nothing. -/
lemma read_write_requests (m : Memory) (v : UInt8) (a : UInt16) :
    (m.write 0xFF0F v).read a = if a = 0xFF0F then v else m.read a := by
  have here : canonical 0xFF0F = canonical a ↔ a = 0xFF0F :=
    canonical_eq_iff_of_le 0xFF0F a (by decide)
  rw [read_write, if_neg (by decide), if_neg (fun h => absurd h.1 (by decide))]
  simp only [here]

lemma serialOutput_write_requests (m : Memory) (v : UInt8) :
    (m.write 0xFF0F v).serialOutput = m.serialOutput := by
  rw [write_requests]
  rfl

end Memory

/-- **The dispatch of an interrupt.** An interrupt is dispatched exactly if the processor does not
wait for a button, accepts interrupts, and one is pending. It is the one whose bit is the lowest
before the push. The push writes what it writes, be it to the requests, to the byte that enables
interrupts or to the serial control, and then the bit of this interrupt is cleared among the
requests, and no other byte changes. Otherwise nothing happens, and it never happens that an
interrupt is triggered and none is found. -/
theorem serviceInterrupt_serves_lowest (m : Machine) :
    let pending := m.memory.read 0xFFFF &&& m.memory.read 0xFF0F &&& 0x1F
    let pushed := (m.memory.write (m.cpu.sp - 1) (Word.high m.cpu.pc)).write (m.cpu.sp - 2)
      (Word.low m.cpu.pc)
    (if m.cpu.mode ≠ .stopped ∧ m.cpu.ime = true ∧ pending ≠ 0 then
      ∃ i : Interrupt, IsLeast {k | pending.toNat.testBit k} i.index ∧
        (Event.dispatched i).cost = .ok 20 ∧
        ∃ memory : Memory, m.serviceInterrupt =
            (some i,
              { cpu := { m.cpu with
                  pc := UInt16.ofNat (0x40 + 8 * i.index)
                  sp := m.cpu.sp - 2
                  ime := false
                  mode := .running }
                memory := memory
                lastCycles := 20 }) ∧
          memory = pushed.write 0xFF0F (pushed.read 0xFF0F &&& ~~~(1 <<< UInt8.ofNat i.index)) ∧
          memory.serialOutput = pushed.serialOutput ∧
          ∀ a, memory.read a =
            if a = 0xFF0F then pushed.read a &&& ~~~(1 <<< UInt8.ofNat i.index)
            else pushed.read a
    else m.serviceInterrupt = (none, m)) ∧
    (m.interruptTriggered → ∃ i, m.memory.io.mostUrgent? m.memory.interruptEnable = some i) := by
  intro pending pushed
  have same : m.memory.pendingInterrupts = pending := m.pendingInterrupts_eq
  have guard : m.interruptPending ↔ pending ≠ 0 := by
    rw [← same]
    exact bne_iff_ne
  constructor
  · split_ifs with due
    · obtain ⟨awake, accepted, some⟩ := due
      have next := Machine.nextInterrupt?_of_accepted awake accepted (guard.2 some)
      obtain ⟨i, found⟩ := m.exists_mostUrgent?_of_pending (guard.2 some)
      rw [← Machine.mostUrgent?_pendingInterrupts] at found
      refine ⟨i, ?_, rfl, _, ?_, rfl, pushed.serialOutput_write_requests _, fun a => ?_⟩
      · rw [← same]
        exact Interrupt.isLeast_of_mostUrgent? found
      · rw [Machine.serviceInterrupt_of_some (next.trans found), m.dispatch_eq]
        rfl
      · rw [Memory.read_write_requests]
        split_ifs with here
        · rw [here]
        · rfl
    · rw [← guard] at due
      exact Machine.serviceInterrupt_of_none (Machine.nextInterrupt?_eq_none_of_not due)
  · intro triggered
    rw [Machine.interruptTriggered, Bool.and_eq_true] at triggered
    exact m.exists_mostUrgent?_of_pending triggered.2

/-- A machine whose next push starts a serial transfer, for the lower byte of its program counter
goes to the serial control. The buttons request an interrupt, and that of the serial line is enabled
but not yet requested. -/
def pushingToSerialControl : Machine where
  cpu := { Cpu.powerOn with pc := 0x1281, sp := 0xFF04, ime := true }
  memory := ((Memory.powerOn.write 0xFFFF 0x18).write 0xFF0F 0x10).write 0xFF01 0x58
  lastCycles := 0

/-- The push requests a more urgent interrupt than the one that was chosen before it. That request
stays, and the chosen one is withdrawn. -/
theorem serviceInterrupt_serves_lowest_buttons :
    pushingToSerialControl.interruptTriggered ∧
      (∃ i, pushingToSerialControl.memory.io.mostUrgent?
        pushingToSerialControl.memory.interruptEnable = some i) ∧
      pushingToSerialControl.serviceInterrupt.1 = some .joypad ∧
      pushingToSerialControl.serviceInterrupt.2.cpu.pc = 0x0060 ∧
      pushingToSerialControl.serviceInterrupt.2.memory.read 0xFF0F = 0x08 ∧
      pushingToSerialControl.serviceInterrupt.2.memory.serialOutput = #[0x58] := by
  have triggered : pushingToSerialControl.interruptTriggered := by decide +kernel
  have chosen : pushingToSerialControl.serviceInterrupt.1 = some .joypad := by decide +kernel
  obtain ⟨service, found⟩ := serviceInterrupt_serves_lowest pushingToSerialControl
  rw [if_pos (by decide +kernel)] at service
  obtain ⟨i, -, -, memory, served, -, sent, reads⟩ := service
  obtain rfl : i = .joypad := by
    rw [served] at chosen
    exact Option.some.inj chosen
  rw [served]
  refine ⟨triggered, found triggered, rfl, rfl, ?_, ?_⟩
  · rw [reads, if_pos rfl]
    decide +kernel
  · rw [sent]
    decide +kernel

end GameBoy
