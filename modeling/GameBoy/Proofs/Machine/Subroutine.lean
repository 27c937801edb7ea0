import GameBoy.Proofs.Machine.WriteFootprint

/-!
# Entering a routine and returning from it

A routine is entered by a call, by a restart or by the dispatch of an interrupt, and one of three
instructions returns from it. Every way in pushes the address at which the program would have gone
on, and every way out takes the word on top of the stack for the next address. The two fit together
by one law of the memory: a word that was written from its upper byte down is read back
(`Memory.readWord_pushed`), for the two bytes never share a cell, even where the stack wraps around
or lies in the echo region. So an entry saves an address (`Machine.Entry.saved`), and a return goes
there wherever it finds the two bytes again (`Machine.Entry.restored`).
-/

namespace GameBoy

/-- A word that was written from its upper byte down is read back. -/
lemma Memory.readWord_pushed (m : Memory) {a : UInt16} (w : UInt16) (upper : Retains (a - 1))
    (lower : Retains (a - 2)) :
    ((m.write (a - 1) (Word.high w)).write (a - 2) (Word.low w)).readWord (a - 2) = w := by
  have above : a - 2 + 1 = a - 1 := by grind
  have other : canonical (a - 2) ≠ canonical (a - 1) := by
    rw [← above]
    exact (canonical_succ_ne (a - 2)).symm
  -- The lower byte, which is written last, does not fall on the upper one.
  have high := (m.write (a - 1) (Word.high w)).read_write_of_ne (a - 2) (a - 1) (Word.low w)
    lower.ne_control other
  rw [readWord, above, high, m.read_write_of_retains _ upper, read_write_of_retains _ _ lower,
    Word.ofBytes_high_low]

namespace Instruction

/-- The routine that an instruction enters when the flags are `f` before it, if it enters one. -/
def routine? (i : Instruction) (f : Flags) : Option UInt16 :=
  match i with
  | .call a => some a
  | .callIf cc a => if cc.holds f then some a else none
  | .restart n => some n.toUInt16
  | _ => none

/-- The instruction returns from a routine when the flags are `f` before it. -/
def returns (i : Instruction) (f : Flags) : Bool :=
  match i with
  | .ret | .retInterrupt => true
  | .retIf cc => cc.holds f
  | _ => false

variable {i : Instruction} {m : Machine}

/-- Every instruction that enters a routine calls it. -/
lemma execute_of_routine? {a : UInt16} (h : i.routine? m.cpu.flags = some a) :
    m.execute i = m.call a := by
  cases i with
  | call b | restart n =>
    obtain rfl := Option.some.inj h
    rfl
  | callIf cc b =>
    rw [routine?] at h
    split_ifs at h with taken
    obtain rfl := Option.some.inj h
    exact if_pos taken
  | _ => cases h

/-- Every instruction that returns goes to the word on top of the stack and removes it. -/
lemma execute_of_returns (h : i.returns m.cpu.flags) :
    (m.execute i).cpu.pc = m.top ∧ (m.execute i).cpu.sp = m.cpu.sp + 2 := by
  cases i with
  | ret | retInterrupt => exact ⟨rfl, rfl⟩
  | retIf cc =>
    rw [Machine.execute, if_pos (show cc.holds m.cpu.flags from h)]
    exact ⟨rfl, rfl⟩
  | _ => cases h

end Instruction

namespace Machine

variable {m m' f f' : Machine} {target next : UInt16}

/-! ## Entering -/

/-- The machine enters the routine at `target`, and would have gone on at `next` otherwise. -/
inductive Entry (m : Machine) : UInt16 → UInt16 → Machine → Prop
  /-- The instruction at the program counter calls the routine. -/
  | called {i : Instruction} {target next : UInt16} (running : m.resume.cpu.mode = .running)
      (decoded : Instruction.decode m.memory m.cpu.pc = .ok (i, next))
      (taken : i.routine? m.cpu.flags = some target) : Entry m target next m.step.2
  /-- An interrupt is dispatched to its handler. -/
  | dispatched {i : Interrupt} (due : m.serviceInterrupt.1 = some i) :
      Entry m i.handler m.cpu.pc m.serviceInterrupt.2

/-- A call leaves the address of the next instruction on top of the stack. -/
lemma readWord_call (m : Machine) (a : UInt16) (upper : Retains (m.cpu.sp - 1))
    (lower : Retains (m.cpu.sp - 2)) :
    (m.call a).memory.readWord (m.cpu.sp - 2) = m.cpu.pc :=
  m.memory.readWord_pushed m.cpu.pc upper lower

/-- An entry saves the address at which the program would have gone on: it is the word on top of
the stack. -/
lemma Entry.saved (entry : m.Entry target next m') (upper : Retains (m.cpu.sp - 1))
    (lower : Retains (m.cpu.sp - 2)) :
    m'.cpu.pc = target ∧ m'.cpu.sp = m.cpu.sp - 2 ∧ m'.memory.readWord m'.cpu.sp = next := by
  cases entry with
  | @called i target next running decoded taken =>
    have sp : (m.resume.start next).cpu.sp = m.cpu.sp := by rw [start, sp_resume]
    have taken' : i.routine? (m.resume.start next).cpu.flags = some target := by
      rwa [← flags_resume] at taken
    rw [step_of_resumed running decoded, Instruction.execute_of_routine? taken']
    rw [← sp] at upper lower ⊢
    exact ⟨rfl, rfl, (m.resume.start next).readWord_call target upper lower⟩
  | dispatched due =>
    have above : m.cpu.sp - 2 + 1 = m.cpu.sp - 1 := by grind
    rw [serviceInterrupt_eq_some due]
    refine ⟨rfl, rfl, ?_⟩
    -- Clearing the request does not touch the stack.
    show ((m.call _).memory.withdraw _).readWord (m.cpu.sp - 2) = m.cpu.pc
    rw [Memory.withdraw_eq_write, Memory.readWord, above, Memory.read_write_requests,
      Memory.read_write_requests, if_neg upper.ne_requests, if_neg lower.ne_requests, ← above]
    exact m.readWord_call _ upper lower

/-! ## Returning -/

/-- A return goes on at the word on top of the stack and removes it, and `RETI` accepts interrupts
at once. -/
lemma Transition.returned {r : Instruction} {cycles : ℕ}
    (step : f.Transition (.executed r cycles) f') (returns : r.returns f.cpu.flags) :
    f'.cpu.pc = f.memory.readWord f.cpu.sp ∧ f'.cpu.sp = f.cpu.sp + 2 ∧
      (r = .retInterrupt → f'.cpu.ime = true ∧ f'.cpu.pendingIme = none) := by
  cases step with
  | @executed _ next running decoded =>
    have returns' : r.returns (f.resume.start next).cpu.flags := by
      rwa [← flags_resume] at returns
    rw [← sp_resume, ← memory_resume]
    obtain ⟨pc, removed⟩ := Instruction.execute_of_returns returns'
    refine ⟨pc, removed, ?_⟩
    rintro rfl
    exact ⟨rfl, rfl⟩

/-- A return that finds the saved bytes where the entry left them undoes the entry. -/
lemma Entry.restored {r : Instruction} {cycles : ℕ} (entry : m.Entry target next m')
    (upper : Retains (m.cpu.sp - 1)) (lower : Retains (m.cpu.sp - 2))
    (balanced : f.cpu.sp = m'.cpu.sp)
    (kept : f.memory.read m'.cpu.sp = m'.memory.read m'.cpu.sp)
    (kept' : f.memory.read (m'.cpu.sp + 1) = m'.memory.read (m'.cpu.sp + 1))
    (step : f.Transition (.executed r cycles) f') (returns : r.returns f.cpu.flags) :
    f'.cpu.pc = next ∧ f'.cpu.sp = m.cpu.sp ∧
      (r = .retInterrupt → f'.cpu.ime = true ∧ f'.cpu.pendingIme = none) := by
  obtain ⟨-, sp, saved⟩ := entry.saved upper lower
  obtain ⟨pc, removed, enabled⟩ := step.returned returns
  have word : f.memory.readWord f.cpu.sp = next := by
    rw [balanced, ← saved, Memory.readWord, Memory.readWord, kept, kept']
  refine ⟨pc.trans word, ?_, enabled⟩
  rw [removed, balanced, sp]
  exact UInt16.sub_add_cancel m.cpu.sp 2

end Machine

/-- A run that leaves the two bytes of the saved address alone returns behind the entry, as soon as
it executes a return while the stack pointer is where the entry left it. -/
theorem Console.steps_return {c : Console} {m : Machine} {target next : UInt16}
    (entry : m.Entry target next c.machine) (upper : Retains (m.cpu.sp - 1))
    (lower : Retains (m.cpu.sp - 2)) {n : ℕ}
    (untouched : ∀ k < n, ∀ w ∈ (c.steps k).written,
      canonical (m.cpu.sp - 1) ≠ canonical w ∧ canonical (m.cpu.sp - 2) ≠ canonical w)
    (balanced : (c.steps n).machine.cpu.sp = c.machine.cpu.sp) {r : Instruction} {cycles : ℕ}
    (executed : (c.steps n).step.1 = .executed r cycles)
    (returns : r.returns (c.steps n).machine.cpu.flags) :
    (c.steps (n + 1)).machine.cpu.pc = next ∧ (c.steps (n + 1)).machine.cpu.sp = m.cpu.sp := by
  obtain ⟨-, sp, -⟩ := entry.saved upper lower
  have above : c.machine.cpu.sp + 1 = m.cpu.sp - 1 := by grind
  have kept := c.read_steps_of_outside lower.ne_requests n fun k earlier w written =>
    (untouched k earlier w written).2
  have kept' := c.read_steps_of_outside upper.ne_requests n fun k earlier w written =>
    (untouched k earlier w written).1
  rw [← sp] at kept
  rw [← above] at kept'
  rw [steps_succ_last]
  have transition : (c.steps n).Transition (.executed r cycles) (c.steps n).step.2 :=
    transition_of_step (Prod.ext executed rfl)
  generalize (c.steps n).step.2 = d at transition
  cases transition with
  | stepped quiet step =>
    obtain ⟨pc, sp, -⟩ := entry.restored upper lower balanced kept kept' step returns
    exact ⟨pc, sp⟩

/-- **Entering and returning.** However a routine is entered, by a call, by a restart or by the
dispatch of an interrupt, the machine goes on at its address, the stack pointer moves down by two,
and the word on top of the stack is the address at which the program would have gone on. Whatever
happens then: where the stack pointer is again the one after the entry and the two bytes on top of
the stack are those that it left, every return goes on at that address, with the stack pointer from
before the entry, and `RETI` accepts interrupts and leaves no change of that waiting. The two bytes
may lie anywhere but in the page of hardware registers and the addresses below it at which nothing
is stored. -/
theorem return_restores_entry {m m' : Machine} {target next : UInt16}
    (entry : m.Entry target next m')
    (upper : ¬(0xFEA0 ≤ (m.cpu.sp - 1).toNat ∧ (m.cpu.sp - 1).toNat ≤ 0xFF7F))
    (lower : ¬(0xFEA0 ≤ (m.cpu.sp - 2).toNat ∧ (m.cpu.sp - 2).toNat ≤ 0xFF7F)) :
    m'.cpu.pc = target ∧ m'.cpu.sp = m.cpu.sp - 2 ∧ m'.memory.readWord m'.cpu.sp = next ∧
    ∀ f : Machine, f.cpu.sp = m'.cpu.sp →
      f.memory.read m'.cpu.sp = m'.memory.read m'.cpu.sp →
      f.memory.read (m'.cpu.sp + 1) = m'.memory.read (m'.cpu.sp + 1) →
      ∀ (r : Instruction) (after : UInt16), f.resume.cpu.mode = .running →
        Instruction.decode f.memory f.cpu.pc = .ok (r, after) → r.returns f.cpu.flags →
        f.step.1 = .executed r (r.cycles f.cpu.flags) ∧
          f.step.2.cpu.pc = next ∧ f.step.2.cpu.sp = m.cpu.sp ∧
          (r = .retInterrupt → f.step.2.cpu.ime = true ∧ f.step.2.cpu.pendingIme = none) := by
  obtain ⟨pc, sp, saved⟩ := entry.saved upper lower
  refine ⟨pc, sp, saved, ?_⟩
  intro f balanced kept kept' r after running decoded returns
  rw [Machine.step_of_resumed running decoded]
  have step := Machine.Transition.executed running decoded
  exact ⟨rfl, entry.restored upper lower balanced kept kept' step returns⟩

/-- A machine whose stack wraps around: the lower byte of the word that is pushed next replaces the
byte that enables interrupts. An interrupt is due, and its handler does nothing and returns. -/
def interruptedAtLastAddress : Machine where
  cpu := { Cpu.powerOn with pc := 0x1234, sp := 0x0001, ime := true }
  memory := ((Memory.powerOn.write 0xFFFF 0x01).write 0xFF0F 0x01).write 0x0041 0xD9
  lastCycles := 0

/-- The dispatch saves the program counter in the last byte of the memory and in the first, and the
return of the handler takes it from there. -/
theorem return_restores_entry_handler :
    let entered := interruptedAtLastAddress.serviceInterrupt.2
    let later := entered.step.2
    (interruptedAtLastAddress.Entry 0x0040 0x1234 entered ∧ entered.cpu.sp = 0xFFFF ∧
        later.cpu.sp = 0xFFFF ∧
        Instruction.decode later.memory later.cpu.pc = .ok (.retInterrupt, 0x0042)) ∧
      entered.cpu.pc = 0x0040 ∧ entered.memory.readWord 0xFFFF = 0x1234 ∧
      later.step.2.cpu.pc = 0x1234 ∧ later.step.2.cpu.sp = 0x0001 ∧
      later.step.2.cpu.ime = true := by
  intro entered later
  have due : interruptedAtLastAddress.serviceInterrupt.1 = some .vBlank := by decide +kernel
  have entry : interruptedAtLastAddress.Entry 0x0040 0x1234 entered := .dispatched due
  have sp : entered.cpu.sp = 0xFFFF := by decide +kernel
  have sp' : later.cpu.sp = 0xFFFF := by decide +kernel
  have decoded : Instruction.decode later.memory later.cpu.pc = .ok (.retInterrupt, 0x0042) := by
    decide +kernel
  have running : later.resume.cpu.mode = .running := by decide +kernel
  have lower : later.memory.read entered.cpu.sp = entered.memory.read entered.cpu.sp := by
    decide +kernel
  have upper : later.memory.read (entered.cpu.sp + 1) =
      entered.memory.read (entered.cpu.sp + 1) := by
    decide +kernel
  obtain ⟨pc, -, saved, returned⟩ := return_restores_entry entry (by decide) (by decide)
  obtain ⟨-, pc', restored, enabled⟩ :=
    returned later (sp'.trans sp.symm) lower upper .retInterrupt 0x0042 running decoded rfl
  rw [sp] at saved
  exact ⟨⟨entry, sp, sp', decoded⟩, pc, saved, pc', restored, (enabled rfl).1⟩

end GameBoy
