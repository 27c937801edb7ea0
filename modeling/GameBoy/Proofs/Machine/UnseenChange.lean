import GameBoy.Proofs.Machine.BusProgram

/-!
# Changes of the memory that a step does not see

A step sees of the memory what goes over the bus and, besides, the requests of interrupts and the
byte that enables them. `Console.touched` lists the addresses that go over the bus: those of the
instruction's bytes, of the data that it reads, and of the bytes that are written. A change of the
memory is `Memory.UnseenAt` some addresses if it keeps what is read there, if it makes no difference
whether a write there comes before or after it, and if it leaves the interrupts alone. When a step
touches no other addresses, it does the same after the change as without it, and the change can be
made afterwards as well (`Console.step_changeMemory`).

The argument is one about programs on the bus, for decoding is such a program, and so is every
instruction. It is made once, by induction on the program (`BusProgram.run_change`).
-/

namespace GameBoy

/-- A change of the memory makes no difference to accesses at the addresses in `P` and to
interrupts. -/
structure Memory.UnseenAt (P : UInt16 → Prop) (change : Memory → Memory) : Prop where
  /-- The same byte is read. -/
  read (m : Memory) (a : UInt16) (h : P a) : (change m).read a = m.read a
  /-- A write can be made before the change or after it. -/
  write (m : Memory) (a : UInt16) (v : UInt8) (h : P a) :
    (change m).write a v = change (m.write a v)
  /-- The same interrupts are requested. -/
  requests (m : Memory) : (change m).io.requests = m.io.requests
  /-- The same interrupts are enabled. -/
  interruptEnable (m : Memory) : (change m).interruptEnable = m.interruptEnable
  /-- A request can be withdrawn before the change or after it. -/
  withdraw (m : Memory) (i : Interrupt) : (change m).withdraw i = change (m.withdraw i)

/-- The machine with its memory changed. -/
def Machine.changeMemory (m : Machine) (change : Memory → Memory) : Machine :=
  { m with memory := change m.memory }

/-- The console with its memory changed. -/
def Console.changeMemory (c : Console) (change : Memory → Memory) : Console :=
  { c with machine := c.machine.changeMemory change }

/-! ## What a step touches -/

/-- What the start of an instruction changes does not matter to what it reads. -/
lemma Instruction.dataRead_start (i : Instruction) (m : Machine) (next : UInt16) :
    i.dataRead (m.resume.start next).cpu = i.dataRead m.cpu := by
  rw [m.resume_eq]
  cases i with
  | load d s | arithmetic op s | testBit n s =>
    cases s with
    | memory p => cases p <;> rfl
    | _ => rfl
  | _ => rfl

/-- The addresses that go over the bus in a step which starts with the given registers. -/
def Event.touched (e : Event) (c : Cpu) : List UInt16 :=
  match e with
  | .executed i _ => i.bytes c.pc ++ (i.dataRead c ++ i.written c)
  | .dispatched _ => c.pushed
  | .suspended => []
  | .illegal _ => [c.pc]

/-- The addresses that go over the bus in a step of the console. -/
def Console.touched (c : Console) : List UInt16 := c.step.1.touched c.machine.cpu

/-! ## Programs on the bus -/

section UnseenAt

variable {P : UInt16 → Prop} {change : Memory → Memory} (unseen : Memory.UnseenAt P change)

include unseen

/-- A program does the same after a change that its accesses do not see, and the change can be made
after the program as well. -/
theorem BusProgram.run_change {α : Type} (p : BusProgram α) (m : Memory)
    (touched : ∀ a ∈ p.accesses m, P a) :
    p.run (change m) = ((p.run m).1, change (p.run m).2) := by
  -- A read yields the same byte, so that the program goes on alike, and after a write it goes on in
  -- a changed memory again.
  induction p generalizing m with
  | done result => rfl
  | read a next ih =>
    have same := unseen.read m a (touched a List.mem_cons_self)
    rw [run, run, same]
    exact ih (m.read a) m fun b later => touched b (List.mem_cons_of_mem a later)
  | write a v next ih =>
    have moved := unseen.write m a v (touched a List.mem_cons_self)
    rw [run, run, moved]
    exact ih (m.write a v) fun b later => touched b (List.mem_cons_of_mem a later)

/-- The same instruction is decoded, if the change is not seen where it is fetched. -/
lemma Instruction.decode_change {m : Memory} {pc : UInt16}
    (touched : ∀ a ∈ (fetch pc).accesses m, P a) : decode (change m) pc = decode m pc := by
  have moved := (fetch pc).run_change unseen m touched
  rw [run_fetch, run_fetch] at moved
  exact congrArg Prod.fst moved

/-! ## Steps of the machine -/

namespace Machine

variable (m : Machine)

/-- An instruction does the same to the registers, and to the rest of the memory. -/
lemma execute_changeMemory {i : Instruction} (encodable : i.isEncodable)
    (touched : ∀ a ∈ i.dataRead m.cpu ++ i.written m.cpu, P a) :
    ((m.changeMemory change).execute i).cpu = (m.execute i).cpu ∧
      ((m.changeMemory change).execute i).memory = change (m.execute i).memory := by
  rw [← i.accesses_program m.cpu m.memory encodable] at touched
  have moved := (i.program m.cpu).run_change unseen m.memory touched
  rw [i.run_program m] at moved
  exact Prod.mk.inj ((i.run_program (m.changeMemory change)).symm.trans moved)

/-- The same interrupts are pending. -/
lemma interruptPending_changeMemory :
    (m.changeMemory change).interruptPending = m.interruptPending := by
  unfold interruptPending Memory.pendingInterrupts changeMemory
  rw [unseen.requests, unseen.interruptEnable]

/-- Resuming does the same. -/
lemma resume_changeMemory : (m.changeMemory change).resume = m.resume.changeMemory change := by
  unfold resume
  rw [m.interruptPending_changeMemory unseen]
  change (if m.cpu.mode = .halted ∧ m.interruptPending then _ else _) = _
  split_ifs <;> rfl

/-- The same interrupt is due. -/
lemma nextInterrupt?_changeMemory :
    (m.changeMemory change).nextInterrupt? = m.nextInterrupt? := by
  unfold nextInterrupt? interruptTriggered
  rw [m.interruptPending_changeMemory unseen]
  unfold changeMemory IoPage.mostUrgent?
  rw [unseen.requests, unseen.interruptEnable]

/-- The dispatch of an interrupt does the same. -/
lemma dispatch_changeMemory (i : Interrupt) (touched : ∀ a ∈ m.cpu.pushed, P a) :
    (m.changeMemory change).dispatch i = (m.dispatch i).changeMemory change := by
  -- The handler is called, and a call is an instruction as well.
  have called : ((m.changeMemory change).call i.handler).cpu = (m.call i.handler).cpu ∧
      ((m.changeMemory change).call i.handler).memory = change (m.call i.handler).memory :=
    m.execute_changeMemory unseen (i := .call i.handler) rfl touched
  obtain ⟨cpu, memory⟩ := called
  calc (m.changeMemory change).dispatch i
    _ = Machine.mk
          { ((m.changeMemory change).call i.handler).cpu with ime := false, mode := .running }
          (((m.changeMemory change).call i.handler).memory.withdraw i) Event.dispatchCycles := rfl
    _ = Machine.mk { (m.call i.handler).cpu with ime := false, mode := .running }
          (change ((m.call i.handler).memory.withdraw i)) Event.dispatchCycles := by
      rw [cpu, memory, unseen.withdraw]
    _ = (m.dispatch i).changeMemory change := rfl

/-- A step of the machine does the same. -/
theorem step_changeMemory (touched : ∀ a ∈ m.step.1.touched m.cpu, P a) :
    (m.changeMemory change).step = (m.step.1, m.step.2.changeMemory change) := by
  unfold step at touched ⊢
  simp only [m.resume_changeMemory unseen]
  by_cases running : m.resume.cpu.mode = .running
  · have running' : (m.resume.changeMemory change).cpu.mode = .running := running
    have refetched (fetched : ∀ a ∈ (Instruction.fetch m.resume.cpu.pc).accesses m.resume.memory,
          P a) :
        Instruction.decode (m.resume.changeMemory change).memory
            (m.resume.changeMemory change).cpu.pc =
          Instruction.decode m.resume.memory m.resume.cpu.pc :=
      Instruction.decode_change unseen fetched
    simp only [if_pos running] at touched
    rw [if_pos running', if_pos running]
    cases decoded : Instruction.decode m.resume.memory m.resume.cpu.pc with
    | error e =>
      rw [decoded] at touched
      rw [Instruction.accesses_fetch_of_error decoded, decoded, pc_resume] at refetched
      rw [refetched touched]
    | ok found =>
      obtain ⟨i, next⟩ := found
      rw [decoded] at touched
      obtain ⟨fetched, executed⟩ := List.forall_mem_append.1 touched
      rw [Instruction.accesses_fetch_of_ok decoded, decoded, pc_resume] at refetched
      rw [refetched fetched]
      have encodable := Instruction.isEncodable_of_decode decoded
      -- The instruction runs on the registers after its start, the tables are read before it.
      rw [← i.dataRead_start m next, ← i.written_start m next] at executed
      obtain ⟨cpu, memory⟩ :=
        (m.resume.start next).execute_changeMemory unseen encodable executed
      change (_, Machine.mk (((m.resume.start next).changeMemory change).execute i).cpu
        (((m.resume.start next).changeMemory change).execute i).memory _) = _
      rw [cpu, memory]
      rfl
  · have asleep : ¬(m.resume.changeMemory change).cpu.mode = .running := running
    rw [if_neg asleep, if_neg running]
    rfl

end Machine

/-! ## Steps of the console -/

namespace Console

variable (c : Console)

/-- **What a step does not see.** A step does the same after a change of the memory that is not seen
where the step touches it, and the change can be made after the step as well. -/
theorem step_changeMemory (touched : ∀ a ∈ c.touched, P a) :
    (c.changeMemory change).step = (c.step.1, c.step.2.changeMemory change) := by
  have same_due := c.machine.nextInterrupt?_changeMemory unseen
  by_cases quiet : c.config.serviceInterrupts → c.machine.nextInterrupt? = none
  · have quiet' : (c.changeMemory change).config.serviceInterrupts →
        (c.changeMemory change).machine.nextInterrupt? = none :=
      fun allowed => same_due.trans (quiet allowed)
    rw [Console.touched, step_of_not_dispatched quiet] at touched
    rw [step_of_not_dispatched quiet, step_of_not_dispatched quiet']
    have stepped := c.machine.step_changeMemory unseen touched
    exact congrArg (fun s => (s.1, ({ c with machine := s.2 } : Console))) stepped
  · obtain ⟨allowed, some⟩ := Classical.not_imp.1 quiet
    obtain ⟨i, due⟩ := Option.ne_none_iff_exists'.1 some
    have allowed' : (c.changeMemory change).config.serviceInterrupts := allowed
    rw [Console.touched, step_of_due allowed due] at touched
    rw [step_of_due allowed due, step_of_due allowed' (same_due.trans due)]
    have dispatched := c.machine.dispatch_changeMemory unseen i touched
    exact congrArg (fun m => (Event.dispatched i, ({ c with machine := m } : Console))) dispatched

end Console

end UnseenAt

end GameBoy
