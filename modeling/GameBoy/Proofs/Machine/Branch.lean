import GameBoy.Proofs.Instruction.Length
import GameBoy.Proofs.Serial.Transfer

/-!
# Branches on a condition

Jumps, calls and returns have a form that asks for a condition. The condition is asked for twice:
once for the duration of the instruction, and once, after the program counter has moved and a
waiting change of the acceptance of interrupts was made, for the branch itself. Both answers are the
same, because nothing in between touches the flags; so a branch that is charged as taken is taken.

What a branch does when it is taken is compared with its form without a condition in two ways: on
the same machine, and between two programs that have one form each at the same address
(`Branch.sameEffect_of_taken`). Such programs differ in their memory, and what is compared there is
what the instruction writes to it.
-/

namespace GameBoy

/-! ## Conditions -/

/-- The condition that holds when another does not. -/
def Condition.opposite : Condition → Condition
  | nz => z
  | z => nz
  | nc => c
  | c => nc

lemma Condition.holds_opposite (cc : Condition) (f : Flags) :
    cc.opposite.holds f = !cc.holds f := by
  cases cc <;> simp [opposite, holds]

/-! ## Branches -/

/-- A way to leave the sequence that comes with and without a condition. -/
inductive Branch where
  /-- To an address. -/
  | jump (address : UInt16)
  /-- By an offset from the next instruction. -/
  | jumpBy (e : Int8)
  /-- Into a routine. -/
  | call (address : UInt16)
  /-- Out of a routine. -/
  | ret
  deriving DecidableEq, Repr

namespace Branch

/-- The branch without a condition. -/
def always : Branch → Instruction
  | jump a => .jump a
  | jumpBy e => .jumpBy e
  | call a => .call a
  | ret => .ret

/-- The branch on a condition. -/
def onCondition (cc : Condition) : Branch → Instruction
  | jump a => .jumpIf cc a
  | jumpBy e => .jumpByIf cc e
  | call a => .callIf cc a
  | ret => .retIf cc

/-- The clock cycles of a branch on a condition that holds. -/
def takenCycles : Branch → ℕ
  | jump _ => 16
  | jumpBy _ => 12
  | call _ => 24
  | ret => 20

/-- The clock cycles of a branch on a condition that does not hold. -/
def skippedCycles : Branch → ℕ
  | jump _ => 12
  | jumpBy _ => 8
  | call _ => 12
  | ret => 8

/-- The bytes of a branch. -/
def length : Branch → ℕ
  | jump _ | call _ => 3
  | jumpBy _ => 2
  | ret => 1

variable (b : Branch) (cc : Condition)

lemma length_always : b.always.length = b.length := by
  cases b <;> rfl

lemma length_onCondition : (b.onCondition cc).length = b.length := by
  cases b <;> rfl

/-- The duration asks for the condition. -/
lemma cycles_onCondition (f : Flags) :
    (b.onCondition cc).cycles f = if cc.holds f then b.takenCycles else b.skippedCycles := by
  cases b <;> rfl

/-- The execution asks for the condition. -/
lemma execute_onCondition (m : Machine) :
    m.execute (b.onCondition cc) = if cc.holds m.cpu.flags then m.execute b.always else m := by
  cases b <;> rfl

/-- What a taken branch makes of the registers, and what it writes, depends on the registers and,
for a return, on the word on top of the stack. -/
lemma execute_always_congr {m u : Machine} (cpu : u.cpu = m.cpu) (top : b = .ret → u.top = m.top) :
    (u.execute b.always).cpu = (m.execute b.always).cpu ∧
      b.always.writes u = b.always.writes m := by
  rcases m with ⟨c, mem, k⟩
  obtain rfl : u.cpu = c := cpu
  cases b with
  | ret =>
    have same : u.top = Machine.top ⟨u.cpu, mem, k⟩ := top rfl
    refine ⟨?_, rfl⟩
    exact congrArg (fun w => { u.cpu with sp := u.cpu.sp + 2, pc := w }) same
  | _ => exact ⟨rfl, rfl⟩

end Branch

/-! ## Steps -/

namespace Machine

variable {m u : Machine} {i : Instruction} {next after : UInt16}

/-- The next step executes an instruction, which another one follows at `next`. -/
structure Fetches (m : Machine) (i : Instruction) (next : UInt16) : Prop where
  /-- The processor runs, or it is woken. -/
  running : m.resume.cpu.mode = .running
  /-- The instruction is at the program counter. -/
  decoded : Instruction.decode m.memory m.cpu.pc = .ok (i, next)

namespace Fetches

lemma step_eq (fetched : m.Fetches i next) :
    m.step = (.executed i (i.cycles m.cpu.flags),
      { (m.resume.start next).execute i with lastCycles := i.cycles m.cpu.flags }) :=
  step_of_resumed fetched.running fetched.decoded

/-- The next instruction follows the bytes of this one. -/
lemma next_eq (fetched : m.Fetches i next) : next = m.cpu.pc + UInt16.ofNat i.length := by
  rw [← Instruction.length_of_decode fetched.decoded, UInt16.ofNat_toNat, UInt16.add_comm,
    UInt16.sub_add_cancel]

/-- The start of an instruction depends on the registers only. -/
lemma cpu_start (fetched : m.Fetches i next) :
    (m.resume.start next).cpu =
      { m.cpu with
        ime := m.cpu.pendingIme.getD m.cpu.ime, pendingIme := none, pc := next
        mode := .running } := by
  rw [resume_of_running fetched.running]
  rfl

/-- The start of an instruction keeps the flags. -/
lemma flags_start (fetched : m.Fetches i next) :
    (m.resume.start next).cpu.flags = m.cpu.flags := by
  rw [fetched.cpu_start]

lemma writes_eq (fetched : m.Fetches i next) : m.writes = i.writes (m.resume.start next) := by
  have decoded : Instruction.decode m.resume.memory m.resume.cpu.pc = .ok (i, next) := by
    rw [memory_resume, pc_resume]
    exact fetched.decoded
  simp only [writes, if_pos fetched.running, decoded]

end Fetches

/-- The next steps of two machines have the same effect on the registers and on the memory, though
the memories can differ. -/
structure SameEffect (m u : Machine) : Prop where
  /-- The registers are the same afterwards. -/
  cpu : u.step.2.cpu = m.step.2.cpu
  /-- The same bytes are written to the same addresses, in the same order. -/
  writes : u.writes = m.writes
  /-- Nothing else happens to the memories. -/
  memory : m.step.2.memory = m.memory.writeAll m.writes ∧
    u.step.2.memory = u.memory.writeAll u.writes

/-- Two steps have the same effect if the executions of their instructions have it. -/
lemma sameEffect_of_execute {j : Instruction} (fetched : m.Fetches i next)
    (fetched' : u.Fetches j after)
    (cpu : ((u.resume.start after).execute j).cpu = ((m.resume.start next).execute i).cpu)
    (writes : j.writes (u.resume.start after) = i.writes (m.resume.start next)) :
    m.SameEffect u := by
  refine ⟨?_, ?_, m.memory_step, u.memory_step⟩
  · rw [fetched.step_eq, fetched'.step_eq]
    exact cpu
  · rw [fetched.writes_eq, fetched'.writes_eq, writes]

end Machine

namespace Branch

open Machine

variable {m u : Machine} {b : Branch} {cc : Condition} {next after : UInt16}

/-- A branch on a condition that holds is charged as taken, and taken. -/
lemma step_of_taken (fetched : m.Fetches (b.onCondition cc) next) (holds : cc.holds m.cpu.flags) :
    m.step.1.cost = .ok b.takenCycles ∧
      m.step.2 = { (m.resume.start next).execute b.always with lastCycles := b.takenCycles } := by
  have holds' : cc.holds (m.resume.start next).cpu.flags := by rwa [fetched.flags_start]
  have cycles : (b.onCondition cc).cycles m.cpu.flags = b.takenCycles := by
    rw [cycles_onCondition, if_pos holds]
  rw [fetched.step_eq, execute_onCondition, if_pos holds', cycles]
  exact ⟨rfl, rfl⟩

/-- A branch on a condition that does not hold is charged as skipped, and does nothing. -/
lemma step_of_skipped (fetched : m.Fetches (b.onCondition cc) next)
    (fails : cc.holds m.cpu.flags = false) :
    m.step.1.cost = .ok b.skippedCycles ∧
      m.step.2 = { m.resume.start next with lastCycles := b.skippedCycles } := by
  have fails' : ¬ cc.holds (m.resume.start next).cpu.flags := by
    rw [fetched.flags_start, fails]
    exact Bool.false_ne_true
  have cycles : (b.onCondition cc).cycles m.cpu.flags = b.skippedCycles := by
    rw [cycles_onCondition, if_neg (by rw [fails]; exact Bool.false_ne_true)]
  rw [fetched.step_eq, execute_onCondition, if_neg fails', cycles]
  exact ⟨rfl, rfl⟩

/-- Both forms of a branch are followed by the same address. -/
lemma next_eq_of_fetches (fetched : m.Fetches (b.onCondition cc) next)
    (fetched' : u.Fetches b.always after) (cpu : u.cpu = m.cpu) : after = next := by
  rw [fetched.next_eq, fetched'.next_eq, length_onCondition, length_always, cpu]

/-- A taken branch has the same effect as the branch without a condition at the same address in
another program. -/
lemma sameEffect_of_taken (fetched : m.Fetches (b.onCondition cc) next)
    (fetched' : u.Fetches b.always after) (cpu : u.cpu = m.cpu) (top : b = .ret → u.top = m.top)
    (holds : cc.holds m.cpu.flags) : m.SameEffect u := by
  obtain rfl := next_eq_of_fetches fetched fetched' cpu
  have started : (u.resume.start after).cpu = (m.resume.start after).cpu := by
    rw [fetched.cpu_start, fetched'.cpu_start, cpu]
  have top' : b = .ret → (u.resume.start after).top = (m.resume.start after).top := by
    intro returns
    have same := top returns
    rw [u.resume_eq, m.resume_eq]
    exact same
  have holds' : cc.holds (m.resume.start after).cpu.flags := by rwa [fetched.flags_start]
  obtain ⟨registers, writes⟩ := b.execute_always_congr started top'
  apply sameEffect_of_execute fetched fetched'
  · rw [registers, execute_onCondition, if_pos holds']
  · rw [writes]
    cases b with
    | call a => exact (if_pos holds').symm
    | _ => rfl

end Branch

/-! ## Offsets -/

/-- A word moved by a signed byte, as a number. -/
lemma Word.toNat_displace (w : UInt16) (e : Int8) :
    ((displace w e).toNat : ℤ) = (w.toNat + e.toInt) % 2 ^ 16 := by
  have bits : e.toInt % 2 ^ 16 = e.toInt16.toUInt16.toNat := by
    have small : (e.toInt16.toUInt16.toNat : ℤ) < 2 ^ 16 := by
      exact_mod_cast e.toInt16.toUInt16.toNat_lt
    have signed : e.toInt16.toInt = Int.bmod e.toInt16.toUInt16.toNat (2 ^ 16) :=
      e.toInt16.toBitVec.toInt_eq_toNat_bmod
    rw [← Int8.toInt_toInt16, signed]
    exact Int.bmod_emod.trans (Int.emod_eq_of_lt (Int.natCast_nonneg _) small)
  calc ((displace w e).toNat : ℤ)
    _ = (w.toNat + e.toInt16.toUInt16.toNat) % 2 ^ 16 := by
      rw [displace, UInt16.toNat_add]
      exact_mod_cast rfl
    _ = (w.toNat + e.toInt) % 2 ^ 16 := by rw [← bits, Int.add_emod_emod]

namespace Machine

variable {m u : Machine} {e : Int8} {t next after : UInt16}

/-- Where a jump by an offset goes. -/
lemma Fetches.pc_jumpBy (fetched : m.Fetches (.jumpBy e) next) :
    (m.step.2.cpu.pc.toNat : ℤ) = (m.cpu.pc.toNat + 2 + e.toInt) % 2 ^ 16 := by
  have two : next = m.cpu.pc + 2 := fetched.next_eq
  have landed : m.step.2.cpu.pc = Word.displace (m.cpu.pc + 2) e := by
    rw [fetched.step_eq, ← two]
    rfl
  have bits : ((m.cpu.pc + 2).toNat : ℤ) = (m.cpu.pc.toNat + 2) % 2 ^ 16 := by
    rw [UInt16.toNat_add]
    exact_mod_cast rfl
  rw [landed, Word.toNat_displace, bits, Int.emod_add_emod]

/-- A jump by an offset has the same effect as the jump to where it goes. -/
lemma sameEffect_of_jumpBy (fetched : m.Fetches (.jumpBy e) next)
    (fetched' : u.Fetches (.jump t) after) (cpu : u.cpu = m.cpu)
    (target : (t.toNat : ℤ) = (m.cpu.pc.toNat + 2 + e.toInt) % 2 ^ 16) : m.SameEffect u := by
  have landed : m.step.2.cpu.pc = t := by
    rw [← fetched.pc_jumpBy] at target
    exact UInt16.toNat_inj.1 (Int.ofNat_inj.1 target.symm)
  rw [fetched.step_eq] at landed
  apply sameEffect_of_execute fetched fetched'
  · change { (u.resume.start after).cpu with pc := t } =
      { (m.resume.start next).cpu with pc := Word.displace next e }
    rw [fetched.cpu_start, fetched'.cpu_start, cpu, ← landed]
    rfl
  · rfl

end Machine

/-- **Branches on a condition.** Of two opposite conditions one holds. Executed on a machine on
which its condition holds, a branch does what its form without a condition does; otherwise it does
nothing. A step agrees with the duration that was determined before it: where the condition holds it
takes the cycles of a branch that is taken, and the branch is taken; otherwise it takes the others,
and nothing happens but that the program counter moves on and a waiting change of the acceptance of
interrupts is made. Two programs that have one form each at the same address have the same effect on
the registers and write the same bytes; for a return, their stacks have to agree. A jump by an
offset goes to the sum of the next address and the offset, modulo the size of the address space, and
has the same effect as the jump to there. -/
theorem conditional_branch :
    (∀ (cc : Condition) (f : Flags), cc.opposite.holds f = !cc.holds f) ∧
    (∀ (m : Machine) (b : Branch) (cc : Condition),
      m.execute (b.onCondition cc) = if cc.holds m.cpu.flags then m.execute b.always else m) ∧
    (∀ (m : Machine) (b : Branch) (cc : Condition) (next : UInt16),
      m.Fetches (b.onCondition cc) next →
      next = m.cpu.pc + UInt16.ofNat b.length ∧
      (cc.holds m.cpu.flags = true →
        m.step.1.cost = .ok b.takenCycles ∧
        m.step.2 =
          { (m.resume.start next).execute b.always with lastCycles := b.takenCycles }) ∧
      (cc.holds m.cpu.flags = false →
        m.step.1.cost = .ok b.skippedCycles ∧
        m.step.2.memory = m.memory ∧
        m.step.2.cpu =
          { m.cpu with
            ime := m.cpu.pendingIme.getD m.cpu.ime, pendingIme := none, pc := next
            mode := .running })) ∧
    (∀ (m u : Machine) (b : Branch) (cc : Condition) (next after : UInt16),
      m.Fetches (b.onCondition cc) next → u.Fetches b.always after → u.cpu = m.cpu →
      (b = .ret → u.top = m.top) → cc.holds m.cpu.flags = true → m.SameEffect u) ∧
    ∀ (m : Machine) (e : Int8) (next : UInt16), m.Fetches (.jumpBy e) next →
      (m.step.2.cpu.pc.toNat : ℤ) = (m.cpu.pc.toNat + 2 + e.toInt) % 2 ^ 16 ∧
      ∀ (u : Machine) (t after : UInt16), u.Fetches (.jump t) after → u.cpu = m.cpu →
        (t.toNat : ℤ) = (m.cpu.pc.toNat + 2 + e.toInt) % 2 ^ 16 → m.SameEffect u := by
  refine ⟨Condition.holds_opposite, ?_, ?_, ?_, ?_⟩
  · intro m b cc
    exact b.execute_onCondition cc m
  · intro m b cc next fetched
    refine ⟨?_, Branch.step_of_taken fetched, ?_⟩
    · rw [fetched.next_eq, Branch.length_onCondition]
    · intro fails
      obtain ⟨cost, done⟩ := Branch.step_of_skipped fetched fails
      rw [done]
      exact ⟨cost, m.memory_resume, fetched.cpu_start⟩
  · intro m u b cc next after fetched fetched' cpu top holds
    exact Branch.sameEffect_of_taken fetched fetched' cpu top holds
  · intro m e next fetched
    refine ⟨fetched.pc_jumpBy, ?_⟩
    intro u t after fetched' cpu target
    exact Machine.sameEffect_of_jumpBy fetched fetched' cpu target

/-- A machine whose next instruction starts at the last address and goes on at the first. The stack
lies there, too, and a change of the acceptance of interrupts waits. -/
def branchingAtLastAddress (opcode low high : UInt8) (zero : Bool) : Machine where
  cpu := { Cpu.powerOn with
    pc := 0xFFFF, sp := 0x0001, pendingIme := some true
    flags := { Cpu.powerOn.flags with zero } }
  memory := ((Memory.powerOn.write 0xFFFF opcode).write 0x0000 low).write 0x0001 high
  lastCycles := 0

/-- A call that is taken, and overwrites itself; one that is not; and a jump by an offset. -/
theorem conditional_branch_at_last_address :
    let m := branchingAtLastAddress 0xCC 0x34 0x12 true
    let skips := branchingAtLastAddress 0xCC 0x34 0x12 false
    let u := branchingAtLastAddress 0xCD 0x34 0x12 true
    let short := branchingAtLastAddress 0x18 0x80 0x00 true
    let long := branchingAtLastAddress 0xC3 0x81 0xFF true
    (m.Fetches (.callIf .z 0x1234) 0x0002 ∧ skips.Fetches (.callIf .z 0x1234) 0x0002 ∧
        u.Fetches (.call 0x1234) 0x0002 ∧ short.Fetches (.jumpBy (-128)) 0x0001 ∧
        long.Fetches (.jump 0xFF81) 0x0002) ∧
      m.step.1.cost = .ok 24 ∧ m.SameEffect u ∧
      skips.step.1.cost = .ok 12 ∧ skips.step.2.memory = skips.memory ∧
      (short.step.2.cpu.pc.toNat : ℤ) = (0xFFFF + 2 + -128) % 2 ^ 16 ∧ short.SameEffect long := by
  intro m skips u short long
  obtain ⟨-, -, step, same, jump⟩ := conditional_branch
  have calls : m.Fetches (.callIf .z 0x1234) 0x0002 := ⟨by decide +kernel, by decide +kernel⟩
  have skipped : skips.Fetches (.callIf .z 0x1234) 0x0002 :=
    ⟨by decide +kernel, by decide +kernel⟩
  have calls' : u.Fetches (.call 0x1234) 0x0002 := ⟨by decide +kernel, by decide +kernel⟩
  have jumps : short.Fetches (.jumpBy (-128)) 0x0001 := ⟨by decide +kernel, by decide +kernel⟩
  have jumps' : long.Fetches (.jump 0xFF81) 0x0002 := ⟨by decide +kernel, by decide +kernel⟩
  obtain ⟨-, taken, -⟩ := step m (.call 0x1234) .z 0x0002 calls
  obtain ⟨-, -, fails⟩ := step skips (.call 0x1234) .z 0x0002 skipped
  obtain ⟨landed, long_same⟩ := jump short (-128) 0x0001 jumps
  refine ⟨⟨calls, skipped, calls', jumps, jumps'⟩, (taken rfl).1, ?_, (fails rfl).1,
    (fails rfl).2.1, landed, long_same long 0xFF81 0x0002 jumps' rfl (by decide)⟩
  exact same m u (.call 0x1234) .z 0x0002 0x0002 calls calls' rfl (fun none => nomatch none) rfl

end GameBoy
