import GameBoy.Proofs.Machine.Locality

/-!
# Cycles and the bus

An instruction takes four clock cycles for each byte that goes over the bus, whether the byte is
fetched, read or written, and four for each cycle that it spends inside the processor. The cycles of
instructions, their lengths and their accesses are three tables that do not mention each other. With
a fourth one, `Instruction.internalCycles`, they fit together (`Instruction.cycles_eq`): first for
the operands, and then for every instruction that has an encoding.
-/

namespace GameBoy

/-! ## The operands -/

/-- A pointer costs its bytes and the access. -/
lemma Pointer.cycles_eq (p : Pointer) : p.cycles = 4 * (p.operandLength + 1) := by
  cases p <;> rfl

/-- A source costs its bytes and, if it is in memory, the access. -/
lemma Source.cycles_eq (s : Source) (c : Cpu) :
    s.cycles = 4 * (s.operandLength + (s.addressed c).length) := by
  cases s with
  | memory p => exact p.cycles_eq
  | _ => rfl

/-- A destination costs its bytes and, if it is in memory, the access. -/
lemma Destination.cycles_eq (d : Destination) (c : Cpu) :
    d.cycles = 4 * (d.operandLength + (d.written c).length) := by
  cases d with
  | memory p => exact p.cycles_eq
  | _ => rfl

/-- The byte of an increment or a decrement is read and written. -/
lemma Location.cycles_eq (x : Location) (c : Cpu) :
    x.cycles = 4 * (1 + ((x.addressed c).length + (x.addressed c).length)) := by
  cases x <;> rfl

/-- The byte that an instruction behind the prefix changes is read and written. -/
lemma Location.prefixedCycles_eq {x : Location} (coded : x.isCoded) (c : Cpu) :
    x.prefixedCycles = 4 * (2 + ((x.addressed c).length + (x.addressed c).length)) := by
  cases x with
  | accumulator => cases coded
  | _ => rfl

/-- An operand behind the prefix has no bytes of its own. -/
lemma Source.operandLength_of_coded {s : Source} (coded : s.isCoded) : s.operandLength = 0 := by
  cases s with
  | memory p =>
    cases p with
    | hl => rfl
    | _ => cases coded
  | immediate n => cases coded
  | _ => rfl

/-! ## The instructions -/

namespace Instruction

/-- The cycles that an instruction spends inside the processor when the flags are `f` before it,
besides its accesses to the memory. The byte behind `STOP` belongs to the instruction, but the time
for fetching it is not charged. -/
def internalCycles (i : Instruction) (f : Flags) : ℤ :=
  match i with
  | .stop => -1
  | .ret | .retInterrupt | .loadSpHl => 1
  | .push _ | .restart _ | .call _ | .jump _ | .jumpBy _ => 1
  | .addHl _ | .incrementPair _ | .decrementPair _ | .loadHlSp _ => 1
  | .callIf cc _ | .jumpIf cc _ | .jumpByIf cc _ => if cc.holds f then 1 else 0
  | .retIf cc => if cc.holds f then 2 else 1
  | .addSp _ => 2
  | _ => 0

/-- **The cycles of an instruction** that has an encoding are four for each of its bytes, for each
access to its data, and for each internal cycle. -/
theorem cycles_eq {i : Instruction} (encodable : i.isEncodable) (c : Cpu) :
    (i.cycles c.flags : ℤ) =
      4 * (i.length + ((i.dataRead c).length + (i.written c).length) +
        i.internalCycles c.flags) := by
  cases i with
  | load d s =>
    have written := d.cycles_eq c
    have read := s.cycles_eq c
    simp only [cycles, length, dataRead, Instruction.written, internalCycles]
    omega
  | arithmetic op s =>
    have read := s.cycles_eq c
    simp only [cycles, length, dataRead, Instruction.written, internalCycles, List.length_nil]
    omega
  | testBit n s =>
    have read := s.cycles_eq c
    rw [Source.operandLength_of_coded encodable] at read
    simp only [cycles, length, dataRead, Instruction.written, internalCycles, List.length_nil]
    omega
  | increment x | decrement x =>
    have changed := x.cycles_eq c
    simp only [cycles, length, dataRead, Instruction.written, internalCycles]
    omega
  | swap x | setBit n x | resetBit n x =>
    have changed := Location.prefixedCycles_eq encodable c
    simp only [cycles, length, dataRead, Instruction.written, internalCycles]
    omega
  | rotate op x => cases x <;> rfl
  | jumpIf cc a | jumpByIf cc e | callIf cc a | retIf cc =>
    simp only [cycles, length, dataRead, Instruction.written, internalCycles]
    split_ifs <;> rfl
  | _ => rfl

end Instruction

/-! ## Steps -/

/-- **The cost of a step** that executes an instruction is four cycles for each byte that goes over
the bus and for each internal cycle. -/
theorem Console.cycles_eq_touched {c : Console} {i : Instruction} {cycles : ℕ}
    (executed : c.step.1 = .executed i cycles) :
    (cycles : ℤ) = 4 * (c.touched.length + i.internalCycles c.machine.cpu.flags) := by
  have transition : c.Transition c.step.1 c.step.2 := transition_of_step rfl
  have length : c.touched.length =
      i.length + ((i.dataRead c.machine.cpu).length + (i.written c.machine.cpu).length) := by
    rw [touched, executed, Event.touched, List.length_append, List.length_append,
      Instruction.bytes, List.length_map, List.length_range]
  rw [executed] at transition
  generalize c.step.2 = d at transition
  cases transition with
  | stepped quiet step =>
    cases step with
    | executed running decoded =>
      rw [length, Instruction.cycles_eq (Instruction.isEncodable_of_decode decoded) c.machine.cpu]
      push_cast
      rfl

/-- **Cycles are bus activity.** Let an instruction be decoded anywhere in memory, and run as a
program on the bus from any registers, which does what executing it does. Its clock cycles are four
for each of its bytes, for each access of the run, and for each internal cycle. -/
theorem cycles_eq_busActivity {m : Machine} {pc next : UInt16} {i : Instruction}
    (decoded : Instruction.decode m.memory pc = .ok (i, next)) :
    (i.program m.cpu).run m.memory = ((m.execute i).cpu, (m.execute i).memory) ∧
    (i.cycles m.cpu.flags : ℤ) =
      4 * ((next - pc).toNat + ((i.program m.cpu).accesses m.memory).length +
        i.internalCycles m.cpu.flags) := by
  have encodable := Instruction.isEncodable_of_decode decoded
  refine ⟨i.run_program m, ?_⟩
  rw [Instruction.length_of_decode decoded, i.accesses_program m.cpu m.memory encodable,
    List.length_append, Instruction.cycles_eq encodable m.cpu]
  push_cast
  rfl

/-- A machine with a call on the condition that the last result was zero, which it was. The opcode
of the call is the last byte of the memory, and the address is in the first two. -/
def callingAcrossTheEnd : Machine where
  cpu := { Cpu.powerOn with sp := 0xFFFE, flags := { Cpu.powerOn.flags with zero := true } }
  memory := ((Memory.powerOn.write 0xFFFF 0xCC).write 0x0000 0x34).write 0x0001 0x12
  lastCycles := 0

/-- The call has three bytes, it pushes two, and it spends one cycle inside the processor. -/
theorem cycles_eq_busActivity_call :
    (Instruction.decode callingAcrossTheEnd.memory 0xFFFF = .ok (.callIf .z 0x1234, 0x0002) ∧
      ((Instruction.callIf .z 0x1234).program callingAcrossTheEnd.cpu).accesses
        callingAcrossTheEnd.memory = [0xFFFD, 0xFFFC]) ∧
    (Instruction.callIf .z 0x1234).cycles callingAcrossTheEnd.cpu.flags = 24 := by
  have decoded : Instruction.decode callingAcrossTheEnd.memory 0xFFFF =
      .ok (.callIf .z 0x1234, 0x0002) := by
    decide +kernel
  have pushed : ((Instruction.callIf .z 0x1234).program callingAcrossTheEnd.cpu).accesses
      callingAcrossTheEnd.memory = [0xFFFD, 0xFFFC] := by
    decide +kernel
  obtain ⟨-, cost⟩ := cycles_eq_busActivity decoded
  have internal :
      (Instruction.callIf .z 0x1234).internalCycles callingAcrossTheEnd.cpu.flags = 1 := by
    decide
  have length : ((0x0002 : UInt16) - 0xFFFF).toNat = 3 := by decide
  rw [pushed, internal, length] at cost
  exact ⟨⟨decoded, pushed⟩, Int.ofNat.inj cost⟩

end GameBoy
