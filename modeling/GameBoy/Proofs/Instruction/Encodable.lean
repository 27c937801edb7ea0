import GameBoy.Instruction.Cycles
import GameBoy.Proofs.Instruction.OctalTable

/-!
# Instructions that have an encoding

Not every value of `Instruction` stands in memory: no opcode loads one byte of memory with another,
or adds the flags to `HL`. `Instruction.isEncodable` says which operands occur together. Decoding
yields nothing else, and what an instruction costs is bounded for these instructions only.
-/

namespace GameBoy

/-- The operand is a register, or the byte in memory at `HL`. -/
def Source.isCoded : Source → Bool
  | .register _ | .memory .hl => true
  | .accumulator | .immediate _ | .memory _ => false

/-- The operand is a register, or the byte in memory at `HL`. -/
def Location.isCoded : Location → Bool
  | .register _ | .atHl => true
  | .accumulator => false

/-- A load has an encoding: between registers, from a constant, between a register and the byte at
`HL`, or between the accumulator and a byte that another pointer names. -/
def Destination.isLoadedFrom : Destination → Source → Bool
  | .register _, .register _ | .register _, .memory .hl | .memory .hl, .register _
  | .register _, .immediate _ | .memory .hl, .immediate _ => true
  | .memory p, .accumulator | .accumulator, .memory p => p != .hl
  | _, _ => false

/-- The instruction has an encoding. -/
def Instruction.isEncodable : Instruction → Bool
  | .load d s => d.isLoadedFrom s
  | .loadPair p _ | .addHl p | .incrementPair p | .decrementPair p => p != .af
  | .push p | .pop p => p != .sp
  | .arithmetic _ (.immediate _) => true
  | .arithmetic _ s | .testBit _ s => s.isCoded
  | .increment x | .decrement x | .swap x | .setBit _ x | .resetBit _ x => x.isCoded
  | .rotate op .accumulator =>
    [.left, .right, .leftThroughCarry, .rightThroughCarry].contains op
  | .restart n => n &&& 0x38 == n
  | _ => true

namespace Octal

variable (x : Fin 4) (y z : Fin 8)

/-- Every instruction behind the prefix has an encoding. -/
lemma isEncodable_extended : (extended x y z).isEncodable := by
  revert x y z
  decide +kernel

/-- Every entry of the table has an encoding. -/
lemma isEncodable_table (n : UInt8) (nn : UInt16) :
    (table x y z n nn).all fun e => e.1.isEncodable := by
  match x with
  | 0 => fin_cases z <;> fin_cases y <;> rfl
  | 1 => fin_cases z <;> fin_cases y <;> rfl
  | 2 => fin_cases z <;> rfl
  | 3 =>
    fin_cases z <;> fin_cases y <;>
      first
      | rfl
      | exact isEncodable_extended _ _ _

end Octal

namespace Instruction

variable {m : Memory} {pc next : UInt16} {i : Instruction}

/-- What is decoded has an encoding. -/
theorem isEncodable_of_decode (h : decode m pc = .ok (i, next)) : i.isEncodable := by
  have digits := Octal.code_digits (m.read pc)
  rw [Octal.decode_code digits.symm] at h
  split at h
  · next i' length entry =>
    obtain ⟨rfl, -⟩ := Prod.mk.inj (Except.ok.inj h)
    exact (Option.all_eq_true _ _).1 (Octal.isEncodable_table _ _ _ _ _) _ entry
  · cases h

end Instruction

/-! ## The cost of an instruction -/

/-- A byte is reached in twelve cycles at most. -/
lemma Pointer.cycles_le (p : Pointer) : p.cycles ≤ 12 := by
  cases p <;> simp [cycles]

/-- A byte is read in twelve cycles at most. -/
lemma Source.cycles_le (s : Source) : s.cycles ≤ 12 := by
  cases s with
  | memory p => exact p.cycles_le
  | _ => simp [cycles]

/-- A byte is written in twelve cycles at most. -/
lemma Destination.cycles_le (d : Destination) : d.cycles ≤ 12 := by
  cases d with
  | memory p => exact p.cycles_le
  | _ => simp [cycles]

/-- One of the operands of a load takes little time. -/
lemma Destination.cycles_add_le {d : Destination} {s : Source} (h : d.isLoadedFrom s) :
    d.cycles + s.cycles ≤ 12 := by
  cases d with
  | register _ | accumulator => exact (Nat.zero_add s.cycles).trans_le s.cycles_le
  | memory p =>
    cases s with
    | register _ | accumulator => exact p.cycles_le
    | immediate n =>
      -- A constant is loaded to the byte at `HL` only.
      cases p with
      | hl => exact Nat.le_add_right 8 4
      | _ => cases h
    | memory q => cases p <;> cases h

lemma Location.cycles_bounds (x : Location) : 4 ≤ x.cycles ∧ x.cycles ≤ 12 := by
  cases x <;> simp [cycles]

lemma Location.prefixedCycles_bounds (x : Location) :
    4 ≤ x.prefixedCycles ∧ x.prefixedCycles ≤ 16 := by
  cases x <;> simp [prefixedCycles]

/-- **The cost of an instruction** that has an encoding is between four and twenty-four cycles. -/
theorem Instruction.cycles_bounds {i : Instruction} (h : i.isEncodable) (f : Flags) :
    4 ≤ i.cycles f ∧ i.cycles f ≤ 24 := by
  cases i with
  | load d s =>
    have := Destination.cycles_add_le h
    simp only [cycles]
    omega
  | arithmetic op s | testBit n s =>
    have := s.cycles_le
    simp only [cycles]
    omega
  | increment x | decrement x =>
    have := x.cycles_bounds
    simp only [cycles]
    omega
  | rotate op x | swap x | setBit n x | resetBit n x =>
    have := x.prefixedCycles_bounds
    simp only [cycles]
    omega
  | jumpIf cc a | jumpByIf cc e | callIf cc a | retIf cc =>
    simp only [cycles]
    split_ifs <;> decide
  | _ => simp [cycles]

end GameBoy
