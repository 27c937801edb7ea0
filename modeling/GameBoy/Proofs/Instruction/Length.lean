import GameBoy.Proofs.Instruction.OctalTable

/-!
# The length of an instruction

How many bytes an instruction has follows from the instruction itself: one for the opcode, one more
behind the prefix, and those of its constant operands. `Instruction.length` says so without looking
at an opcode, and decoding agrees with it: the next instruction begins where the bytes of this one
end. The byte behind `STOP` carries nothing and belongs to the instruction all the same.
-/

namespace GameBoy

/-! ## The length -/

/-- The bytes behind the opcode that spell a pointer. -/
def Pointer.operandLength : Pointer → ℕ
  | .bc | .de | .hl | .hlUp | .hlDown | .highPageC => 0
  | .highPage _ => 1
  | .direct _ => 2

/-- The bytes behind the opcode that spell a source. -/
def Source.operandLength : Source → ℕ
  | .register _ | .accumulator => 0
  | .immediate _ => 1
  | .memory p => p.operandLength

/-- The bytes behind the opcode that spell a destination. -/
def Destination.operandLength : Destination → ℕ
  | .register _ | .accumulator => 0
  | .memory p => p.operandLength

namespace Instruction

/-- The number of bytes of an instruction. The turns that imply the accumulator need no prefix. -/
def length : Instruction → ℕ
  | .stop => 2
  | .load d s => 1 + d.operandLength + s.operandLength
  | .arithmetic _ s => 1 + s.operandLength
  | .rotate _ .accumulator => 1
  | .rotate .. | .swap _ | .testBit .. | .setBit .. | .resetBit .. => 2
  | .loadHlSp _ | .addSp _ | .jumpBy _ | .jumpByIf .. => 2
  | .loadPair .. | .storeSp _ | .jump _ | .jumpIf .. | .call _ | .callIf .. => 3
  | _ => 1

/-- The addresses of an instruction's bytes, the opcode first; they wrap around. -/
def bytes (i : Instruction) (pc : UInt16) : List UInt16 :=
  (List.range i.length).map fun k => pc + UInt16.ofNat k

end Instruction

/-! ## Decoding -/

namespace Octal

variable (x : Fin 4) (y z : Fin 8)

/-- The instructions behind the prefix have two bytes. -/
lemma length_extended : (extended x y z).length = 2 := by
  revert x y z
  decide +kernel

/-- The lengths in the table are those of its instructions. -/
lemma length_table (n : UInt8) (nn : UInt16) :
    (table x y z n nn).all fun e => e.1.length == e.2.toNat := by
  match x with
  | 0 => fin_cases z <;> fin_cases y <;> rfl
  | 1 => fin_cases z <;> fin_cases y <;> rfl
  | 2 => fin_cases z <;> rfl
  | 3 =>
    fin_cases z <;> fin_cases y <;>
      first
      | rfl
      | exact beq_iff_eq.2 (length_extended _ _ _)

end Octal

/-- An opcode says of every instruction that it begins how long it is. -/
lemma Encoding.length_complete {op : UInt8} {e : Encoding} (h : ofOpcode? op = some e) (m : Memory)
    (a : UInt16) : (e.complete m a).length = e.length.toNat := by
  have entry : Octal.table (Octal.digits op).1 (Octal.digits op).2.1 (Octal.digits op).2.2
      (m.read a) (m.readWord a) = some (e.complete m a, e.length) := by
    rw [← Octal.reading_code, Octal.code_digits, h]
    rfl
  exact beq_iff_eq.1 ((Option.all_eq_true _ _).1 (Octal.length_table _ _ _ _ _) _ entry)

/-- What is decoded has an encoding, and the next instruction follows it. -/
lemma Instruction.exists_encoding_of_decode {m : Memory} {pc next : UInt16} {i : Instruction}
    (h : decode m pc = .ok (i, next)) :
    ∃ e, Encoding.ofOpcode? (m.read pc) = some e ∧ i = e.complete m (pc + 1) ∧
      next = pc + e.length := by
  dsimp only [decode] at h
  cases found : Encoding.ofOpcode? (m.read pc) with
  | none =>
    rw [found] at h
    cases h
  | some e =>
    rw [found] at h
    obtain ⟨rfl, rfl⟩ := Prod.mk.inj (Except.ok.inj h)
    exact ⟨e, rfl, rfl, rfl⟩

/-- The next instruction begins where the bytes of the decoded one end. -/
theorem Instruction.length_of_decode {m : Memory} {pc next : UInt16} {i : Instruction}
    (h : decode m pc = .ok (i, next)) : (next - pc).toNat = i.length := by
  obtain ⟨e, found, rfl, rfl⟩ := exists_encoding_of_decode h
  have offset : pc + e.length - pc = e.length := by
    rw [UInt16.add_comm, UInt16.add_sub_cancel]
  rw [offset, Encoding.length_complete found]

end GameBoy
