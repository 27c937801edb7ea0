import GameBoy.Proofs.Alu.Bits
import GameBoy.Proofs.Instruction.OctalTable
import GameBoy.Proofs.Machine.ByteArithmetic

/-!
# Single bits

The instructions that set and clear a bit make a byte an array of eight places, which do not depend
on each other. One such instruction is a write to one place (`BitWrite`). What a sequence of them
does is said twice: to the machine, it replaces one byte by the one that the writes make of it
(`Machine.writeBits_eq`), and to the byte, it leaves at every place what was written there last
(`BitWrite.testBit_applyAll`). The first is an induction in which each replacement undoes the one
before it, which needs a location that retains what is written; the second knows nothing of the
machine.
-/

namespace GameBoy

/-! ## Writes to the bits of a byte -/

/-- A write to one bit of a byte. -/
structure BitWrite where
  /-- The place of the bit. -/
  place : Fin 8
  /-- The value that is written. -/
  value : Bool
  deriving DecidableEq, Repr

namespace BitWrite

/-- The byte after a write. -/
def apply (w : BitWrite) (b : UInt8) : UInt8 :=
  if w.value then Alu.setBit w.place b else Alu.resetBit w.place b

/-- The byte after one write after the other. -/
def applyAll (ws : List BitWrite) (b : UInt8) : UInt8 := ws.foldl (fun b w => w.apply b) b

/-- The value that was written last to a place, or the initial one if none was. -/
def lastAt (ws : List BitWrite) (k : Fin 8) (initial : Bool) : Bool :=
  ((ws.filter (·.place = k)).getLast?.map value).getD initial

variable (w : BitWrite) (ws : List BitWrite) (b : UInt8) (k : Fin 8)

/-- A write keeps the other places. -/
lemma testBit_apply :
    (w.apply b).toNat.testBit k = if w.place = k then w.value else b.toNat.testBit k := by
  unfold apply
  cases w.value with
  | false =>
    rw [if_neg Bool.false_ne_true, Alu.testBit_resetBit b w.place k k.isLt]
    simp only [Fin.ext_iff]
  | true =>
    rw [if_pos rfl, Alu.testBit_setBit]
    simp only [Fin.ext_iff]

/-- The first write counts as an initial value. -/
lemma lastAt_cons (initial : Bool) :
    lastAt (w :: ws) k initial = lastAt ws k (if w.place = k then w.value else initial) := by
  unfold lastAt
  by_cases here : w.place = k
  · rw [List.filter_cons_of_pos (by simpa using here), List.getLast?_cons, if_pos here,
      Option.getD_map]
    rfl
  · rw [List.filter_cons_of_neg (by simpa using here), if_neg here]

/-- Every place holds what was written there last. -/
theorem testBit_applyAll :
    (applyAll ws b).toNat.testBit k = lastAt ws k (b.toNat.testBit k) := by
  induction ws generalizing b with
  | nil => rfl
  | cons w ws ih =>
    rw [lastAt_cons, ← w.testBit_apply b k]
    exact ih (w.apply b)

end BitWrite

/-! ## Writes by instructions -/

/-- The instruction that makes a write to the byte at a location. -/
def BitWrite.on (w : BitWrite) (x : Location) : Instruction :=
  if w.value then .setBit w.place x else .resetBit w.place x

/-- Behind the prefix, an opcode means what the table behind the prefix says. -/
lemma Octal.decode_prefixed {m : Memory} {pc : UInt16} {x : Fin 4} {y z : Fin 8}
    (first : m.read pc = 0xCB) (second : m.read (pc + 1) = code x y z) :
    Instruction.decode m pc = .ok (extended x y z, pc + 2) := by
  rw [Instruction.decode, first, ← prefixed_code, ← second]
  rfl

/-- Every write to a bit has an opcode behind the prefix. -/
lemma BitWrite.decode_on (w : BitWrite) {m : Memory} {pc : UInt16} {z : Fin 8}
    (first : m.read pc = 0xCB)
    (second : (m.read (pc + 1)).toNat =
      64 * (if w.value then 3 else 2) + 8 * w.place.val + z.val) :
    Instruction.decode m pc = .ok (w.on (Octal.location z), pc + 2) := by
  obtain ⟨n, value⟩ := w
  cases value with
  | false => exact Octal.decode_prefixed (x := 2) first (Octal.eq_code second)
  | true => exact Octal.decode_prefixed (x := 3) first (Octal.eq_code second)

/-- The byte with a code is the same for reading and for changing it in place. -/
lemma Octal.readSource_source (m : Machine) (z : Fin 8) :
    m.readSource (source z) = m.byteAt (location z) := by
  fin_cases z <;> rfl

/-- Only one code stands for a byte in memory. -/
lemma Octal.eq_six_of_location (z : Fin 8) : location z = .atHl → z = 6 := by
  revert z
  decide

namespace Machine

variable (m : Machine) {x : Location} (retained : x = .atHl → Retains m.cpu.hl)

/-- Writes to the byte at a location, one bit after the other. -/
def writeBits (m : Machine) (ws : List BitWrite) (x : Location) : Machine :=
  ws.foldl (fun m w => m.execute (w.on x)) m

lemma execute_bitWrite (w : BitWrite) (x : Location) :
    m.execute (w.on x) = m.replace x (w.apply (m.byteAt x)) m.cpu.flags := by
  obtain ⟨n, value⟩ := w
  cases value <;> rfl

include retained

/-- Of two replacements, the second stays. -/
lemma replace_replace (v w : UInt8) (f g : Flags) :
    (m.replace x v f).replace x w g = m.replace x w g := by
  cases x with
  | register r => cases r <;> rfl
  | accumulator => rfl
  | atHl =>
    have twice := m.memory.write_write v w (retained rfl)
    exact congrArg (fun memory => { m with cpu := { m.cpu with flags := g }, memory }) twice

/-- Replacing the byte at a location and the flags by themselves changes nothing. -/
lemma replace_byteAt : m.replace x (m.byteAt x) m.cpu.flags = m := by
  cases x with
  | register r => cases r <;> rfl
  | accumulator => rfl
  | atHl =>
    have same := m.memory.write_read (retained rfl)
    exact congrArg (fun memory => { m with memory }) same

/-- A sequence of writes replaces one byte by what the writes make of it. -/
theorem writeBits_eq (ws : List BitWrite) :
    m.writeBits ws x = m.replace x (BitWrite.applyAll ws (m.byteAt x)) m.cpu.flags := by
  induction ws generalizing m with
  | nil => exact (m.replace_byteAt retained).symm
  | cons w ws ih =>
    change (m.execute (w.on x)).writeBits ws x = _
    rw [m.execute_bitWrite, ih _ (m.retained_replace retained _ _), m.byteAt_replace x _ _ retained,
      m.flags_replace, m.replace_replace retained]
    rfl

end Machine

/-- **A byte as an array of bits.** Let the bits of a register, or of a byte in memory that retains
what is written to it, be set and cleared in any order, by the instructions to which the opcodes
behind the prefix are decoded. Afterwards every bit is what was written to it last, or what it was
before if nothing was written to it. Nothing else changes, and the flags are kept. If a bit is
tested then, the zero flag becomes its complement, the subtraction flag is cleared and the half
carry set; the carry and all else are kept. -/
theorem writeBits_independent (m : Machine) (z : Fin 8)
    (retained : z = 6 → ¬(0xFEA0 ≤ m.cpu.hl.toNat ∧ m.cpu.hl.toNat ≤ 0xFF7F)) :
    (∀ (memory : Memory) (pc : UInt16), memory.read pc = 0xCB →
      (∀ w : BitWrite,
        (memory.read (pc + 1)).toNat = 64 * (if w.value then 3 else 2) + 8 * w.place.val + z.val →
        Instruction.decode memory pc = .ok (w.on (Octal.location z), pc + 2)) ∧
      ∀ k : Fin 8,
        (memory.read (pc + 1)).toNat = 64 + 8 * k.val + z.val →
        Instruction.decode memory pc = .ok (.testBit k (Octal.source z), pc + 2)) ∧
    ∀ (ws : List BitWrite) (m' : Machine), m.writeBits ws (Octal.location z) = m' →
      (∀ k : Fin 8, (m'.byteAt (Octal.location z)).toNat.testBit k =
        BitWrite.lastAt ws k ((m.byteAt (Octal.location z)).toNat.testBit k)) ∧
      m'.cpu.flags = m.cpu.flags ∧
      m' = m.replace (Octal.location z) (m'.byteAt (Octal.location z)) m.cpu.flags ∧
      ∀ k : Fin 8, m'.execute (.testBit k (Octal.source z)) =
        m'.setFlags
          { zero := !(m'.byteAt (Octal.location z)).toNat.testBit k
            subtract := false
            halfCarry := true
            carry := m.cpu.flags.carry } := by
  have atHl : Octal.location z = .atHl → Retains m.cpu.hl := fun inMemory =>
    retained (Octal.eq_six_of_location z inMemory)
  refine ⟨?_, ?_⟩
  · intro memory pc first
    refine ⟨fun w second => w.decode_on first second, fun k second => ?_⟩
    exact Octal.decode_prefixed (x := 1) first (Octal.eq_code second)
  · intro ws m' run
    rw [m.writeBits_eq atHl] at run
    have byte : m'.byteAt (Octal.location z) =
        BitWrite.applyAll ws (m.byteAt (Octal.location z)) := by
      rw [← run, m.byteAt_replace _ _ _ atHl]
    have flags : m'.cpu.flags = m.cpu.flags := by
      rw [← run, m.flags_replace]
    refine ⟨fun k => ?_, flags, ?_, fun k => ?_⟩
    · rw [byte, BitWrite.testBit_applyAll]
    · rw [byte, run]
    · have still : m'.afterSource (Octal.source z) = m' := by
        fin_cases z <;> rfl
      rw [Machine.execute, still, Octal.readSource_source, Alu.testBit_eq, flags]

/-- Through the echo region, the lowest bit of the byte with all bits set is cleared and set again,
and the highest is cleared in between. The opcode of the first instruction is at the first address,
with its prefix at the last. -/
theorem writeBits_independent_echo :
    pointingIntoEcho.cpu.hl = 0xE000 ∧
    Instruction.decode ((Memory.powerOn.write 0xFFFF 0xCB).write 0x0000 0x86) 0xFFFF =
      .ok (.resetBit 0 .atHl, 0x0001) ∧
    (pointingIntoEcho.writeBits [⟨0, false⟩, ⟨7, false⟩, ⟨0, true⟩] .atHl).cpu.flags =
      pointingIntoEcho.cpu.flags ∧
    ((pointingIntoEcho.writeBits [⟨0, false⟩, ⟨7, false⟩, ⟨0, true⟩] .atHl).byteAt
      .atHl).toNat.testBit 0 = true ∧
    ((pointingIntoEcho.writeBits [⟨0, false⟩, ⟨7, false⟩, ⟨0, true⟩] .atHl).execute
      (.testBit 7 (.memory .hl))).cpu.flags.zero = true := by
  have hl : pointingIntoEcho.cpu.hl = 0xE000 := by decide
  have outside : ¬(0xFEA0 ≤ pointingIntoEcho.cpu.hl.toNat ∧
      pointingIntoEcho.cpu.hl.toNat ≤ 0xFF7F) := by
    rw [hl]
    decide
  obtain ⟨decoding, writing⟩ := writeBits_independent pointingIntoEcho 6 fun _ => outside
  have first : ((Memory.powerOn.write 0xFFFF 0xCB).write 0x0000 0x86).read 0xFFFF = 0xCB := by
    decide +kernel
  have second : ((Memory.powerOn.write 0xFFFF 0xCB).write 0x0000 0x86).read (0xFFFF + 1) =
      0x86 := by
    decide +kernel
  generalize run : pointingIntoEcho.writeBits [⟨0, false⟩, ⟨7, false⟩, ⟨0, true⟩] .atHl = m'
  obtain ⟨bits, flags, -, test⟩ := writing _ m' run
  have cleared : (m'.byteAt .atHl).toNat.testBit 7 = false := bits 7
  have zero : (m'.execute (.testBit 7 (.memory .hl))).cpu.flags.zero =
      !(m'.byteAt .atHl).toNat.testBit 7 :=
    congrArg (fun m => m.cpu.flags.zero) (test 7)
  refine ⟨hl, (decoding _ 0xFFFF first).1 ⟨0, false⟩ ?_, flags, bits 0, ?_⟩
  · rw [second]
    rfl
  · rw [zero, cleared]
    rfl

end GameBoy
