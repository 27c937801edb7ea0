import GameBoy.Proofs.Instruction.Length

/-!
# How an instruction is spelled

`Instruction.spelling` goes the way back from an instruction to its bytes. It is written down from
the instruction alone, by the codes of its operands, and knows nothing of the decoder; the values
that no opcode stands for are given some bytes as well. Every entry of the octal table is spelled
by the digits at which it stands and the bytes behind them, and so an instruction that was decoded
once is decoded wherever its spelling stands, and nowhere else. `STOP` is spelled by its opcode:
the byte behind it is passed over and carries nothing.
-/

namespace GameBoy

/-! ## The codes of operands -/

/-- The three-bit code of a byte to be read; the byte in memory takes the code that no register
has. -/
def Source.code : Source → UInt8
  | .register r => r.code
  | .memory _ => 6
  | .accumulator | .immediate _ => 7

/-- The three-bit code of a byte to be written. -/
def Destination.code : Destination → UInt8
  | .register r => r.code
  | .memory _ => 6
  | .accumulator => 7

/-- The three-bit code of a byte to be changed. -/
def Location.code : Location → UInt8
  | .register r => r.code
  | .atHl => 6
  | .accumulator => 7

/-- The two-bit code of a word register; the stack pointer and the accumulator with the flags share
one, because no instruction takes both. -/
def Pair.code : Pair → UInt8
  | .bc => 0 | .de => 1 | .hl => 2 | .sp | .af => 3

/-- The two-bit code of a condition. -/
def Condition.code : Condition → UInt8
  | .nz => 0 | .z => 1 | .nc => 2 | .c => 3

/-- The three-bit code of an operation on the accumulator. -/
def Arithmetic.code : Arithmetic → UInt8
  | .add => 0 | .addWithCarry => 1 | .subtract => 2 | .subtractWithCarry => 3
  | .and => 4 | .xor => 5 | .or => 6 | .compare => 7

/-- The three-bit code of a movement of bits; the exchange of halves has the code in between. -/
def Rotation.code : Rotation → UInt8
  | .left => 0 | .right => 1 | .leftThroughCarry => 2 | .rightThroughCarry => 3
  | .shiftLeft => 4 | .shiftRightArithmetic => 5 | .shiftRightLogical => 7

/-! ## The spelling -/

/-- An opcode with the word behind it, lower byte first. -/
def spellWord (opcode : UInt8) (w : UInt16) : List UInt8 := [opcode, Word.low w, Word.high w]

/-- The bytes that store the accumulator where a pointer points. -/
def Pointer.storeSpelling : Pointer → List UInt8
  | .bc => [0x02] | .de => [0x12] | .hlUp => [0x22] | .hlDown => [0x32]
  | .highPage n => [0xE0, n]
  | .highPageC => [0xE2]
  | .direct a => spellWord 0xEA a
  | .hl => [0x77]

/-- The bytes that load the accumulator from where a pointer points. -/
def Pointer.loadSpelling : Pointer → List UInt8
  | .bc => [0x0A] | .de => [0x1A] | .hlUp => [0x2A] | .hlDown => [0x3A]
  | .highPage n => [0xF0, n]
  | .highPageC => [0xF2]
  | .direct a => spellWord 0xFA a
  | .hl => [0x7E]

namespace Instruction

/-- The bytes that an instruction is determined by, the opcode first. -/
def spelling : Instruction → List UInt8
  | .nop => [0x00]
  | .stop => [0x10]
  | .halt => [0x76]
  | .load (.memory p) .accumulator => p.storeSpelling
  | .load .accumulator (.memory p) => p.loadSpelling
  | .load d (.immediate n) => [0x06 + 8 * d.code, n]
  | .load d s => [0x40 + 8 * d.code + s.code]
  | .loadPair p w => spellWord (0x01 + 16 * p.code) w
  | .storeSp a => spellWord 0x08 a
  | .loadSpHl => [0xF9]
  | .loadHlSp e => [0xF8, e.toUInt8]
  | .push p => [0xC5 + 16 * p.code]
  | .pop p => [0xC1 + 16 * p.code]
  | .arithmetic op (.immediate n) => [0xC6 + 8 * op.code, n]
  | .arithmetic op s => [0x80 + 8 * op.code + s.code]
  | .increment x => [0x04 + 8 * x.code]
  | .decrement x => [0x05 + 8 * x.code]
  | .addHl p => [0x09 + 16 * p.code]
  | .incrementPair p => [0x03 + 16 * p.code]
  | .decrementPair p => [0x0B + 16 * p.code]
  | .addSp e => [0xE8, e.toUInt8]
  | .rotate op .accumulator => [0x07 + 8 * op.code]
  | .rotate op x => [0xCB, 8 * op.code + x.code]
  | .swap x => [0xCB, 0x30 + x.code]
  | .testBit n s => [0xCB, 0x40 + 8 * UInt8.ofNat n + s.code]
  | .resetBit n x => [0xCB, 0x80 + 8 * UInt8.ofNat n + x.code]
  | .setBit n x => [0xCB, 0xC0 + 8 * UInt8.ofNat n + x.code]
  | .decimalAdjust => [0x27]
  | .complement => [0x2F]
  | .setCarry => [0x37]
  | .complementCarry => [0x3F]
  | .jump a => spellWord 0xC3 a
  | .jumpHl => [0xE9]
  | .jumpIf cc a => spellWord (0xC2 + 8 * cc.code) a
  | .jumpBy e => [0x18, e.toUInt8]
  | .jumpByIf cc e => [0x20 + 8 * cc.code, e.toUInt8]
  | .call a => spellWord 0xCD a
  | .callIf cc a => spellWord (0xC4 + 8 * cc.code) a
  | .ret => [0xC9]
  | .retIf cc => [0xC0 + 8 * cc.code]
  | .retInterrupt => [0xD9]
  | .restart n => [0xC7 + n]
  | .disableInterrupts => [0xF3]
  | .enableInterrupts => [0xFB]

/-- The number of bytes that an instruction is determined by: all of them, but for `STOP`. -/
def spelledLength : Instruction → ℕ
  | .stop => 1
  | i => i.length

end Instruction

/-- The first `n` bytes from an address on; addresses wrap around. -/
def Memory.bytesAt (m : Memory) (p : UInt16) (n : ℕ) : List UInt8 :=
  (List.range n).map fun k => m.read (p + UInt16.ofNat k)

/-! ## The entries of the table -/

namespace Octal

variable (x : Fin 4) (y z : Fin 8)

/-- Behind the prefix, an instruction is spelled by its digits. -/
lemma spelling_extended : (extended x y z).spelling = [0xCB, code x y z] := by
  revert x y z
  decide +kernel

/-- The instructions behind the prefix are determined by both of their bytes. -/
lemma spelledLength_extended : (extended x y z).spelledLength = 2 := by
  have length := length_extended x y z
  -- None of them is `STOP`, and so all their bytes count.
  match x with
  | 0 => fin_cases y <;> exact length
  | 1 | 2 | 3 => exact length

/-- An entry of the table is spelled by the digits at which it stands and the word behind them. -/
lemma spelling_table (w : UInt16) :
    (table x y z (Word.low w) w).all fun e =>
      e.1.spelling == (spellWord (code x y z) w).take e.1.spelledLength := by
  have behindPrefix (v h : UInt8) :
      (extended (digits v).1 (digits v).2.1 (digits v).2.2).spelling =
        [0xCB, v, h].take
          (extended (digits v).1 (digits v).2.1 (digits v).2.2).spelledLength := by
    rw [spelling_extended, spelledLength_extended, code_digits]
    rfl
  match x with
  | 0 => fin_cases z <;> fin_cases y <;> exact beq_iff_eq.2 rfl
  | 1 => fin_cases z <;> fin_cases y <;> exact beq_iff_eq.2 rfl
  | 2 => fin_cases z <;> fin_cases y <;> exact beq_iff_eq.2 rfl
  | 3 =>
    fin_cases z <;> fin_cases y <;>
      first
      | rfl
      | exact beq_iff_eq.2 rfl
      | exact beq_iff_eq.2 (behindPrefix _ _)

end Octal

/-! ## Decoding -/

namespace Memory

variable (m : Memory) (p : UInt16)

lemma length_bytesAt (n : ℕ) : (m.bytesAt p n).length = n := by
  rw [bytesAt, List.length_map, List.length_range]

/-- The first three bytes from an address on are an opcode with the word behind it. -/
lemma bytesAt_three : m.bytesAt p 3 = spellWord (m.read p) (m.readWord (p + 1)) := by
  have first : p + UInt16.ofNat 0 = p := UInt16.add_zero p
  have last : p + 1 + 1 = p + UInt16.ofNat 2 := UInt16.add_assoc p 1 1
  rw [spellWord, readWord, Word.low_ofBytes, Word.high_ofBytes, last]
  exact congrArg (fun a => [m.read a, _, _]) first

/-- Two places hold the same bytes. -/
lemma bytesAt_eq_iff {m m' : Memory} {p p' : UInt16} {n : ℕ} :
    m.bytesAt p n = m'.bytesAt p' n ↔
      ∀ k < n, m.read (p + UInt16.ofNat k) = m'.read (p' + UInt16.ofNat k) := by
  rw [bytesAt, bytesAt, List.map_inj_left]
  simp only [List.mem_range]

/-- Of two numbers of bytes, the smaller one is found at the beginning. -/
lemma bytesAt_eq_take {n k : ℕ} (h : n ≤ k) : m.bytesAt p n = (m.bytesAt p k).take n := by
  rw [bytesAt, bytesAt, ← List.map_take, List.take_range, min_eq_left h]

end Memory

/-- An encoding is completed in the same way by the same bytes. -/
lemma Encoding.complete_congr {e : Encoding} {m m' : Memory} {a a' : UInt16}
    (same : ∀ k, k + 1 < e.length.toNat →
      m'.read (a' + UInt16.ofNat k) = m.read (a + UInt16.ofNat k)) :
    e.complete m' a' = e.complete m a := by
  cases e with
  | alone i => rfl
  | withByte f =>
    have byte : m'.read (a' + 0) = m.read (a + 0) := same 0 (by simp [length])
    rw [UInt16.add_zero, UInt16.add_zero] at byte
    rw [complete, complete, byte]
  | withWord f =>
    have low : m'.read (a' + 0) = m.read (a + 0) := same 0 (by simp [length])
    have high : m'.read (a' + 1) = m.read (a + 1) := same 1 (by simp [length])
    rw [UInt16.add_zero, UInt16.add_zero] at low
    rw [complete, complete, Memory.readWord, Memory.readWord, low, high]

namespace Instruction

variable {m m' : Memory} {p p' next : UInt16} {i : Instruction}

lemma spelledLength_of_ne_stop (h : i ≠ .stop) : i.spelledLength = i.length := by
  unfold spelledLength
  split
  · contradiction
  · rfl

/-- The opcode belongs to the spelling, and no instruction has more than three bytes. -/
lemma spelledLength_bounds (h : decode m p = .ok (i, next)) :
    0 < i.spelledLength ∧ i.spelledLength ≤ 3 := by
  obtain ⟨e, found, rfl, rfl⟩ := exists_encoding_of_decode h
  have length := Encoding.length_complete found m (p + 1)
  by_cases stop : e.complete m (p + 1) = .stop
  · rw [stop]
    decide
  · rw [spelledLength_of_ne_stop stop, length]
    cases e <;> simp [Encoding.length]

/-- Where an instruction is decoded, its spelling stands. -/
lemma spelling_of_decode (h : decode m p = .ok (i, next)) :
    m.bytesAt p i.spelledLength = i.spelling := by
  rw [m.bytesAt_eq_take p (spelledLength_bounds h).2, m.bytesAt_three]
  have digits := Octal.code_digits (m.read p)
  have low : m.read (p + 1) = Word.low (m.readWord (p + 1)) := (Word.low_ofBytes _ _).symm
  rw [Octal.decode_code digits.symm, low] at h
  split at h
  · next i' length entry =>
    obtain ⟨rfl, -⟩ := Prod.mk.inj (Except.ok.inj h)
    have spelled := (Option.all_eq_true _ _).1 (Octal.spelling_table _ _ _ _) _ entry
    rw [digits] at spelled
    exact (beq_iff_eq.1 spelled).symm
  · cases h

/-- `STOP` has one opcode. -/
lemma read_of_decode_stop (h : decode m p = .ok (.stop, next)) : m.read p = 0x10 := by
  have spelled : [m.read (p + UInt16.ofNat 0)] = [0x10] := spelling_of_decode h
  rw [← List.singleton_inj.1 spelled]
  exact congrArg m.read (UInt16.add_zero p).symm

/-- Decoding depends on no more than the bytes by which the instruction is determined. -/
lemma decode_congr (h : decode m p = .ok (i, next))
    (same : m'.bytesAt p' i.spelledLength = m.bytesAt p i.spelledLength) :
    decode m' p' = .ok (i, p' + UInt16.ofNat i.length) := by
  have bytes := Memory.bytesAt_eq_iff.1 same
  have opcode : m'.read (p' + 0) = m.read (p + 0) := bytes 0 (spelledLength_bounds h).1
  rw [UInt16.add_zero, UInt16.add_zero] at opcode
  obtain ⟨e, found, rfl, rfl⟩ := exists_encoding_of_decode h
  have completed : e.complete m' (p' + 1) = e.complete m (p + 1) := by
    by_cases stop : e.complete m (p + 1) = .stop
    · -- The byte behind the opcode may differ here, and it is passed over.
      rw [stop] at h
      rw [read_of_decode_stop h] at found
      rw [← Option.some.inj found]
      rfl
    · rw [spelledLength_of_ne_stop stop, Encoding.length_complete found] at bytes
      refine Encoding.complete_congr fun k hk => ?_
      have step (a : UInt16) : a + 1 + UInt16.ofNat k = a + UInt16.ofNat (k + 1) := by
        rw [UInt16.ofNat_add, UInt16.add_assoc, UInt16.add_comm 1]
        rfl
      rw [step, step]
      exact bytes (k + 1) hk
  have length : e.length = UInt16.ofNat (e.complete m (p + 1)).length := by
    rw [Encoding.length_complete found, UInt16.ofNat_toNat]
  dsimp only [decode]
  rw [opcode, found, ← length]
  exact congrArg (fun i => Except.ok (i, p' + e.length)) completed

/-- **Decoding is injective.** If the same instruction is decoded at two places, of one memory or of
two, then the next instruction is as far away from the one as from the other, and both hold the same
bytes up to there; of `STOP` the opcode is the same, and the byte behind it is free. The instruction
has one spelling, which is found where it is decoded, and it is decoded where that is found. -/
theorem decode_injective {m₁ m₂ : Memory} {p₁ p₂ n₁ n₂ : UInt16} {i : Instruction}
    (first : decode m₁ p₁ = .ok (i, n₁)) (second : decode m₂ p₂ = .ok (i, n₂)) :
    n₁ - p₁ = n₂ - p₂ ∧
      (i ≠ .stop → m₁.bytesAt p₁ (n₁ - p₁).toNat = m₂.bytesAt p₂ (n₂ - p₂).toNat) ∧
      (i = .stop → m₁.read p₁ = m₂.read p₂) ∧
      ∀ m p, decode m p = .ok (i, p + (n₁ - p₁)) ↔
        m.bytesAt p i.spelling.length = i.spelling := by
  have spelled₁ := spelling_of_decode first
  have spelled₂ := spelling_of_decode second
  have length : i.spelling.length = i.spelledLength := by
    rw [← spelled₁, Memory.length_bytesAt]
  have offset : n₁ - p₁ = UInt16.ofNat i.length := by
    rw [← length_of_decode first, UInt16.ofNat_toNat]
  refine ⟨?_, fun going => ?_, ?_, fun m p => ⟨fun h => ?_, fun h => ?_⟩⟩
  · rw [offset, ← length_of_decode second, UInt16.ofNat_toNat]
  · rw [length_of_decode first, length_of_decode second, ← spelledLength_of_ne_stop going, spelled₁,
      spelled₂]
  · rintro rfl
    rw [read_of_decode_stop first, read_of_decode_stop second]
  · rw [length, spelling_of_decode h]
  · rw [length, ← spelled₁] at h
    rw [offset]
    exact decode_congr first h

/-- A jump in two places, once at the end of the address space, and what is read of it. -/
theorem decode_injective_jump :
    let m := ((Memory.powerOn.write 0xFFFF 0xC3).writeWord 0x0000 0x1234)
    let m' := ((Memory.powerOn.write 0xC000 0xC3).writeWord 0xC001 0x1234)
    decode m 0xFFFF = .ok (.jump 0x1234, 0x0002) ∧ decode m' 0xC000 = .ok (.jump 0x1234, 0xC003) ∧
      m.bytesAt 0xFFFF 3 = m'.bytesAt 0xC000 3 := by
  have first : decode ((Memory.powerOn.write 0xFFFF 0xC3).writeWord 0x0000 0x1234) 0xFFFF =
      .ok (.jump 0x1234, 0x0002) := by
    decide +kernel
  have second : decode ((Memory.powerOn.write 0xC000 0xC3).writeWord 0xC001 0x1234) 0xC000 =
      .ok (.jump 0x1234, 0xC003) := by
    decide +kernel
  exact ⟨first, second, (decode_injective first second).2.1 (by decide)⟩

end Instruction

end GameBoy
