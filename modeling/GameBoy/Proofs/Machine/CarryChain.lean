import GameBoy.Proofs.Alu.PackedDecimal
import GameBoy.Proofs.Machine.ByteArithmetic
import Mathlib.Data.Nat.Digits.Lemmas
import Mathlib.Tactic.LinearCombination

/-!
# Long binary arithmetic

A program adds or subtracts integers of many bytes byte by byte, the least significant byte first:
it loads the accumulator with a byte of the first integer and combines it with a byte of the second.
After the first byte it uses the operation that takes the carry. A `CarryChain` is such a program at
work. Between two passes it may copy bytes as it likes, or do anything else that keeps the carry, so
that the operands can be constants, registers, or bytes in memory that a moving pointer names, and
the results can be stored.

A pass is exact if its carries are counted with their weight (`Arithmetic.exact_apply`). The carry
that a pass leaves is the one that the next pass takes, so the passes add up to one equation between
the integers (`CarryChain.number_eq`), which says what the result and the last carry are.
-/

namespace GameBoy

/-! ## Integers in bytes -/

namespace Bytes

/-- The integer that a list of bytes denotes, the least significant byte first. -/
def number (bytes : List UInt8) : ℕ := Nat.ofDigits 256 (bytes.map UInt8.toNat)

/-- The bytes of an integer, the least significant byte first, with zeros up to `count` bytes. -/
def ofNumber (count n : ℕ) : List UInt8 := (Nat.digitsAppend 256 count n).map UInt8.ofNat

@[simp] theorem number_nil : number [] = 0 := rfl

@[simp] theorem number_cons (v : UInt8) (bytes : List UInt8) :
    number (v :: bytes) = v.toNat + 256 * number bytes := Nat.ofDigits_cons

/-- The bytes are digits of base 256. -/
lemma lt_of_mem_map_toNat (bytes : List UInt8) : ∀ d ∈ bytes.map UInt8.toNat, d < 256 := by
  intro d member
  obtain ⟨v, -, rfl⟩ := List.mem_map.1 member
  exact v.toNat_lt

lemma number_lt (bytes : List UInt8) : number bytes < 256 ^ bytes.length := by
  have lt := Nat.ofDigits_lt_base_pow_length (by decide) (lt_of_mem_map_toNat bytes)
  rwa [List.length_map] at lt

/-- Bytes are those of the integer that they denote. -/
lemma ofNumber_number (bytes : List UInt8) : ofNumber bytes.length (number bytes) = bytes := by
  have digits : Nat.digitsAppend 256 bytes.length (number bytes) = bytes.map UInt8.toNat :=
    (Nat.setInvOn_digitsAppend_ofDigits (by decide) bytes.length).1
      ⟨List.length_map UInt8.toNat, lt_of_mem_map_toNat bytes⟩
  rw [ofNumber, digits, List.map_map]
  exact List.map_id'' (fun v => UInt8.ofNat_toNat) bytes

end Bytes

/-! ## One pass -/

/-- The carry of a difference stands for 256 that were borrowed. -/
lemma Alu.IsDifference.exact {a x r : UInt8} {k : Bool} {f : Flags}
    (h : IsDifference a x k r f) :
    (r.toNat : ℤ) - 256 * f.carry.toNat = a.toNat - x.toNat - k.toNat := by
  have bit := k.toNat_lt
  have ha := a.toNat_lt
  have hx := x.toNat_lt
  have congruent := h.congruent
  by_cases less : a.toNat < x.toNat + k.toNat
  · rw [h.carry.2 less, Bool.toNat_true]
    omega
  · rw [Bool.eq_false_iff.2 (mt h.carry.1 less), Bool.toNat_false]
    omega

/-- **A pass is exact.** The result, with the carry that goes out, is what the operation makes of
the two bytes, with the carry that comes in. -/
theorem Arithmetic.exact_apply {op : Arithmetic} (adds : op.isDecimal) (a x : UInt8) (f : Flags) :
    ((op.apply a x f).1.toNat : ℤ) + op.sign * (256 * (op.apply a x f).2.carry.toNat) =
      a.toNat + op.sign * (x.toNat + (op.carryIn f).toNat) := by
  have sum (k : Bool) :
      ((Alu.add a x k).1.toNat : ℤ) + 1 * (256 * (Alu.add a x k).2.carry.toNat) =
        a.toNat + 1 * (x.toNat + k.toNat) := by
    have exact := (Alu.isSum_add a x k).exact
    omega
  have difference (k : Bool) :
      ((Alu.subtract a x k).1.toNat : ℤ) + -1 * (256 * (Alu.subtract a x k).2.carry.toNat) =
        a.toNat + -1 * (x.toNat + k.toNat) := by
    have exact := (Alu.isDifference_subtract a x k).exact
    omega
  cases op with
  | add => exact sum false
  | addWithCarry => exact sum f.carry
  | subtract => exact difference false
  | subtractWithCarry => exact difference f.carry
  | and | xor | or | compare => cases adds

/-! ## Chains -/

/-- A program for long arithmetic at work: from the machine `m`, with the operation `op` on the
first bytes, it combines the bytes `xs` with the bytes `ys`, makes the bytes `rs` of them and leaves
the machine `m'`. -/
inductive CarryChain :
    Arithmetic → Machine → List UInt8 → List UInt8 → List UInt8 → Machine → Prop
  /-- There are no more bytes. -/
  | nil (op : Arithmetic) (m : Machine) : CarryChain op m [] [] [] m
  /-- Instructions that keep the carry bring two bytes into place, and a pass follows. -/
  | cons {op : Arithmetic} {m ready done m' : Machine} {xs ys rs : List UInt8}
      (loads : List Instruction) (s : Source) (kept : ∀ i ∈ loads, i.KeepsCarry)
      (loaded : loads.foldl Machine.execute m = ready)
      (passed : ready.execute (.arithmetic op s) = done)
      (rest : CarryChain op.continuation done xs ys rs m') :
      CarryChain op m (ready.cpu.a :: xs) (ready.readSource s :: ys) (done.cpu.a :: rs) m'

namespace CarryChain

variable {op : Arithmetic} {m m' : Machine} {xs ys rs : List UInt8}

/-- There is a chain for all bytes from every machine: the bytes can be constants of the program. -/
lemma exists_of_length_eq (op : Arithmetic) (m : Machine) (length : xs.length = ys.length) :
    ∃ rs m', CarryChain op m xs ys rs m' := by
  induction xs generalizing op m ys with
  | nil =>
    obtain rfl := List.length_eq_zero_iff.1 length.symm
    exact ⟨[], m, .nil op m⟩
  | cons x xs ih =>
    rcases ys with - | ⟨y, ys⟩
    · cases length
    · let ready := m.execute (.load (.register .a) (.immediate x))
      let done := ready.execute (.arithmetic op (.immediate y))
      have kept : ∀ i ∈ [Instruction.load (.register .a) (.immediate x)], i.KeepsCarry := by
        intro i member
        rw [List.mem_singleton.1 member]
        exact .inl ⟨_, _, rfl⟩
      obtain ⟨rs, m', rest⟩ := ih op.continuation done (Nat.succ.inj length)
      exact ⟨done.cpu.a :: rs, m', .cons _ (.immediate y) kept rfl rfl rest⟩

/-- A chain makes one byte of two. -/
lemma length_eq (chain : CarryChain op m xs ys rs m') : rs.length = xs.length := by
  induction chain with
  | nil => rfl
  | cons loads s kept loaded passed rest ih => exact congrArg Nat.succ ih

/-- **The equation of a chain.** The integer that a chain makes, with the carry that goes out, is
what the operation makes of the operands, with the carry that comes in. A chain without a byte
leaves the carry alone, which is right only for an operation that takes it. -/
theorem number_eq (chain : CarryChain op m xs ys rs m') (adds : op.isDecimal)
    (start : xs = [] → op.carryIn m.cpu.flags = m.cpu.flags.carry) :
    (Bytes.number rs : ℤ) + op.sign * (256 ^ xs.length * m'.cpu.flags.carry.toNat) =
      Bytes.number xs + op.sign * (Bytes.number ys + (op.carryIn m.cpu.flags).toNat) := by
  induction chain with
  | nil op m =>
    rw [start rfl]
    simp
  | @cons op m ready done m' xs ys rs loads s kept loaded passed rest ih =>
    have later : op.continuation.isDecimal := by rwa [Arithmetic.isDecimal_continuation]
    have others := ih later fun _ => Arithmetic.carryIn_continuation adds done.cpu.flags
    have carryIn : op.carryIn ready.cpu.flags = op.carryIn m.cpu.flags := by
      have carry := m.carry_foldl_execute kept
      rw [loaded] at carry
      cases op <;> first | rfl | exact carry
    have first : (done.cpu.a.toNat : ℤ) + op.sign * (256 * done.cpu.flags.carry.toNat) =
        ready.cpu.a.toNat +
          op.sign * ((ready.readSource s).toNat + (op.carryIn m.cpu.flags).toNat) := by
      rw [← carryIn, ← passed]
      exact Arithmetic.exact_apply adds ready.cpu.a (ready.readSource s) ready.cpu.flags
    -- The carry that this pass leaves is the one that the others take, so it cancels.
    rw [Arithmetic.carryIn_continuation adds, Arithmetic.sign_continuation] at others
    simp only [Bytes.number_cons, List.length_cons, pow_succ, Nat.cast_add, Nat.cast_mul,
      Nat.cast_ofNat]
    linear_combination first + 256 * others

/-- The bytes of the result are those of the integer that it denotes. -/
lemma result_eq (chain : CarryChain op m xs ys rs m') :
    rs = Bytes.ofNumber xs.length (Bytes.number rs) := by
  rw [← chain.length_eq, Bytes.ofNumber_number]

lemma number_lt (chain : CarryChain op m xs ys rs m') : Bytes.number rs < 256 ^ xs.length := by
  rw [← chain.length_eq]
  exact Bytes.number_lt rs

/-- The integer that a chain of additions makes, and its carry. -/
lemma number_add (chain : CarryChain .add m xs ys rs m') (some : xs ≠ []) :
    Bytes.number rs = (Bytes.number xs + Bytes.number ys) % 256 ^ xs.length ∧
      (m'.cpu.flags.carry = true ↔ 256 ^ xs.length ≤ Bytes.number xs + Bytes.number ys) := by
  have equation := chain.number_eq rfl fun none => absurd none some
  simp only [Arithmetic.sign, Arithmetic.carryIn, Bool.toNat_false] at equation
  apply eq_mod_of_carry chain.number_lt
  zify
  linear_combination equation

/-- The integer that a chain of subtractions makes, and its carry. -/
lemma number_subtract (chain : CarryChain .subtract m xs ys rs m') (some : xs ≠ []) :
    (Bytes.number rs : ℤ) = ((Bytes.number xs : ℤ) - Bytes.number ys) % 256 ^ xs.length ∧
      (m'.cpu.flags.carry = true ↔ Bytes.number xs < Bytes.number ys) := by
  have equation := chain.number_eq rfl fun none => absurd none some
  simp only [Arithmetic.sign, Arithmetic.carryIn, Bool.toNat_false] at equation
  have kept := eq_emod_of_borrow (c := m'.cpu.flags.carry) (x := Bytes.number xs)
    (y := Bytes.number ys) chain.number_lt (by push_cast; linear_combination equation)
  exact_mod_cast kept

end CarryChain

/-- **Long arithmetic.** Let two integers be given by `n` bytes each. From every machine there are
chains that add and that subtract them. A chain of additions makes the bytes of the sum modulo
`256 ^ n`, and its last carry tells whether the sum is larger than that; a chain of subtractions
makes those of the difference modulo `256 ^ n`, and its last carry tells whether the difference is
negative. The carries between the bytes pass through whatever is loaded and stored there. -/
theorem carryChain_exact (m : Machine) {n : ℕ} (pos : 1 ≤ n) {xs ys : List UInt8}
    (hx : xs.length = n) (hy : ys.length = n) :
    ((∃ rs m', CarryChain .add m xs ys rs m') ∧
      ∀ rs m', CarryChain .add m xs ys rs m' →
        rs = Bytes.ofNumber n ((Bytes.number xs + Bytes.number ys) % 256 ^ n) ∧
        (m'.cpu.flags.carry = true ↔ 256 ^ n ≤ Bytes.number xs + Bytes.number ys)) ∧
    ((∃ rs m', CarryChain .subtract m xs ys rs m') ∧
      ∀ rs m', CarryChain .subtract m xs ys rs m' →
        rs = Bytes.ofNumber n (((Bytes.number xs : ℤ) - Bytes.number ys) % 256 ^ n).toNat ∧
        (m'.cpu.flags.carry = true ↔ Bytes.number xs < Bytes.number ys)) := by
  have length : xs.length = ys.length := hx.trans hy.symm
  subst hx
  have some : xs ≠ [] := List.length_pos_iff.1 pos
  refine ⟨⟨CarryChain.exists_of_length_eq .add m length, ?_⟩,
    CarryChain.exists_of_length_eq .subtract m length, ?_⟩
  · intro rs m' chain
    obtain ⟨result, carry⟩ := chain.number_add some
    refine ⟨?_, carry⟩
    rw [← result]
    exact chain.result_eq
  · intro rs m' chain
    obtain ⟨result, carry⟩ := chain.number_subtract some
    refine ⟨?_, carry⟩
    rw [← result, Int.toNat_natCast]
    exact chain.result_eq

/-- In the second byte, the largest byte meets itself, and a carry or a borrow comes in. -/
theorem carryChain_exact_carries :
    (1 ≤ 2 ∧ ([0x01, 0xFF] : List UInt8).length = 2 ∧ ([0xFF, 0xFF] : List UInt8).length = 2) ∧
    (∃ m', CarryChain .add Machine.powerOn [0x01, 0xFF] [0xFF, 0xFF] [0x00, 0xFF] m' ∧
      m'.cpu.flags.carry = true) ∧
    ∃ m', CarryChain .subtract Machine.powerOn [0x01, 0xFF] [0xFF, 0xFF] [0x02, 0xFF] m' ∧
      m'.cpu.flags.carry = true := by
  have two : 1 ≤ 2 := by decide
  have hx : ([0x01, 0xFF] : List UInt8).length = 2 := rfl
  have hy : ([0xFF, 0xFF] : List UInt8).length = 2 := rfl
  obtain ⟨⟨⟨rs, m', adding⟩, sum⟩, ⟨ds, m'', subtracting⟩, difference⟩ :=
    carryChain_exact Machine.powerOn two hx hy
  refine ⟨⟨two, hx, hy⟩, ⟨m', ?_⟩, m'', ?_⟩
  · obtain ⟨result, carry⟩ := sum rs m' adding
    obtain rfl : rs = [0x00, 0xFF] := result.trans (by decide)
    exact ⟨adding, carry.2 (by decide)⟩
  · obtain ⟨result, carry⟩ := difference ds m'' subtracting
    obtain rfl : ds = [0x02, 0xFF] := result.trans (by decide)
    exact ⟨subtracting, carry.2 (by decide)⟩

end GameBoy
