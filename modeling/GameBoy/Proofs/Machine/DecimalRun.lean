import GameBoy.Proofs.Alu.PackedDecimal
import GameBoy.Proofs.Machine.Footprint
import Mathlib.Tactic.LinearCombination

/-!
# Long decimal arithmetic

A program adds or subtracts long decimal numbers byte by byte, the least significant byte first. For
each byte it loads the accumulator, combines it with a second byte and makes the result decimal;
after the first byte it uses the operation that takes the carry. A `DecimalRun` is such a program at
work, with the machines after its passes. How the bytes come into place is left open: any
instructions may stand between two passes as long as they keep the carry.

The carry that a pass leaves is the carry that the next one takes, so that the equations of the
passes add up to one for the whole numbers (`DecimalRun.number_eq`). Since the result has as many
bytes as the operands, that equation says what the result and the last carry are.
-/

namespace GameBoy

open Decimal

/-! ## Runs -/

namespace Machine

/-- Combines the accumulator with the byte of a source, and makes the result decimal. -/
def decimalPass (m : Machine) (op : Arithmetic) (s : Source) : Machine :=
  (m.execute (.arithmetic op s)).execute .decimalAdjust

/-- The machine is as it should be after a decimal correction. -/
structure IsAdjusted (m : Machine) : Prop where
  /-- The accumulator has two decimal digits. -/
  packed : IsPacked m.cpu.a
  /-- Nothing is left of the carry between them. -/
  halfCarry : m.cpu.flags.halfCarry = false
  /-- The zero flag tells whether the accumulator is zero. -/
  zero : m.cpu.flags.zero = true ↔ m.cpu.a = 0x00

end Machine

/-- A program for long decimal arithmetic at work: from the machine `m`, with the operation `op` on
the first bytes, it combines the bytes `xs` with the bytes `ys` and leaves a machine after each
pass. -/
inductive DecimalRun : Arithmetic → Machine → List UInt8 → List UInt8 → List Machine → Prop
  /-- There are no more bytes. -/
  | nil (op : Arithmetic) (m : Machine) : DecimalRun op m [] [] []
  /-- Instructions that keep the carry bring two bytes into place, and a pass follows. -/
  | cons {op : Arithmetic} {m ready : Machine} {xs ys : List UInt8} {ms : List Machine}
      (loads : List Instruction) (s : Source)
      (kept : ∀ i ∈ loads, i.isEncodable ∧ Flag.carry ∈ i.keptFlags)
      (loaded : loads.foldl Machine.execute m = ready)
      (rest : DecimalRun op.continuation (ready.decimalPass op s) xs ys ms) :
      DecimalRun op m (ready.cpu.a :: xs) (ready.readSource s :: ys)
        (ready.decimalPass op s :: ms)

/-- The carry after passes that left the given machines, if it was `c` before them. -/
def carryAfter (c : Bool) : List Machine → Bool
  | [] => c
  | m :: ms => carryAfter m.cpu.flags.carry ms

/-- The carry after some passes is that of the last machine. -/
lemma carryAfter_eq_of_getLast {c : Bool} {ms : List Machine} {last : Machine}
    (h : last ∈ ms.getLast?) : carryAfter c ms = last.cpu.flags.carry := by
  induction ms generalizing c with
  | nil => cases h
  | cons m ms ih =>
    cases ms with
    | nil =>
      obtain rfl := Option.some.inj h
      rfl
    | cons m' ms => exact ih (c := m.cpu.flags.carry) h

/-! ## One pass -/

namespace Machine

variable (m : Machine)

/-- A pass puts the decimal result into the accumulator. -/
lemma a_decimalPass (op : Arithmetic) (s : Source) :
    (m.decimalPass op s).cpu.a = (Alu.decimal op m.cpu.a (m.readSource s) m.cpu.flags).1 := rfl

/-- A pass leaves the flags of the decimal result. -/
lemma flags_decimalPass (op : Arithmetic) (s : Source) :
    (m.decimalPass op s).cpu.flags = (Alu.decimal op m.cpu.a (m.readSource s) m.cpu.flags).2 := rfl

/-- After a pass over two packed bytes the accumulator is adjusted. -/
lemma isAdjusted_decimalPass {op : Arithmetic} (decimal : op.isDecimal) {s : Source}
    (hx : IsPacked m.cpu.a) (hy : IsPacked (m.readSource s)) : (m.decimalPass op s).IsAdjusted where
  packed := (Alu.value_decimal decimal hx hy m.cpu.flags).1
  halfCarry := rfl
  zero := beq_iff_eq

end Machine

/-! ## The whole run -/

namespace DecimalRun

variable {op : Arithmetic} {m : Machine} {xs ys : List UInt8} {ms : List Machine}

/-- There is a run for all bytes from every machine: the bytes can be constants of the program. -/
lemma exists_of_length_eq (op : Arithmetic) (m : Machine) (length : xs.length = ys.length) :
    ∃ ms, DecimalRun op m xs ys ms := by
  induction xs generalizing op m ys with
  | nil =>
    obtain rfl := List.length_eq_zero_iff.1 length.symm
    exact ⟨[], .nil op m⟩
  | cons x xs ih =>
    cases ys with
    | nil => cases length
    | cons y ys =>
      let ready := m.execute (.load (.register .a) (.immediate x))
      have kept : ∀ i ∈ [Instruction.load (.register .a) (.immediate x)],
          i.isEncodable ∧ Flag.carry ∈ i.keptFlags := by
        intro i member
        obtain rfl := List.mem_singleton.1 member
        exact ⟨rfl, (by decide : Flag.carry ∈ Flag.all)⟩
      obtain ⟨ms, rest⟩ := ih op.continuation (ready.decimalPass op (.immediate y))
        (Nat.succ.inj length)
      exact ⟨_, .cons [.load (.register .a) (.immediate x)] (.immediate y) kept rfl rest⟩

/-- A run has one pass for each byte. -/
lemma length_eq (run : DecimalRun op m xs ys ms) : ms.length = xs.length := by
  induction run with
  | nil => rfl
  | cons loads s kept loaded rest ih => exact congrArg Nat.succ ih

/-- Every pass leaves the accumulator adjusted. -/
theorem isAdjusted (run : DecimalRun op m xs ys ms) (decimal : op.isDecimal)
    (hx : ∀ x ∈ xs, IsPacked x) (hy : ∀ y ∈ ys, IsPacked y) : ∀ m' ∈ ms, m'.IsAdjusted := by
  induction run with
  | nil => exact fun m' none => absurd none List.not_mem_nil
  | @cons op m ready xs ys ms loads s kept loaded rest ih =>
    obtain ⟨firstX, othersX⟩ := List.forall_mem_cons.1 hx
    obtain ⟨firstY, othersY⟩ := List.forall_mem_cons.1 hy
    have later : op.continuation.isDecimal := by rwa [Arithmetic.isDecimal_continuation]
    exact List.forall_mem_cons.2
      ⟨ready.isAdjusted_decimalPass decimal firstX firstY, ih later othersX othersY⟩

/-- **The equation of a run.** The number in the accumulators, with the carry that goes out, is what
the operation makes of the operands, with the carry that comes in. -/
theorem number_eq (run : DecimalRun op m xs ys ms) (decimal : op.isDecimal)
    (hx : ∀ x ∈ xs, IsPacked x) (hy : ∀ y ∈ ys, IsPacked y) :
    (number (ms.map (·.cpu.a)) : ℤ) +
        op.sign * (100 ^ xs.length * (carryAfter (op.carryIn m.cpu.flags) ms).toNat) =
      number xs + op.sign * (number ys + (op.carryIn m.cpu.flags).toNat) := by
  induction run with
  | nil op m => simp [carryAfter]
  | @cons op m ready xs ys ms loads s kept loaded rest ih =>
    obtain ⟨firstX, othersX⟩ := List.forall_mem_cons.1 hx
    obtain ⟨firstY, othersY⟩ := List.forall_mem_cons.1 hy
    have later : op.continuation.isDecimal := by rwa [Arithmetic.isDecimal_continuation]
    have others := ih later othersX othersY
    have carryIn : op.carryIn ready.cpu.flags = op.carryIn m.cpu.flags := by
      have carry := m.carry_foldl_execute fun i member => .inr (kept i member)
      rw [loaded] at carry
      cases op <;> first | rfl | exact carry
    obtain ⟨-, first⟩ := Alu.value_decimal decimal firstX firstY ready.cpu.flags
    rw [← ready.a_decimalPass op s, ← ready.flags_decimalPass op s, carryIn] at first
    -- The carry that this pass leaves is the one that the others take, so it cancels.
    rw [Arithmetic.carryIn_continuation decimal, Arithmetic.sign_continuation] at others
    simp only [List.map_cons, number_cons, List.length_cons, carryAfter, pow_succ, Nat.cast_add,
      Nat.cast_mul, Nat.cast_ofNat]
    linear_combination first + 100 * others

/-- The accumulators are packed. -/
lemma packed (run : DecimalRun op m xs ys ms) (decimal : op.isDecimal)
    (hx : ∀ x ∈ xs, IsPacked x) (hy : ∀ y ∈ ys, IsPacked y) :
    ∀ v ∈ ms.map (·.cpu.a), IsPacked v := by
  intro v member
  obtain ⟨m', stored, rfl⟩ := List.mem_map.1 member
  exact (run.isAdjusted decimal hx hy m' stored).packed

/-- The number in the accumulators has two digits for each byte. -/
lemma number_lt (run : DecimalRun op m xs ys ms) (decimal : op.isDecimal)
    (hx : ∀ x ∈ xs, IsPacked x) (hy : ∀ y ∈ ys, IsPacked y) :
    number (ms.map (·.cpu.a)) < 100 ^ xs.length := by
  have lt := Decimal.number_lt (run.packed decimal hx hy)
  rwa [List.length_map, run.length_eq] at lt

/-- The accumulators hold the digits of the number that they denote. -/
lemma accumulators_eq (run : DecimalRun op m xs ys ms) (decimal : op.isDecimal)
    (hx : ∀ x ∈ xs, IsPacked x) (hy : ∀ y ∈ ys, IsPacked y) :
    ms.map (·.cpu.a) = digits xs.length (number (ms.map (·.cpu.a))) := by
  have same := digits_number (run.packed decimal hx hy)
  rw [List.length_map, run.length_eq] at same
  exact same.symm

/-- The number that a run of additions leaves, and its carry. -/
lemma number_add (run : DecimalRun .add m xs ys ms) (hx : ∀ x ∈ xs, IsPacked x)
    (hy : ∀ y ∈ ys, IsPacked y) :
    number (ms.map (·.cpu.a)) = (number xs + number ys) % 100 ^ xs.length ∧
      (carryAfter false ms = true ↔ 100 ^ xs.length ≤ number xs + number ys) := by
  have equation := run.number_eq rfl hx hy
  simp only [Arithmetic.sign, Arithmetic.carryIn, Bool.toNat_false] at equation
  apply eq_mod_of_carry (run.number_lt rfl hx hy)
  zify
  linear_combination equation

/-- The number that a run of subtractions leaves, and its carry. -/
lemma number_subtract (run : DecimalRun .subtract m xs ys ms) (hx : ∀ x ∈ xs, IsPacked x)
    (hy : ∀ y ∈ ys, IsPacked y) :
    (number (ms.map (·.cpu.a)) : ℤ) = ((number xs : ℤ) - number ys) % 100 ^ xs.length ∧
      (carryAfter false ms = true ↔ number xs < number ys) := by
  have equation := run.number_eq rfl hx hy
  simp only [Arithmetic.sign, Arithmetic.carryIn, Bool.toNat_false] at equation
  have kept := eq_emod_of_borrow (c := carryAfter false ms) (x := number xs) (y := number ys)
    (run.number_lt rfl hx hy) (by push_cast; linear_combination equation)
  exact_mod_cast kept

end DecimalRun

/-- **Decimal arithmetic.** Let two numbers be given by equally many packed bytes. From every machine
there are runs that add and that subtract them. After a run of additions the accumulators hold the
digits of the sum, as far as there is room, and the last carry tells whether there was not enough.
After a run of subtractions they hold those of the difference, from which a power of a hundred is
borrowed if it is negative, and the last carry tells so. After every pass the accumulator is
adjusted. -/
theorem decimal_arithmetic (m : Machine) {xs ys : List UInt8} (length : xs.length = ys.length)
    (hx : ∀ x ∈ xs, IsPacked x) (hy : ∀ y ∈ ys, IsPacked y) :
    ((∃ ms, DecimalRun .add m xs ys ms) ∧
      ∀ ms, DecimalRun .add m xs ys ms →
        ms.length = xs.length ∧ (∀ m' ∈ ms, m'.IsAdjusted) ∧
        ms.map (·.cpu.a) = digits xs.length ((number xs + number ys) % 100 ^ xs.length) ∧
        ∀ last ∈ ms.getLast?,
          (last.cpu.flags.carry = true ↔ 100 ^ xs.length ≤ number xs + number ys)) ∧
    ((∃ ms, DecimalRun .subtract m xs ys ms) ∧
      ∀ ms, DecimalRun .subtract m xs ys ms →
        ms.length = xs.length ∧ (∀ m' ∈ ms, m'.IsAdjusted) ∧
        ms.map (·.cpu.a) =
          digits xs.length (((number xs : ℤ) - number ys) % 100 ^ xs.length).toNat ∧
        ∀ last ∈ ms.getLast?, (last.cpu.flags.carry = true ↔ number xs < number ys)) := by
  refine ⟨⟨DecimalRun.exists_of_length_eq .add m length, fun ms run => ?_⟩,
    DecimalRun.exists_of_length_eq .subtract m length, fun ms run => ?_⟩
  · obtain ⟨result, carry⟩ := run.number_add hx hy
    refine ⟨run.length_eq, run.isAdjusted rfl hx hy, ?_, fun last final => ?_⟩
    · rw [← result]
      exact run.accumulators_eq rfl hx hy
    · rw [← carryAfter_eq_of_getLast final]
      exact carry
  · obtain ⟨result, carry⟩ := run.number_subtract hx hy
    refine ⟨run.length_eq, run.isAdjusted rfl hx hy, ?_, fun last final => ?_⟩
    · rw [← result, Int.toNat_natCast]
      exact run.accumulators_eq rfl hx hy
    · rw [← carryAfter_eq_of_getLast final]
      exact carry

/-- The sum of 146 and 9958 has five digits, of which two bytes keep four, and the difference is
negative. -/
theorem decimal_arithmetic_carries :
    ((∀ x ∈ [0x46, 0x01], IsPacked x) ∧ ∀ y ∈ [0x58, 0x99], IsPacked y) ∧
    (∃ ms, DecimalRun .add Machine.powerOn [0x46, 0x01] [0x58, 0x99] ms ∧
      ms.map (·.cpu.a) = [0x04, 0x01] ∧ ∀ last ∈ ms.getLast?, last.cpu.flags.carry = true) ∧
    ∃ ms, DecimalRun .subtract Machine.powerOn [0x46, 0x01] [0x58, 0x99] ms ∧
      ms.map (·.cpu.a) = [0x88, 0x01] ∧ ∀ last ∈ ms.getLast?, last.cpu.flags.carry = true := by
  have packedX : ∀ x ∈ [0x46, 0x01], IsPacked x :=
    List.forall_mem_cons.2 ⟨by decide, List.forall_mem_singleton.2 (by decide)⟩
  have packedY : ∀ y ∈ [0x58, 0x99], IsPacked y :=
    List.forall_mem_cons.2 ⟨by decide, List.forall_mem_singleton.2 (by decide)⟩
  have length : ([0x46, 0x01] : List UInt8).length = ([0x58, 0x99] : List UInt8).length := rfl
  obtain ⟨⟨⟨ms, adding⟩, sum⟩, ⟨ns, subtracting⟩, difference⟩ :=
    decimal_arithmetic Machine.powerOn length packedX packedY
  refine ⟨⟨packedX, packedY⟩, ⟨ms, adding, ?_⟩, ns, subtracting, ?_⟩
  · obtain ⟨-, -, digits, carry⟩ := sum ms adding
    exact ⟨digits.trans (by decide), fun last final => (carry last final).2 (by decide)⟩
  · obtain ⟨-, -, digits, carry⟩ := difference ns subtracting
    exact ⟨digits.trans (by decide), fun last final => (carry last final).2 (by decide)⟩

end GameBoy
