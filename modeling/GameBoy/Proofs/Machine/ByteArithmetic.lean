import GameBoy.Proofs.Machine.Footprint
import GameBoy.Proofs.Memory.ReadWrite

/-!
# Arithmetic and logic on bytes

What the eight operations on the accumulator, and counting a byte up and down, do to their operands
and to the flags, in terms of integers: a sum with its carry is the exact sum, a difference is the
exact difference modulo 256, and a carry or a borrow is an inequality between integers. `IsSum`,
`IsDifference` and `IsBitwise` say so of a result and its flags. The form of the operand matters
only by the byte that it yields and the pointer that it moves, so that one equation covers all
forms of an instruction, and a byte that is counted up and down again is the old one because a
difference undoes a sum (`Alu.IsSum.undone`).
-/

namespace GameBoy

/-! ## Specifications -/

namespace Alu

/-- A byte and flags are those of the sum of two bytes and a carry. -/
structure IsSum (a x : UInt8) (k : Bool) (r : UInt8) (f : Flags) : Prop where
  /-- The carry stands for 256. -/
  exact : r.toNat + 256 * f.carry.toNat = a.toNat + x.toNat + k.toNat
  /-- The half carry tells whether the lower halves need a fifth bit. -/
  halfCarry : f.halfCarry = true ↔ 16 ≤ a.toNat % 16 + x.toNat % 16 + k.toNat
  /-- The operation was no subtraction. -/
  subtract : f.subtract = false
  /-- The zero flag tells whether the result is zero. -/
  zero : f.zero = true ↔ r = 0

/-- A byte and flags are those of the difference of two bytes less a borrow. -/
structure IsDifference (a x : UInt8) (k : Bool) (r : UInt8) (f : Flags) : Prop where
  /-- The result is the difference modulo 256. -/
  congruent : (r.toNat : ℤ) = (a.toNat - x.toNat - k.toNat : ℤ) % 256
  /-- The carry tells whether more was taken than there was. -/
  carry : f.carry = true ↔ a.toNat < x.toNat + k.toNat
  /-- The half carry tells the same of the lower halves. -/
  halfCarry : f.halfCarry = true ↔ a.toNat % 16 < x.toNat % 16 + k.toNat
  /-- The operation was a subtraction. -/
  subtract : f.subtract = true
  /-- The zero flag tells whether the result is zero. -/
  zero : f.zero = true ↔ r = 0

/-- A byte and flags are those of an operation on each bit of two bytes, which sets the half carry
or clears it. -/
structure IsBitwise (g : Bool → Bool → Bool) (halfCarry : Bool) (a x r : UInt8) (f : Flags) :
    Prop where
  /-- Each bit of the result comes from the bits at its place. -/
  bits : ∀ n, r.toNat.testBit n = g (a.toNat.testBit n) (x.toNat.testBit n)
  /-- There is no carry. -/
  carry : f.carry = false
  /-- The half carry is fixed. -/
  halfCarry : f.halfCarry = halfCarry
  /-- The operation was no subtraction. -/
  subtract : f.subtract = false
  /-- The zero flag tells whether the result is zero. -/
  zero : f.zero = true ↔ r = 0

end Alu

/-- What an operation should make of the accumulator `a`, the byte `x` and the carry `c`: the result
`r` and the flags `f`. A comparison computes a difference. -/
def Arithmetic.Yields (op : Arithmetic) (a x : UInt8) (c : Bool) (r : UInt8) (f : Flags) : Prop :=
  match op with
  | .add => Alu.IsSum a x false r f
  | .addWithCarry => Alu.IsSum a x c r f
  | .subtract | .compare => Alu.IsDifference a x false r f
  | .subtractWithCarry => Alu.IsDifference a x c r f
  | .and => Alu.IsBitwise (· && ·) true a x r f
  | .xor => Alu.IsBitwise Bool.xor false a x r f
  | .or => Alu.IsBitwise (· || ·) false a x r f

/-! ## The operations -/

namespace Alu

variable (a x : UInt8) (k : Bool)

lemma isSum_add : IsSum a x k (add a x k).1 (add a x k).2 where
  exact := by
    have bit := k.toNat_lt
    have ha := a.toNat_lt
    have hx := x.toNat_lt
    have total : (add a x k).1.toNat = (a.toNat + x.toNat + k.toNat) % 256 := UInt8.toNat_ofNat'
    have carry : (add a x k).2.carry = true ↔ 0xFF < a.toNat + x.toNat + k.toNat :=
      decide_eq_true_iff
    rw [total]
    by_cases large : 0xFF < a.toNat + x.toNat + k.toNat
    · rw [carry.2 large, Bool.toNat_true]
      omega
    · rw [Bool.eq_false_iff.2 (mt carry.1 large), Bool.toNat_false]
      omega
  halfCarry := decide_eq_true_iff
  subtract := rfl
  zero := beq_iff_eq

lemma isDifference_subtract : IsDifference a x k (subtract a x k).1 (subtract a x k).2 where
  congruent := by
    have bit := k.toNat_lt
    have ha := a.toNat_lt
    have hx := x.toNat_lt
    show ((a - x - UInt8.ofNat k.toNat).toNat : ℤ) = _
    rw [UInt8.toNat_sub, UInt8.toNat_sub, UInt8.toNat_ofNat']
    omega
  carry := decide_eq_true_iff
  halfCarry := decide_eq_true_iff
  subtract := rfl
  zero := beq_iff_eq

variable {a x k}

/-- The flags of a bitwise operation are right if the result is. -/
lemma isBitwise_logicFlags {g : Bool → Bool → Bool} {h : Bool} {r : UInt8}
    (bits : ∀ n, r.toNat.testBit n = g (a.toNat.testBit n) (x.toNat.testBit n)) :
    IsBitwise g h a x r (logicFlags r h) :=
  ⟨bits, rfl, rfl, rfl, beq_iff_eq⟩

/-- A difference undoes a sum. -/
lemma IsSum.undone {r r' : UInt8} {f g : Flags} (up : IsSum a x k r f)
    (down : IsDifference r x k r' g) : r' = a := by
  have carry := f.carry.toNat_lt
  have ha := a.toNat_lt
  have sum := up.exact
  have difference := down.congruent
  apply UInt8.toNat_inj.1
  omega

end Alu

/-- An operation yields the result that it should, and a comparison leaves the accumulator. -/
lemma Arithmetic.yields_apply (op : Arithmetic) (a x : UInt8) (f : Flags) :
    ∃ r, op.Yields a x f.carry r (op.apply a x f).2 ∧
      (op.apply a x f).1 = if op = .compare then a else r := by
  cases op with
  | add => exact ⟨_, Alu.isSum_add a x false, rfl⟩
  | addWithCarry => exact ⟨_, Alu.isSum_add a x f.carry, rfl⟩
  | subtract | compare => exact ⟨_, Alu.isDifference_subtract a x false, rfl⟩
  | subtractWithCarry => exact ⟨_, Alu.isDifference_subtract a x f.carry, rfl⟩
  | and =>
    refine ⟨a &&& x, Alu.isBitwise_logicFlags fun n => ?_, rfl⟩
    rw [UInt8.toNat_and, Nat.testBit_and]
  | xor =>
    refine ⟨a ^^^ x, Alu.isBitwise_logicFlags fun n => ?_, rfl⟩
    rw [UInt8.toNat_xor, Nat.testBit_xor]
  | or =>
    refine ⟨a ||| x, Alu.isBitwise_logicFlags fun n => ?_, rfl⟩
    rw [UInt8.toNat_or, Nat.testBit_or]

/-! ## The instructions -/

namespace Machine

variable (m : Machine)

/-- A location holds what was put there, if it is a register or retains what is written. -/
lemma byteAt_replace (t : Location) (v : UInt8) (f : Flags)
    (retained : t = .atHl → Retains m.cpu.hl) : (m.replace t v f).byteAt t = v := by
  cases t with
  | register r => cases r <;> rfl
  | accumulator => rfl
  | atHl => exact m.memory.read_write_of_retains v (retained rfl)

/-- A replacement leaves the location where it is. -/
lemma retained_replace {t : Location} (retained : t = .atHl → Retains m.cpu.hl) (v : UInt8)
    (f : Flags) : t = .atHl → Retains (m.replace t v f).cpu.hl := by
  rintro rfl
  exact retained rfl

/-- Counting up puts a sum at the location, and keeps the carry. -/
lemma execute_increment (t : Location) :
    ∃ r f, Alu.IsSum (m.byteAt t) 1 false r f ∧
      m.execute (.increment t) = m.replace t r { f with carry := m.cpu.flags.carry } :=
  ⟨_, _, Alu.isSum_add (m.byteAt t) 1 false, rfl⟩

/-- Counting down puts a difference at the location, and keeps the carry. -/
lemma execute_decrement (t : Location) :
    ∃ r f, Alu.IsDifference (m.byteAt t) 1 false r f ∧
      m.execute (.decrement t) = m.replace t r { f with carry := m.cpu.flags.carry } :=
  ⟨_, _, Alu.isDifference_subtract (m.byteAt t) 1 false, rfl⟩

/-- Counting a byte up and down again restores it, and keeps the carry. -/
lemma byteAt_decrement_increment (t : Location) (retained : t = .atHl → Retains m.cpu.hl) :
    ((m.execute (.increment t)).execute (.decrement t)).byteAt t = m.byteAt t ∧
      ((m.execute (.increment t)).execute (.decrement t)).cpu.flags.carry =
        m.cpu.flags.carry := by
  obtain ⟨r, f, up, counted⟩ := m.execute_increment t
  rw [counted]
  generalize between : m.replace t r { f with carry := m.cpu.flags.carry } = m'
  have byte : m'.byteAt t = r := by
    rw [← between, m.byteAt_replace t r _ retained]
  have carry : m'.cpu.flags.carry = m.cpu.flags.carry := by
    rw [← between, flags_replace]
  have retained' : t = .atHl → Retains m'.cpu.hl := by
    rw [← between]
    exact m.retained_replace retained _ _
  obtain ⟨r', g, down, counted'⟩ := m'.execute_decrement t
  rw [byte] at down
  rw [counted', m'.byteAt_replace t r' _ retained', flags_replace]
  exact ⟨up.undone down, carry⟩

end Machine

/-- **Arithmetic and logic on bytes.** Whatever form its operand has, an operation on the
accumulator reads one byte, moves the pointer if the form says so, and leaves the accumulator and
the flags that integer arithmetic asks for; a comparison leaves the flags only. Counting the byte at
a location up or down adds one or takes one and keeps the carry. So counting up and then down
restores the byte at every location that retains what is written to it. -/
theorem execute_byteArithmetic (m : Machine) :
    (∀ (op : Arithmetic) (s : Source), ∃ r f,
      op.Yields m.cpu.a (m.readSource s) m.cpu.flags.carry r f ∧
      m.execute (.arithmetic op s) =
        (m.afterSource s).setResult (if op = .compare then m.cpu.a else r) f) ∧
    (∀ t : Location, ∃ r f, Alu.IsSum (m.byteAt t) 1 false r f ∧
      m.execute (.increment t) = m.replace t r { f with carry := m.cpu.flags.carry }) ∧
    (∀ t : Location, ∃ r f, Alu.IsDifference (m.byteAt t) 1 false r f ∧
      m.execute (.decrement t) = m.replace t r { f with carry := m.cpu.flags.carry }) ∧
    ∀ t : Location,
      (t = .atHl → ¬(0xFEA0 ≤ m.cpu.hl.toNat ∧ m.cpu.hl.toNat ≤ 0xFF7F)) →
      ((m.execute (.increment t)).execute (.decrement t)).byteAt t = m.byteAt t ∧
        ((m.execute (.increment t)).execute (.decrement t)).cpu.flags.carry =
          m.cpu.flags.carry := by
  refine ⟨?_, m.execute_increment, m.execute_decrement, m.byteAt_decrement_increment⟩
  intro op s
  obtain ⟨r, yields, result⟩ := op.yields_apply m.cpu.a (m.readSource s) m.cpu.flags
  refine ⟨r, _, yields, ?_⟩
  rw [← result]
  rfl

/-- A machine that points into the echo region, at the largest byte, with the carry set. -/
def pointingIntoEcho : Machine where
  cpu := { Cpu.powerOn with h := 0xE0, l := 0x00 }
  memory := Memory.powerOn.write 0xC000 0xFF
  lastCycles := 0

/-- Counting the largest byte up makes it zero, and counting it down restores it; the carry is kept
although both overflow. -/
theorem execute_byteArithmetic_echo :
    (pointingIntoEcho.cpu.hl = 0xE000 ∧
      (pointingIntoEcho.execute (.increment .atHl)).byteAt .atHl = 0x00) ∧
    ((pointingIntoEcho.execute (.increment .atHl)).execute (.decrement .atHl)).byteAt .atHl =
      0xFF ∧
    ((pointingIntoEcho.execute (.increment .atHl)).execute
      (.decrement .atHl)).cpu.flags.carry = true := by
  have hl : pointingIntoEcho.cpu.hl = 0xE000 := by decide
  have outside : ¬(0xFEA0 ≤ pointingIntoEcho.cpu.hl.toNat ∧
      pointingIntoEcho.cpu.hl.toNat ≤ 0xFF7F) := by
    rw [hl]
    decide
  obtain ⟨-, -, -, counting⟩ := execute_byteArithmetic pointingIntoEcho
  obtain ⟨byte, carry⟩ := counting .atHl fun _ => outside
  rw [byte, carry]
  decide +kernel

end GameBoy
