import GameBoy.Proofs.Alu.Bits
import GameBoy.Proofs.Machine.ByteArithmetic
import Mathlib.Algebra.Ring.Int.Defs

/-!
# Cycles of rotations

A rotation loses no bit. Through the carry, nine bits go round, those of the byte and the carry
above them; otherwise, the eight bits of the byte do. So a sequence of rotations turns the word that
goes round, and only by how many more places to the left than to the right counts, not the order.

That a step turns the word is an equation between integers: a word that is turned by one place is
doubled, except that the bit that leaves enters again (`eq_turned_one`). To the left, this is the
law of one byte (`Rotation.exact_left`), and to the right, it is the law read backwards
(`Rotation.exact_right`).
-/

namespace GameBoy

/-! ## Words that are turned -/

section Turned

variable {n : ℕ} {v w : BitVec n}

/-- A word turned by a number of places to the left, or to the right if the number is negative. -/
def turned (w : BitVec n) (k : ℤ) : BitVec n := w.rotateLeft (k % n).toNat

/-- The places of the bits. -/
lemma getLsbD_turned (w : BitVec n) (k : ℤ) {i : ℕ} (place : i < n) :
    (turned w k).getLsbD i = w.getLsbD ((i - k) % n).toNat := by
  have pos : (n : ℤ) ≠ 0 := by omega
  have nonneg := Int.emod_nonneg k pos
  have lt := Int.emod_lt_of_pos k (show (0 : ℤ) < n by omega)
  rw [turned, BitVec.getLsbD_rotateLeft, Nat.mod_eq_of_lt (by omega), ← Int.sub_emod_emod]
  generalize k % n = r at nonneg lt
  by_cases wraps : i < r.toNat
  · have up : ((i : ℤ) - r) % n = i - r + n := by
      rw [← Int.add_emod_right, Int.emod_eq_of_lt (by omega) (by omega)]
    rw [decide_eq_true wraps, up, cond_true]
    congr 1
    omega
  · rw [decide_eq_false wraps, cond_false, decide_eq_true place, Bool.true_and,
      Int.emod_eq_of_lt (by omega) (by omega)]
    congr 1
    omega

/-- Turns add up. -/
lemma turned_turned (w : BitVec n) (j k : ℤ) : turned (turned w j) k = turned w (j + k) := by
  apply BitVec.eq_of_getLsbD_eq
  intro i place
  have nonneg := Int.emod_nonneg (i - k) (show (n : ℤ) ≠ 0 by omega)
  have lt := Int.emod_lt_of_pos (i - k) (show (0 : ℤ) < n by omega)
  rw [getLsbD_turned _ k place, getLsbD_turned w j (by omega), getLsbD_turned w _ place,
    Int.toNat_of_nonneg nonneg, Int.emod_sub_emod, Int.sub_sub, Int.add_comm k]

lemma turned_zero (w : BitVec n) : turned w 0 = w := by
  apply BitVec.eq_of_getLsbD_eq
  intro i place
  rw [getLsbD_turned w 0 place, Int.sub_zero, Int.emod_eq_of_lt (by omega) (by omega),
    Int.toNat_natCast]

/-- A word is doubled when it is turned by one place, except that the bit that leaves enters
again. -/
lemma eq_turned_one (places : 2 ≤ n) {b : Bool}
    (doubled : v.toNat + 2 ^ n * b.toNat = 2 * w.toNat + b.toNat) : v = turned w 1 := by
  obtain ⟨n, rfl⟩ : ∃ m, n = m + 1 := ⟨n - 1, by omega⟩
  have hv := v.isLt
  have hw := w.isLt
  have power : 2 ^ (n + 1) = 2 * 2 ^ n := Nat.pow_succ'
  have leaves : w.toNat / 2 ^ n = b.toNat := by
    cases b with
    | false =>
      rw [Bool.toNat_false] at doubled ⊢
      exact Nat.div_eq_of_lt (by omega)
    | true =>
      rw [Bool.toNat_true] at doubled ⊢
      exact Nat.div_eq_of_lt_le (by omega) (by omega)
  have stays : w.toNat <<< 1 % 2 ^ (n + 1) = (w.toNat % 2 ^ n) <<< 1 := by
    rw [Nat.shiftLeft_eq, Nat.shiftLeft_eq, pow_one, Nat.pow_succ, Nat.mul_mod_mul_right]
  have amount : (1 % ((n + 1 : ℕ) : ℤ)).toNat = 1 := by
    rw [Int.emod_eq_of_lt (by omega) (by omega)]
    rfl
  have parts := Nat.div_add_mod w.toNat (2 ^ n)
  rw [leaves] at parts
  rw [power, Nat.mul_assoc] at doubled
  apply BitVec.eq_of_toNat_eq
  rw [turned, amount, BitVec.toNat_rotateLeft, Nat.mod_eq_of_lt places, Nat.add_sub_cancel,
    Nat.shiftRight_eq_div_pow, leaves, stays, ← Nat.shiftLeft_add_eq_or_of_lt b.toNat_lt,
    Nat.shiftLeft_eq]
  omega

/-- A word that is turned back is halved. -/
lemma eq_turned_neg_one (places : 2 ≤ n) {b : Bool}
    (doubled : w.toNat + 2 ^ n * b.toNat = 2 * v.toNat + b.toNat) : v = turned w (-1) := by
  rw [eq_turned_one places doubled, turned_turned, Int.add_right_neg, turned_zero]

end Turned

/-! ## One rotation -/

/-- The places by which a rotation moves the bits to the left. -/
def Rotation.places (op : Rotation) : ℤ := if op.isLeft then 1 else -1

namespace Machine

variable (m : Machine) (x : Location)

/-- The nine bits that go round through the carry: those of the byte at a location, and the carry
above them. -/
def carryWord : BitVec 9 := .cons m.cpu.flags.carry (m.byteAt x).toBitVec

lemma toNat_carryWord :
    (m.carryWord x).toNat = 256 * m.cpu.flags.carry.toNat + (m.byteAt x).toNat := by
  rw [carryWord, BitVec.toNat_cons', Nat.shiftLeft_eq, Nat.mul_comm]
  rfl

/-- What a rotation makes of the flags. -/
lemma flags_rotate (op : Rotation) :
    (m.execute (.rotate op x)).cpu.flags =
      { zero := x != .accumulator && op.result (m.byteAt x) m.cpu.flags.carry == 0
        subtract := false
        halfCarry := false
        carry := op.carryOut (m.byteAt x) } :=
  m.flags_replace x _ _

/-- The bit that leaves goes into the carry. -/
lemma carry_rotate (op : Rotation) :
    (m.execute (.rotate op x)).cpu.flags.carry = op.carryOut (m.byteAt x) :=
  congrArg Flags.carry (m.flags_rotate x op)

variable {x} (retained : x = .atHl → Retains m.cpu.hl)

include retained

/-- What a rotation makes of the byte. -/
lemma byteAt_rotate (op : Rotation) :
    (m.execute (.rotate op x)).byteAt x = op.result (m.byteAt x) m.cpu.flags.carry :=
  m.byteAt_replace x _ _ retained

/-- A rotation leaves the location where it is. -/
lemma retained_rotate (op : Rotation) :
    x = .atHl → Retains (m.execute (.rotate op x)).cpu.hl :=
  m.retained_replace retained _ _

/-- A rotation through the carry turns byte and carry by one place. -/
lemma carryWord_rotate {op : Rotation}
    (through : op = .leftThroughCarry ∨ op = .rightThroughCarry) :
    (m.execute (.rotate op x)).carryWord x = turned (m.carryWord x) op.places := by
  have before := m.toNat_carryWord x
  have after := (m.execute (.rotate op x)).toNat_carryWord x
  rw [m.byteAt_rotate retained, m.carry_rotate x] at after
  rcases through with rfl | rfl
  · have exact : _ = 2 * (m.byteAt x).toNat + m.cpu.flags.carry.toNat :=
      Rotation.leftThroughCarry.exact_left (m.byteAt x) m.cpu.flags.carry rfl
    apply eq_turned_one (by decide) (b := m.cpu.flags.carry)
    omega
  · have exact : _ = (m.byteAt x).toNat + 256 * m.cpu.flags.carry.toNat :=
      Rotation.rightThroughCarry.exact_right (m.byteAt x) m.cpu.flags.carry rfl
    apply eq_turned_neg_one (by decide) (b := Rotation.rightThroughCarry.carryOut (m.byteAt x))
    omega

/-- A rotation past the carry turns the byte by one place. -/
lemma toBitVec_rotate {op : Rotation} (past : op = .left ∨ op = .right) :
    ((m.execute (.rotate op x)).byteAt x).toBitVec =
      turned (m.byteAt x).toBitVec op.places := by
  rw [m.byteAt_rotate retained]
  rcases past with rfl | rfl
  · apply eq_turned_one (by decide) (b := Rotation.left.carryOut (m.byteAt x))
    exact Rotation.left.exact_left (m.byteAt x) m.cpu.flags.carry rfl
  · apply eq_turned_neg_one (by decide) (b := Rotation.right.carryOut (m.byteAt x))
    exact (Rotation.right.exact_right (m.byteAt x) m.cpu.flags.carry rfl).symm

/-! ## Sequences of rotations -/

omit retained

/-- Rotates the byte at a location, by one operation after the other. -/
def rotateAll (m : Machine) (ops : List Rotation) (x : Location) : Machine :=
  ops.foldl (fun m op => m.execute (.rotate op x)) m

end Machine

/-- The places by which a sequence of two rotations moves the bits to the left. -/
lemma Rotation.sum_places {l r : Rotation} (hl : l.isLeft) (hr : r.isLeft = false)
    {ops : List Rotation} (two : ∀ op ∈ ops, op = l ∨ op = r) :
    (ops.map places).sum = (ops.count l : ℤ) - ops.count r := by
  have other : l ≠ r := by
    rintro rfl
    exact Bool.false_ne_true (hr.symm.trans hl)
  induction ops with
  | nil => rfl
  | cons op ops ih =>
    obtain ⟨first, others⟩ := List.forall_mem_cons.1 two
    rw [List.map_cons, List.sum_cons, ih others]
    rcases first with rfl | rfl
    · rw [List.count_cons_self, List.count_cons_of_ne other, places, if_pos hl]
      omega
    · rw [List.count_cons_self, List.count_cons_of_ne other.symm, places,
        if_neg (Bool.eq_false_iff.1 hr)]
      omega

namespace Machine

variable {n : ℕ} {x : Location}

/-- A sequence of rotations leaves the location where it is. -/
lemma retained_rotateAll {m : Machine} (retained : x = .atHl → Retains m.cpu.hl)
    (ops : List Rotation) : x = .atHl → Retains (m.rotateAll ops x).cpu.hl := by
  induction ops generalizing m with
  | nil => exact retained
  | cons op ops ih => exact ih (m.retained_rotate retained op)

/-- If each rotation turns a word, then a sequence of them turns it by the sum of the places. -/
lemma rotateAll_turned {m : Machine} (retained : x = .atHl → Retains m.cpu.hl)
    (word : Machine → BitVec n) (ops : List Rotation)
    (turns : ∀ m : Machine, (x = .atHl → Retains m.cpu.hl) → ∀ op ∈ ops,
      word (m.execute (.rotate op x)) = turned (word m) op.places) :
    word (m.rotateAll ops x) = turned (word m) (ops.map Rotation.places).sum := by
  induction ops generalizing m with
  | nil => exact (turned_zero (word m)).symm
  | cons op ops ih =>
    have first := turns m retained op List.mem_cons_self
    have others := ih (m.retained_rotate retained op) fun m retained op member =>
      turns m retained op (List.mem_cons_of_mem _ member)
    rw [List.map_cons, List.sum_cons, ← turned_turned, ← first]
    exact others

end Machine

/-- **Rotations are cycles.** Let a sequence of rotations be applied to a register, to the
accumulator by the forms that imply it, or to a byte in memory that retains what is written to it.
Through the carry, it turns the nine bits of the carry and the byte to the left, by the number of
rotations to the left less that of rotations to the right; past the carry, it turns the eight bits
of the byte in the same way. After the last rotation, the carry is the bit that it moved out, the
zero flag tells whether the byte is zero, except that the forms that imply the accumulator clear it,
and the other two flags are clear. -/
theorem rotateAll_cyclic (m : Machine) (x : Location)
    (retained : x = .atHl → ¬(0xFEA0 ≤ m.cpu.hl.toNat ∧ m.cpu.hl.toNat ≤ 0xFF7F)) :
    (∀ ops : List Rotation, (∀ op ∈ ops, op = .leftThroughCarry ∨ op = .rightThroughCarry) →
      (m.rotateAll ops x).carryWord x = (m.carryWord x).rotateLeft
        (((ops.count .leftThroughCarry : ℤ) - ops.count .rightThroughCarry) % 9).toNat) ∧
    (∀ ops : List Rotation, (∀ op ∈ ops, op = .left ∨ op = .right) →
      ((m.rotateAll ops x).byteAt x).toBitVec = (m.byteAt x).toBitVec.rotateLeft
        (((ops.count .left : ℤ) - ops.count .right) % 8).toNat) ∧
    ∀ (ops : List Rotation) (last : Rotation) (m' m'' : Machine),
      m.rotateAll ops x = m' → m.rotateAll (ops ++ [last]) x = m'' →
      m''.cpu.flags.subtract = false ∧ m''.cpu.flags.halfCarry = false ∧
      (m''.cpu.flags.zero = true ↔ x ≠ .accumulator ∧ m''.byteAt x = 0) ∧
      m''.cpu.flags.carry = (m'.byteAt x).toNat.testBit (if last.isLeft then 7 else 0) ∧
      (last = .left → m''.cpu.flags.carry = (m''.byteAt x).toNat.testBit 0) ∧
      (last = .right → m''.cpu.flags.carry = (m''.byteAt x).toNat.testBit 7) := by
  refine ⟨?_, ?_, ?_⟩
  · intro ops through
    have turns := Machine.rotateAll_turned retained (fun m => m.carryWord x) ops
      fun m retained op member => m.carryWord_rotate retained (through op member)
    rwa [Rotation.sum_places rfl rfl through] at turns
  · intro ops past
    have turns := Machine.rotateAll_turned retained (fun m => (m.byteAt x).toBitVec) ops
      fun m retained op member => m.toBitVec_rotate retained (past op member)
    rwa [Rotation.sum_places rfl rfl past] at turns
  · rintro ops last m' _ before rfl
    have after : m.rotateAll (ops ++ [last]) x = m'.execute (.rotate last x) := by
      rw [Machine.rotateAll, List.foldl_append, ← before]
      rfl
    have retained' := Machine.retained_rotateAll retained ops
    rw [before] at retained'
    have out := (m'.carry_rotate x last).trans (last.carryOut_eq (m'.byteAt x))
    have entered := last.testBit_result (m'.byteAt x) m'.cpu.flags.carry
    rw [← m'.byteAt_rotate retained'] at entered
    rw [after]
    refine ⟨?_, ?_, ?_, out, ?_, ?_⟩
    · rw [m'.flags_rotate]
    · rw [m'.flags_rotate]
    · rw [m'.flags_rotate, ← m'.byteAt_rotate retained', Bool.and_eq_true, bne_iff_ne, beq_iff_eq]
    · rintro rfl
      exact (m'.carry_rotate x .left).trans entered.symm
    · rintro rfl
      exact (m'.carry_rotate x .right).trans entered.symm

/-- A machine that points into the echo region, at a byte with its first and last bit set, with the
carry clear. -/
def pointingAtEnds : Machine where
  cpu := { Cpu.powerOn with h := 0xE0, l := 0x00, flags := ⟨false, false, false, false⟩ }
  memory := Memory.powerOn.write 0xC000 0x81
  lastCycles := 0

/-- One place to the left as eight to the right, through the carry, and two past it. -/
theorem rotateAll_cyclic_echo :
    (pointingAtEnds.cpu.hl = 0xE000 ∧ pointingAtEnds.byteAt .atHl = 0x81) ∧
    (pointingAtEnds.rotateAll (List.replicate 8 .rightThroughCarry) .atHl).carryWord .atHl =
      0x102 ∧
    (pointingAtEnds.rotateAll [.right, .left, .left, .left] .atHl).byteAt .atHl = 0x06 ∧
    (pointingAtEnds.rotateAll [.right] .atHl).cpu.flags.carry = true := by
  have hl : pointingAtEnds.cpu.hl = 0xE000 := by decide
  have byte : pointingAtEnds.byteAt .atHl = 0x81 := by decide +kernel
  have outside : ¬(0xFEA0 ≤ pointingAtEnds.cpu.hl.toNat ∧
      pointingAtEnds.cpu.hl.toNat ≤ 0xFF7F) := by
    rw [hl]
    decide
  obtain ⟨through, past, flags⟩ := rotateAll_cyclic pointingAtEnds .atHl fun _ => outside
  obtain ⟨-, -, -, carry, -⟩ := flags [] .right _ _ rfl rfl
  refine ⟨⟨hl, byte⟩, ?_, ?_, carry.trans ?_⟩
  · rw [through _ fun op member => .inr (List.eq_of_mem_replicate member), Machine.carryWord, byte]
    decide
  · rw [← UInt8.toBitVec_inj, past _ (by decide), byte]
    decide
  · change (pointingAtEnds.byteAt .atHl).toNat.testBit 0 = true
    rw [byte]
    decide

end GameBoy
