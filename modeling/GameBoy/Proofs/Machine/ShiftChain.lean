import GameBoy.Proofs.Machine.CarryChain
import GameBoy.Proofs.Machine.RotationCycle

/-!
# Shifting long integers

A program doubles or halves an integer of many bytes byte by byte: it shifts the first byte and
rotates the others through the carry, from the least significant byte up to double, and from the
most significant byte down to halve. A `ShiftChain` is such a program at work. Between two steps it
may copy bytes as it likes, or do anything else that keeps the carry, so that the bytes can be in
registers or in memory.

One step is exact if the bit that leaves is counted (`Rotation.exact_left`, `Rotation.exact_right`).
The bit that leaves a byte enters the next one, so the steps add up to one equation for the whole
integer (`ShiftChain.number_left`, `ShiftChain.number_right`), in which only the bit that enters the
first byte is left: zero for a plain shift, and the sign for an arithmetic one.
-/

namespace GameBoy

/-! ## Integers with a sign -/

namespace Bytes

/-- The integer that a list of bytes denotes in two's complement, the least significant byte
first. -/
def signed (bytes : List UInt8) : ℤ :=
  if 2 * number bytes < 256 ^ bytes.length then number bytes
  else number bytes - 256 ^ bytes.length

/-- One more significant byte. -/
lemma number_concat (bytes : List UInt8) (v : UInt8) :
    number (bytes ++ [v]) = number bytes + 256 ^ bytes.length * v.toNat := by
  rw [number, List.map_append, Nat.ofDigits_append, List.length_map, List.map_singleton,
    Nat.ofDigits_singleton, number]

/-- The sign is the highest bit. -/
lemma two_mul_number_concat (bytes : List UInt8) (v : UInt8) :
    256 ^ (bytes ++ [v]).length ≤ 2 * number (bytes ++ [v]) ↔ v.toNat.testBit 7 = true := by
  have room := number_lt bytes
  have lt := v.toNat_lt
  have bit : v.toNat.testBit 7 = true ↔ 128 ≤ v.toNat := by
    rw [Nat.testBit_eq_decide_div_mod_eq, decide_eq_true_iff]
    omega
  rw [bit, number_concat, List.length_append, List.length_singleton, pow_succ]
  constructor
  · intro large
    by_contra small
    have upper : 256 ^ bytes.length * v.toNat ≤ 256 ^ bytes.length * 127 :=
      Nat.mul_le_mul_left _ (by omega)
    omega
  · intro large
    have lower : 256 ^ bytes.length * 128 ≤ 256 ^ bytes.length * v.toNat :=
      Nat.mul_le_mul_left _ large
    omega

/-- In two's complement, the highest bit counts negative. -/
lemma signed_add (bytes : List UInt8) :
    signed bytes + 256 ^ bytes.length *
      (decide (256 ^ bytes.length ≤ 2 * number bytes)).toNat = number bytes := by
  unfold signed
  by_cases negative : 256 ^ bytes.length ≤ 2 * number bytes
  · rw [if_neg (Nat.not_lt.2 negative), decide_eq_true negative]
    simp
  · rw [if_pos (Nat.not_le.1 negative), decide_eq_false negative]
    simp

/-- The two readings of the bytes agree modulo the room that they have. -/
lemma signed_emod (bytes : List UInt8) : signed bytes % 256 ^ bytes.length = number bytes := by
  have room : (number bytes : ℤ) < 256 ^ bytes.length := by exact_mod_cast number_lt bytes
  have same := congrArg (· % (256 ^ bytes.length : ℤ)) (signed_add bytes)
  simp only [Int.add_mul_emod_self_left] at same
  rw [same, Int.emod_eq_of_lt (Int.natCast_nonneg _) room]

end Bytes

/-! ## The bit that enters -/

namespace Rotation

/-- The rotation for the bytes after the first. -/
def continuation (op : Rotation) : Rotation :=
  if op.isLeft then leftThroughCarry else rightThroughCarry

/-- The bit that enters a list of bytes, when `carry` is the flag before. -/
def entering (op : Rotation) (carry : Bool) : List UInt8 → Bool
  | [] => carry
  | x :: _ => op.carryIn x carry

lemma isLeft_continuation (op : Rotation) : op.continuation.isLeft = op.isLeft := by
  cases op <;> rfl

/-- After the first byte, it is the carry that enters. -/
lemma entering_continuation (op : Rotation) (carry : Bool) (xs : List UInt8) :
    op.continuation.entering carry xs = carry := by
  cases xs with
  | nil => rfl
  | cons x xs => cases op <;> rfl

lemma entering_of_ne_nil (op : Rotation) (carry : Bool) {xs : List UInt8} (some : xs ≠ []) :
    op.entering carry xs = op.carryIn (xs.head some) carry := by
  cases xs with
  | nil => exact absurd rfl some
  | cons x xs => rfl

/-- An arithmetic shift keeps the sign. -/
lemma entering_shiftRightArithmetic (carry : Bool) {xs : List UInt8} (some : xs ≠ []) :
    shiftRightArithmetic.entering carry xs.reverse =
      decide (256 ^ xs.length ≤ 2 * Bytes.number xs) := by
  obtain ⟨bytes, v, rfl⟩ := (List.eq_nil_or_concat' xs).resolve_left some
  rw [List.reverse_concat, Bool.eq_iff_iff, decide_eq_true_iff, Bytes.two_mul_number_concat bytes v,
    ← and_bne_zero v (v := 0x80) rfl]
  rfl

end Rotation

/-- Halves with a remainder. -/
lemma eq_half_of_carry {q s : ℤ} {c : Bool} (equation : 2 * q + c.toNat = s) :
    q = s / 2 ∧ (c = true ↔ s % 2 = 1) := by
  have bit := c.toNat_lt
  rw [← Bool.toNat_eq_one]
  omega

/-! ## Chains -/

/-- A program that shifts a long integer at work: from the machine `m`, with the operation `op` on
the first byte, it makes the bytes `rs` of the bytes `xs` and leaves the machine `m'`. -/
inductive ShiftChain : Rotation → Machine → List UInt8 → List UInt8 → Machine → Prop
  /-- There are no more bytes. -/
  | nil (op : Rotation) (m : Machine) : ShiftChain op m [] [] m
  /-- Instructions that keep the carry bring a byte into place, and its bits are moved. -/
  | cons {op : Rotation} {m ready done m' : Machine} {xs rs : List UInt8}
      (loads : List Instruction) (t : Location) (kept : ∀ i ∈ loads, i.KeepsCarry)
      (loaded : loads.foldl Machine.execute m = ready)
      (retained : t = .atHl → Retains ready.cpu.hl)
      (moved : ready.execute (.rotate op t) = done)
      (rest : ShiftChain op.continuation done xs rs m') :
      ShiftChain op m (ready.byteAt t :: xs) (done.byteAt t :: rs) m'

namespace ShiftChain

variable {op : Rotation} {m m' : Machine} {xs rs : List UInt8}

/-- There is a chain for all bytes from every machine: the bytes can be constants of the program. -/
lemma exists_for (op : Rotation) (m : Machine) (xs : List UInt8) :
    ∃ rs m', ShiftChain op m xs rs m' := by
  induction xs generalizing op m with
  | nil => exact ⟨[], m, .nil op m⟩
  | cons x xs ih =>
    let ready := m.execute (.load (.register .a) (.immediate x))
    let done := ready.execute (.rotate op (.register .a))
    have kept : ∀ i ∈ [Instruction.load (.register .a) (.immediate x)], i.KeepsCarry := by
      intro i member
      rw [List.mem_singleton.1 member]
      exact .inl ⟨_, _, rfl⟩
    obtain ⟨rs, m', rest⟩ := ih op.continuation done
    exact ⟨_, m', .cons _ (.register .a) kept rfl nofun rfl rest⟩

/-- A chain makes one byte of one. -/
lemma length_eq (chain : ShiftChain op m xs rs m') : rs.length = xs.length := by
  induction chain with
  | nil => rfl
  | cons loads t kept loaded retained moved rest ih => exact congrArg Nat.succ ih

/-- The bytes can be given from the most significant one. -/
lemma exists_for_reverse (op : Rotation) (m : Machine) (xs : List UInt8) :
    ∃ rs m', ShiftChain op m xs.reverse (List.reverse rs) m' := by
  obtain ⟨rs, m', chain⟩ := exists_for op m xs.reverse
  exact ⟨rs.reverse, m', rs.reverse_reverse.symm ▸ chain⟩

lemma length_reverse_eq (chain : ShiftChain op m xs.reverse rs.reverse m') :
    rs.length = xs.length := by
  simpa only [List.length_reverse] using chain.length_eq

/-- One step of a chain: the carry from before enters the byte, whatever was loaded. -/
lemma step_eq {ready done : Machine} {loads : List Instruction} {t : Location}
    (kept : ∀ i ∈ loads, i.KeepsCarry) (loaded : loads.foldl Machine.execute m = ready)
    (retained : t = .atHl → Retains ready.cpu.hl) (moved : ready.execute (.rotate op t) = done) :
    done.byteAt t = op.result (ready.byteAt t) m.cpu.flags.carry ∧
      done.cpu.flags.carry = op.carryOut (ready.byteAt t) := by
  have carry := m.carry_foldl_execute kept
  rw [loaded] at carry
  rw [← moved, ready.byteAt_rotate retained, ready.carry_rotate, carry]
  exact ⟨rfl, rfl⟩

/-- **The equation of a chain to the left.** With the bits that enter and leave, the integer is
doubled. -/
theorem number_left (chain : ShiftChain op m xs rs m') (moves : op.isLeft) :
    Bytes.number rs + 256 ^ xs.length * m'.cpu.flags.carry.toNat =
      2 * Bytes.number xs + (op.entering m.cpu.flags.carry xs).toNat := by
  induction chain with
  | nil op m => simp [Rotation.entering]
  | @cons op m ready done m' xs rs loads t kept loaded retained moved rest ih =>
    obtain ⟨byte, out⟩ := step_eq kept loaded retained moved
    have first := op.exact_left (ready.byteAt t) m.cpu.flags.carry moves
    have others := ih (op.isLeft_continuation.trans moves)
    rw [← byte, ← out] at first
    -- The bit that leaves this byte is the one that enters the others, so it cancels.
    rw [op.entering_continuation] at others
    rw [Bytes.number_cons, Bytes.number_cons, List.length_cons, Rotation.entering]
    linear_combination first + 256 * others

/-- **The equation of a chain to the right.** The most significant byte comes first; with the bits
that enter and leave, the integer is halved. -/
theorem number_right (chain : ShiftChain op m xs rs m') (moves : op.isLeft = false) :
    2 * Bytes.number rs.reverse + m'.cpu.flags.carry.toNat =
      Bytes.number xs.reverse +
        256 ^ xs.length * (op.entering m.cpu.flags.carry xs).toNat := by
  induction chain with
  | nil op m => simp [Rotation.entering]
  | @cons op m ready done m' xs rs loads t kept loaded retained moved rest ih =>
    obtain ⟨byte, out⟩ := step_eq kept loaded retained moved
    have first := op.exact_right (ready.byteAt t) m.cpu.flags.carry moves
    have others := ih (op.isLeft_continuation.trans moves)
    rw [← byte, ← out] at first
    rw [op.entering_continuation] at others
    rw [List.reverse_cons, List.reverse_cons, Bytes.number_concat, Bytes.number_concat,
      List.length_reverse, List.length_reverse, rest.length_eq, List.length_cons,
      Rotation.entering]
    linear_combination others + 256 ^ xs.length * first

/-- The integer that a chain of plain shifts to the left makes, and its carry. -/
lemma number_shiftLeft (chain : ShiftChain .shiftLeft m xs rs m') (some : xs ≠ []) :
    Bytes.number rs = 2 * Bytes.number xs % 256 ^ xs.length ∧
      (m'.cpu.flags.carry = true ↔ 256 ^ xs.length ≤ 2 * Bytes.number xs) := by
  have equation := chain.number_left rfl
  have room := Bytes.number_lt rs
  rw [chain.length_eq] at room
  have enters : Rotation.shiftLeft.entering m.cpu.flags.carry xs = false :=
    Rotation.entering_of_ne_nil _ _ some
  rw [enters, Bool.toNat_false, Nat.add_zero] at equation
  exact eq_mod_of_carry room equation

/-- The integer that a chain of plain shifts to the right makes, and its carry. -/
lemma number_shiftRight (chain : ShiftChain .shiftRightLogical m xs.reverse rs.reverse m')
    (some : xs ≠ []) :
    Bytes.number rs = Bytes.number xs / 2 ∧
      (m'.cpu.flags.carry = true ↔ Bytes.number xs % 2 = 1) := by
  have equation := chain.number_right rfl
  have enters : Rotation.shiftRightLogical.entering m.cpu.flags.carry xs.reverse = false :=
    Rotation.entering_of_ne_nil _ _ (mt List.reverse_eq_nil_iff.1 some)
  rw [enters, Bool.toNat_false, Nat.mul_zero, Nat.add_zero, List.reverse_reverse,
    List.reverse_reverse] at equation
  exact_mod_cast eq_half_of_carry (q := Bytes.number rs) (s := Bytes.number xs)
    (by exact_mod_cast equation)

/-- The signed integer that a chain of arithmetic shifts to the right makes, and its carry. -/
lemma signed_shiftRight (chain : ShiftChain .shiftRightArithmetic m xs.reverse rs.reverse m')
    (some : xs ≠ []) :
    Bytes.signed rs = Bytes.signed xs / 2 ∧
      (m'.cpu.flags.carry = true ↔ Bytes.number xs % 2 = 1) := by
  have equation := chain.number_right rfl
  have length := chain.length_reverse_eq
  rw [Rotation.entering_shiftRightArithmetic _ some, List.reverse_reverse, List.reverse_reverse,
    List.length_reverse] at equation
  -- The sign of the integer enters its half, so that both have the same sign.
  have sign : 256 ^ rs.length ≤ 2 * Bytes.number rs ↔ 256 ^ xs.length ≤ 2 * Bytes.number xs := by
    have room := Bytes.number_lt xs
    have bit := m'.cpu.flags.carry.toNat_lt
    rw [length]
    by_cases negative : 256 ^ xs.length ≤ 2 * Bytes.number xs
    · rw [decide_eq_true negative, Bool.toNat_true] at equation
      omega
    · rw [decide_eq_false negative, Bool.toNat_false] at equation
      omega
  have whole := Bytes.signed_add xs
  have half := Bytes.signed_add rs
  rw [decide_eq_decide.2 sign, length] at half
  generalize decide (256 ^ xs.length ≤ 2 * Bytes.number xs) = negative at equation whole half
  have shifted : 2 * Bytes.signed rs + m'.cpu.flags.carry.toNat = Bytes.signed xs := by
    zify at equation
    linear_combination equation + 2 * half - whole
  obtain ⟨result, carry⟩ := eq_half_of_carry shifted
  -- What the sign counts is even.
  have even : (2 : ℤ) ∣ 256 ^ xs.length * negative.toNat :=
    (dvd_pow (by decide) (List.length_pos_iff.2 some).ne').mul_right _
  refine ⟨result, carry.trans ?_⟩
  omega

end ShiftChain

/-- **Shifting long integers.** Let an integer be given by `n` bytes. From every machine there are
chains that shift them, to the left from the least significant byte and to the right from the most
significant one. A chain to the left makes the bytes of twice the integer modulo `256 ^ n`, and its
last carry tells whether that is too large. A chain to the right makes those of half the integer,
rounded down, and its last carry is the remainder; if it begins with the arithmetic shift, then the
integer is read in two's complement, before and after. -/
theorem shiftChain_exact (m : Machine) {n : ℕ} (pos : 1 ≤ n) {xs : List UInt8}
    (hx : xs.length = n) :
    ((∃ rs m', ShiftChain .shiftLeft m xs rs m') ∧
      ∀ rs m', ShiftChain .shiftLeft m xs rs m' →
        rs = Bytes.ofNumber n (2 * Bytes.number xs % 256 ^ n) ∧
        (m'.cpu.flags.carry = true ↔ 256 ^ n ≤ 2 * Bytes.number xs)) ∧
    ((∃ rs m', ShiftChain .shiftRightLogical m xs.reverse (List.reverse rs) m') ∧
      ∀ rs m', ShiftChain .shiftRightLogical m xs.reverse (List.reverse rs) m' →
        rs = Bytes.ofNumber n (Bytes.number xs / 2) ∧
        (m'.cpu.flags.carry = true ↔ Bytes.number xs % 2 = 1)) ∧
    ((∃ rs m', ShiftChain .shiftRightArithmetic m xs.reverse (List.reverse rs) m') ∧
      ∀ rs m', ShiftChain .shiftRightArithmetic m xs.reverse (List.reverse rs) m' →
        rs = Bytes.ofNumber n (Bytes.signed xs / 2 % 256 ^ n).toNat ∧
        Bytes.signed rs = Bytes.signed xs / 2 ∧
        (m'.cpu.flags.carry = true ↔ Bytes.number xs % 2 = 1)) := by
  subst hx
  have some : xs ≠ [] := List.length_pos_iff.1 pos
  refine ⟨⟨ShiftChain.exists_for .shiftLeft m xs, ?_⟩,
    ⟨ShiftChain.exists_for_reverse .shiftRightLogical m xs, ?_⟩,
    ShiftChain.exists_for_reverse .shiftRightArithmetic m xs, ?_⟩
  · intro rs m' chain
    obtain ⟨result, carry⟩ := chain.number_shiftLeft some
    refine ⟨?_, carry⟩
    rw [← result, ← chain.length_eq, Bytes.ofNumber_number]
  · intro rs m' chain
    obtain ⟨result, carry⟩ := chain.number_shiftRight some
    refine ⟨?_, carry⟩
    rw [← result, ← chain.length_reverse_eq, Bytes.ofNumber_number]
  · intro rs m' chain
    obtain ⟨result, carry⟩ := chain.signed_shiftRight some
    refine ⟨?_, result, carry⟩
    rw [← result, ← chain.length_reverse_eq, Bytes.signed_emod, Int.toNat_natCast,
      Bytes.ofNumber_number]

/-- The bytes are those of a negative integer, whose lowest bit goes through both. -/
theorem shiftChain_exact_negative :
    (1 ≤ 2 ∧ ([0x01, 0x81] : List UInt8).length = 2) ∧
    (∃ m', ShiftChain .shiftLeft Machine.powerOn [0x01, 0x81] [0x02, 0x02] m' ∧
      m'.cpu.flags.carry = true) ∧
    (∃ m', ShiftChain .shiftRightLogical Machine.powerOn [0x81, 0x01] [0x40, 0x80] m' ∧
      m'.cpu.flags.carry = true) ∧
    ∃ m', ShiftChain .shiftRightArithmetic Machine.powerOn [0x81, 0x01] [0xC0, 0x80] m' ∧
      m'.cpu.flags.carry = true := by
  have two : 1 ≤ 2 := by decide
  have hx : ([0x01, 0x81] : List UInt8).length = 2 := rfl
  obtain ⟨⟨⟨rs, m', doubling⟩, double⟩, ⟨⟨hs, m'', halving⟩, half⟩, ⟨ss, n, keeping⟩, signed⟩ :=
    shiftChain_exact Machine.powerOn two hx
  refine ⟨⟨two, hx⟩, ⟨m', ?_⟩, ⟨m'', ?_⟩, n, ?_⟩
  · obtain ⟨result, carry⟩ := double rs m' doubling
    obtain rfl : rs = [0x02, 0x02] := result.trans (by decide)
    exact ⟨doubling, carry.2 (by decide)⟩
  · obtain ⟨result, carry⟩ := half hs m'' halving
    obtain rfl : hs = [0x80, 0x40] := result.trans (by decide)
    exact ⟨halving, carry.2 (by decide)⟩
  · obtain ⟨result, -, carry⟩ := signed ss n keeping
    obtain rfl : ss = [0x80, 0xC0] := result.trans (by decide)
    exact ⟨keeping, carry.2 (by decide)⟩

end GameBoy
