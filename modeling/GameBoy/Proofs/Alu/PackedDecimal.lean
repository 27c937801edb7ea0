import GameBoy.Alu
import Mathlib.Data.Nat.Digits.Defs
import Mathlib.Data.Nat.Digits.Lemmas
import Mathlib.Tactic.Linarith

/-!
# Packed decimals

A byte can hold two decimal digits, one in each half, and a list of such bytes holds a decimal
number, the least significant byte first. The processor adds and subtracts such bytes as if they
were binary, and `Alu.decimalAdjust` corrects the halves of the result afterwards. The correction
needs to know where the operation carried: a sum of two digits that is ten or more either left the
half of the byte or stays in it as no digit, and six more brings it to its second digit.

What comes out is decimal arithmetic: `Alu.value_decimal` is the one equation for all four
operations, which differ in a sign and in whether they take a carry.
-/

namespace GameBoy

/-! ## The carry out of a number -/

/-- A sum that has `B` values to hold it is kept modulo `B`, and the carry tells whether it was too
large. -/
lemma eq_mod_of_carry {r s B : ℕ} {c : Bool} (room : r < B) (total : r + B * c.toNat = s) :
    r = s % B ∧ (c = true ↔ B ≤ s) := by
  subst total
  cases c with
  | false =>
    rw [Bool.toNat_false, Nat.mul_zero, Nat.add_zero, Nat.mod_eq_of_lt room]
    exact ⟨rfl, fun h => absurd h Bool.false_ne_true, fun h => absurd room h.not_gt⟩
  | true =>
    rw [Bool.toNat_true, Nat.mul_one, Nat.add_mod_right, Nat.mod_eq_of_lt room]
    exact ⟨rfl, fun _ => Nat.le_add_left B r, fun _ => rfl⟩

/-- A difference that has `B` values to hold it is kept modulo `B`, and the borrow tells whether it
was negative. -/
lemma eq_emod_of_borrow {r x y B : ℕ} {c : Bool} (room : r < B)
    (total : (r : ℤ) - B * c.toNat = x - y) :
    (r : ℤ) = ((x : ℤ) - y) % B ∧ (c = true ↔ x < y) := by
  rw [← total]
  have least := Int.natCast_nonneg r
  have room' : (r : ℤ) < B := by exact_mod_cast room
  cases c with
  | false =>
    rw [Bool.toNat_false, Nat.cast_zero, mul_zero, sub_zero] at total ⊢
    rw [Int.emod_eq_of_lt least room']
    exact ⟨rfl, fun h => absurd h Bool.false_ne_true, fun h => by omega⟩
  | true =>
    rw [Bool.toNat_true, Nat.cast_one, mul_one] at total ⊢
    rw [Int.sub_emod_right, Int.emod_eq_of_lt least room']
    exact ⟨rfl, fun _ => by omega, fun _ => rfl⟩

/-! ## Numbers -/

namespace Decimal

/-- Both halves of a byte are decimal digits. -/
def IsPacked (v : UInt8) : Prop := v.toNat / 16 ≤ 9 ∧ v.toNat % 16 ≤ 9

instance (v : UInt8) : Decidable (IsPacked v) := inferInstanceAs (Decidable (_ ∧ _))

/-- The number whose two decimal digits are the halves of a byte. -/
def value (v : UInt8) : ℕ := 10 * (v.toNat / 16) + v.toNat % 16

/-- The byte whose halves are the two decimal digits of a number below a hundred. -/
def pack (n : ℕ) : UInt8 := UInt8.ofNat (16 * (n / 10) + n % 10)

/-- The number that a list of bytes denotes, the least significant byte first. -/
def number (bytes : List UInt8) : ℕ := Nat.ofDigits 100 (bytes.map value)

/-- The last digits of a number, two in a byte and as many bytes as are asked for. -/
def digits : ℕ → ℕ → List UInt8
  | 0, _ => []
  | bytes + 1, n => pack (n % 100) :: digits bytes (n / 100)

lemma value_lt {v : UInt8} (packed : IsPacked v) : value v < 100 := by
  obtain ⟨tens, ones⟩ := packed
  unfold value
  omega

/-- A packed byte is determined by its value. -/
lemma pack_value {v : UInt8} (packed : IsPacked v) : pack (value v) = v := by
  obtain ⟨tens, ones⟩ := packed
  have halves : 16 * (value v / 10) + value v % 10 = v.toNat := by
    unfold value
    omega
  rw [pack, halves, UInt8.ofNat_toNat]

@[simp] theorem number_nil : number [] = 0 := rfl

@[simp] theorem number_cons (v : UInt8) (bytes : List UInt8) :
    number (v :: bytes) = value v + 100 * number bytes := Nat.ofDigits_cons

/-- Packed bytes denote a number with two digits for each. -/
lemma number_lt {bytes : List UInt8} (packed : ∀ v ∈ bytes, IsPacked v) :
    number bytes < 100 ^ bytes.length := by
  have small : ∀ d ∈ bytes.map value, d < 100 := by
    intro d member
    obtain ⟨v, stored, rfl⟩ := List.mem_map.1 member
    exact value_lt (packed v stored)
  have lt := Nat.ofDigits_lt_base_pow_length (by decide) small
  rwa [List.length_map] at lt

/-- Packed bytes are the digits of the number that they denote. -/
lemma digits_number {bytes : List UInt8} (packed : ∀ v ∈ bytes, IsPacked v) :
    digits bytes.length (number bytes) = bytes := by
  induction bytes with
  | nil => rfl
  | cons v bytes ih =>
    obtain ⟨first, others⟩ := List.forall_mem_cons.1 packed
    have lt := value_lt first
    have low : number (v :: bytes) % 100 = value v := by
      rw [number_cons]
      omega
    have high : number (v :: bytes) / 100 = number bytes := by
      rw [number_cons]
      omega
    rw [List.length_cons, digits, low, high, pack_value first, ih others]

end Decimal

/-! ## One byte -/

namespace Alu

open Decimal

/-! ### After an addition -/

section Sum

variable (v : UInt8) {f : Flags} (sum : f.subtract = false)

include sum

/-- After a sum the tens are corrected if they carried or the byte is too large. -/
lemma carry_decimalAdjust_of_sum :
    (decimalAdjust v f).2.carry = true ↔ f.carry = true ∨ 0x99 < v.toNat := by
  simp [decimalAdjust, sum, UInt8.lt_iff_toNat_lt]

lemma toNat_decimalAdjust_of_sum :
    (decimalAdjust v f).1.toNat =
      (v.toNat + (if f.carry = true ∨ 0x99 < v.toNat then 0x60 else 0) +
        (if f.halfCarry = true ∨ 9 < v.toNat % 16 then 0x06 else 0)) % 256 := by
  have half : (v &&& 0x0F).toNat = v.toNat % 16 := by
    rw [UInt8.toNat_and]
    exact Nat.and_two_pow_sub_one_eq_mod v.toNat 4
  have tens : (f.carry || (!f.subtract && decide (0x99 < v))) = true ↔
      f.carry = true ∨ 0x99 < v.toNat := by
    simp [sum, UInt8.lt_iff_toNat_lt]
  have ones : (f.halfCarry || (!f.subtract && decide (0x09 < v &&& 0x0F))) = true ↔
      f.halfCarry = true ∨ 9 < v.toNat % 16 := by
    rw [← half]
    simp [sum, UInt8.lt_iff_toNat_lt]
  simp only [decimalAdjust, tens, ones]
  rw [if_neg (by simp [sum]), UInt8.toNat_add, UInt8.toNat_add]
  split_ifs <;> simp

end Sum

/-- **The decimal sum** of two bytes of two digits and a carry. The ones are corrected exactly if
their sum has two digits, and the tens exactly if the sum has three. -/
theorem value_decimalAdjust_add {x y : UInt8} (hx : IsPacked x) (hy : IsPacked y) (c : Bool) :
    IsPacked (decimalAdjust (add x y c).1 (add x y c).2).1 ∧
      value (decimalAdjust (add x y c).1 (add x y c).2).1 +
        100 * (decimalAdjust (add x y c).1 (add x y c).2).2.carry.toNat =
      value x + value y + c.toNat := by
  have bit := c.toNat_lt
  obtain ⟨hx₁, hx₂⟩ := hx
  obtain ⟨hy₁, hy₂⟩ := hy
  have total : (add x y c).1.toNat = (x.toNat + y.toNat + c.toNat) % 256 := UInt8.toNat_ofNat'
  have half : (add x y c).2.halfCarry = true ↔ 0x0F < x.toNat % 16 + y.toNat % 16 + c.toNat :=
    decide_eq_true_iff
  have full : (add x y c).2.carry = true ↔ 0xFF < x.toNat + y.toNat + c.toNat :=
    decide_eq_true_iff
  have ones : (add x y c).2.halfCarry = true ∨ 9 < (add x y c).1.toNat % 16 ↔
      10 ≤ x.toNat % 16 + y.toNat % 16 + c.toNat := by
    rw [half, total]
    omega
  have tens : (add x y c).2.carry = true ∨ 0x99 < (add x y c).1.toNat ↔
      100 ≤ value x + value y + c.toNat := by
    rw [full, total, value, value]
    omega
  have carry := carry_decimalAdjust_of_sum (add x y c).1 (f := (add x y c).2) rfl
  have result := toNat_decimalAdjust_of_sum (add x y c).1 (f := (add x y c).2) rfl
  simp only [ones, tens] at result
  rw [total] at result
  rw [tens] at carry
  by_cases hundred : 100 ≤ value x + value y + c.toNat
  · rw [if_pos hundred] at result
    rw [carry.2 hundred, Bool.toNat_true]
    unfold IsPacked value at *
    split_ifs at result <;> omega
  · rw [if_neg hundred] at result
    rw [Bool.eq_false_iff.2 (mt carry.1 hundred), Bool.toNat_false]
    unfold IsPacked value at *
    split_ifs at result <;> omega

/-! ### After a subtraction -/

section Difference

variable (v : UInt8) {f : Flags} (difference : f.subtract = true)

include difference

/-- After a difference the tens are corrected if they borrowed. -/
lemma carry_decimalAdjust_of_difference : (decimalAdjust v f).2.carry = f.carry := by
  simp [decimalAdjust, difference]

lemma toNat_decimalAdjust_of_difference :
    (decimalAdjust v f).1.toNat =
      (v.toNat + 256 - (if f.carry = true then 0x60 else 0) -
        (if f.halfCarry = true then 0x06 else 0)) % 256 := by
  have tens : (f.carry || (!f.subtract && decide (0x99 < v))) = f.carry := by
    simp [difference]
  have ones : (f.halfCarry || (!f.subtract && decide (0x09 < v &&& 0x0F))) = f.halfCarry := by
    simp [difference]
  simp only [decimalAdjust, tens, ones]
  rw [if_pos difference, UInt8.toNat_sub]
  split_ifs <;> simp <;> omega

end Difference

/-- **The decimal difference** of two bytes of two digits less a borrow. The ones are corrected
exactly if they borrow, and so are the tens. -/
theorem value_decimalAdjust_subtract {x y : UInt8} (hx : IsPacked x) (hy : IsPacked y) (c : Bool) :
    IsPacked (decimalAdjust (subtract x y c).1 (subtract x y c).2).1 ∧
      value (decimalAdjust (subtract x y c).1 (subtract x y c).2).1 + value y + c.toNat =
      value x + 100 * (decimalAdjust (subtract x y c).1 (subtract x y c).2).2.carry.toNat := by
  have bit := c.toNat_lt
  have xLt := x.toNat_lt
  have yLt := y.toNat_lt
  obtain ⟨hx₁, hx₂⟩ := hx
  obtain ⟨hy₁, hy₂⟩ := hy
  have total : (subtract x y c).1.toNat =
      if x.toNat < y.toNat + c.toNat then x.toNat + 256 - (y.toNat + c.toNat)
      else x.toNat - (y.toNat + c.toNat) := by
    change (x - y - UInt8.ofNat c.toNat).toNat = _
    rw [UInt8.toNat_sub, UInt8.toNat_sub, UInt8.toNat_ofNat']
    split_ifs <;> omega
  have ones : (subtract x y c).2.halfCarry = true ↔ x.toNat % 16 < y.toNat % 16 + c.toNat :=
    decide_eq_true_iff
  have tens : (subtract x y c).2.carry = true ↔ x.toNat < y.toNat + c.toNat :=
    decide_eq_true_iff
  have result := toNat_decimalAdjust_of_difference (subtract x y c).1 (f := (subtract x y c).2) rfl
  simp only [ones, tens] at result
  rw [total] at result
  rw [carry_decimalAdjust_of_difference _ rfl]
  by_cases less : x.toNat < y.toNat + c.toNat
  · rw [if_pos less, if_pos less] at result
    rw [tens.2 less, Bool.toNat_true]
    unfold IsPacked value
    split_ifs at result <;> omega
  · rw [if_neg less, if_neg less] at result
    rw [Bool.eq_false_iff.2 (mt tens.1 less), Bool.toNat_false]
    unfold IsPacked value
    split_ifs at result <;> omega

end Alu

/-! ## The four operations -/

namespace Arithmetic

/-- The operation adds or subtracts. -/
def isDecimal : Arithmetic → Bool
  | add | addWithCarry | subtract | subtractWithCarry => true
  | and | xor | or | compare => false

/-- The sign with which an operation takes its operand. -/
def sign : Arithmetic → ℤ
  | subtract | subtractWithCarry | compare => -1
  | add | addWithCarry | and | xor | or => 1

/-- The carry that an operation takes. -/
def carryIn (op : Arithmetic) (f : Flags) : Bool :=
  match op with
  | addWithCarry | subtractWithCarry => f.carry
  | add | subtract | and | xor | or | compare => false

/-- The operation that goes on with the next byte. -/
def continuation : Arithmetic → Arithmetic
  | add | addWithCarry => addWithCarry
  | subtract | subtractWithCarry => subtractWithCarry
  | op => op

variable {op : Arithmetic}

lemma sign_continuation : op.continuation.sign = op.sign := by
  cases op <;> rfl

lemma isDecimal_continuation : op.continuation.isDecimal = op.isDecimal := by
  cases op <;> rfl

/-- The next byte takes the carry. -/
lemma carryIn_continuation (decimal : op.isDecimal) (f : Flags) :
    op.continuation.carryIn f = f.carry := by
  cases op with
  | and | xor | or | compare => cases decimal
  | _ => rfl

end Arithmetic

namespace Alu

open Decimal

/-- An operation on two bytes, with its result made decimal. -/
def decimal (op : Arithmetic) (x y : UInt8) (f : Flags) : UInt8 × Flags :=
  decimalAdjust (op.apply x y f).1 (op.apply x y f).2

/-- **Decimal arithmetic on bytes.** From two packed bytes an operation makes a packed byte. Its
value, with the carry that goes out, is that of the operands, with the carry that comes in. -/
theorem value_decimal {op : Arithmetic} (isDecimal : op.isDecimal) {x y : UInt8}
    (hx : IsPacked x) (hy : IsPacked y) (f : Flags) :
    IsPacked (decimal op x y f).1 ∧
      (value (decimal op x y f).1 : ℤ) + op.sign * (100 * (decimal op x y f).2.carry.toNat) =
        value x + op.sign * (value y + (op.carryIn f).toNat) := by
  have sum (c : Bool) :
      IsPacked (decimalAdjust (add x y c).1 (add x y c).2).1 ∧
        (value (decimalAdjust (add x y c).1 (add x y c).2).1 : ℤ) +
          1 * (100 * (decimalAdjust (add x y c).1 (add x y c).2).2.carry.toNat) =
        value x + 1 * (value y + c.toNat) := by
    obtain ⟨packed, balance⟩ := value_decimalAdjust_add hx hy c
    exact ⟨packed, by omega⟩
  have difference (c : Bool) :
      IsPacked (decimalAdjust (subtract x y c).1 (subtract x y c).2).1 ∧
        (value (decimalAdjust (subtract x y c).1 (subtract x y c).2).1 : ℤ) +
          -1 * (100 * (decimalAdjust (subtract x y c).1 (subtract x y c).2).2.carry.toNat) =
        value x + -1 * (value y + c.toNat) := by
    obtain ⟨packed, balance⟩ := value_decimalAdjust_subtract hx hy c
    exact ⟨packed, by omega⟩
  cases op with
  | add => exact sum false
  | addWithCarry => exact sum f.carry
  | subtract => exact difference false
  | subtractWithCarry => exact difference f.carry
  | and | xor | or | compare => cases isDecimal

end Alu

end GameBoy
