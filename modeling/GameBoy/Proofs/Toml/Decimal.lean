import GameBoy.Toml.Decimal
import Mathlib.Algebra.Order.Ring.Nat
import Mathlib.Tactic.Common

/-!
# Infinite decimal numbers

Whether a decimal number is infinite as a binary number of 64 bits is an exact comparison with a
bound, `Decimal.reachesBound`. The powers of ten in it can be as large as the exponent is written,
so `Decimal.isInfinite` makes the comparison only if the number has as many places in front of the
point as the bound. The two agree (`Decimal.isInfinite_eq`), because digits lie between the powers
of ten that their number names.
-/

namespace GameBoy.Toml.Decimal

/-- The bound has 309 places. -/
lemma infinityBound_places : 10 ^ 308 ≤ infinityBound ∧ infinityBound ≤ 10 ^ 309 := by
  decide +kernel

/-- Moving a power of ten to the other side keeps an order of magnitudes. -/
lemma mul_pow_le_mul_pow {a b i j p q : ℕ} (low : a ≤ 10 ^ i) (high : 10 ^ j ≤ b)
    (h : i + q ≤ j + p) : a * 10 ^ q ≤ b * 10 ^ p :=
  calc a * 10 ^ q ≤ 10 ^ i * 10 ^ q := Nat.mul_le_mul_right _ low
    _ = 10 ^ (i + q) := (pow_add ..).symm
    _ ≤ 10 ^ (j + p) := Nat.pow_le_pow_right (by decide) h
    _ = 10 ^ j * 10 ^ p := pow_add ..
    _ ≤ b * 10 ^ p := Nat.mul_le_mul_right _ high

variable (d : Decimal)

/-- The digits lie between two powers of ten, which their number names. -/
lemma digits_bounds (nonzero : d.digits ≠ 0) :
    10 ^ ((Nat.toDigits 10 d.digits).length - 1) ≤ d.digits ∧
      d.digits < 10 ^ (Nat.toDigits 10 d.digits).length := by
  have pos : 0 < (Nat.toDigits 10 d.digits).length := Nat.length_toDigits_pos
  refine ⟨?_, (Nat.length_toDigits_le_iff (by decide) pos).1 (Nat.le_refl _)⟩
  rcases Nat.eq_zero_or_pos ((Nat.toDigits 10 d.digits).length - 1) with one | more
  · rw [one]
    exact Nat.one_le_iff_ne_zero.2 nonzero
  · refine Nat.le_of_not_lt fun below => ?_
    have short := (Nat.length_toDigits_le_iff (by decide) more).2 below
    omega

lemma reachesBound_iff :
    d.reachesBound = true ↔
      infinityBound * 10 ^ (-d.exponent).toNat ≤ d.digits * 10 ^ d.exponent.toNat :=
  decide_eq_true_iff

/-- Zero does not reach the bound. -/
lemma reachesBound_of_zero (zero : d.digits = 0) : d.reachesBound = false := by
  rw [Bool.eq_false_iff, Ne, reachesBound_iff, zero, Nat.zero_mul, Nat.not_le]
  exact Nat.mul_pos (Nat.lt_of_lt_of_le (Nat.pow_pos (by decide)) infinityBound_places.1)
    (Nat.pow_pos (by decide))

/-- A number with fewer places than the bound does not reach it. -/
lemma reachesBound_of_places_lt (nonzero : d.digits ≠ 0) (few : d.places < 309) :
    d.reachesBound = false := by
  obtain ⟨-, upper⟩ := d.digits_bounds nonzero
  rw [Bool.eq_false_iff, Ne, reachesBound_iff, Nat.not_le]
  calc d.digits * 10 ^ d.exponent.toNat
      < (d.digits + 1) * 10 ^ d.exponent.toNat :=
        (Nat.mul_lt_mul_right (Nat.pow_pos (by decide))).2 (Nat.lt_succ_self _)
    _ ≤ infinityBound * 10 ^ (-d.exponent).toNat :=
        mul_pow_le_mul_pow upper infinityBound_places.1 (by unfold places at few; omega)

/-- A number with more places than the bound reaches it. -/
lemma reachesBound_of_lt_places (nonzero : d.digits ≠ 0) (many : 309 < d.places) :
    d.reachesBound = true := by
  obtain ⟨lower, -⟩ := d.digits_bounds nonzero
  have pos : 0 < (Nat.toDigits 10 d.digits).length := Nat.length_toDigits_pos
  rw [reachesBound_iff]
  exact mul_pow_le_mul_pow infinityBound_places.2 lower (by unfold places at many; omega)

/-- **The number of places decides** as the exact comparison does. -/
theorem isInfinite_eq : d.isInfinite = d.reachesBound := by
  by_cases zero : d.digits = 0
  · rw [reachesBound_of_zero d zero, isInfinite, zero]
    rfl
  · have nonzero : (d.digits != 0) = true := bne_iff_ne.2 zero
    rw [isInfinite, nonzero, Bool.true_and]
    rcases Int.lt_trichotomy d.places 309 with few | same | many
    · rw [reachesBound_of_places_lt d zero few, Bool.and_false, Bool.or_false,
        decide_eq_false_iff_not]
      omega
    · simp [same]
    · rw [reachesBound_of_lt_places d zero many, decide_eq_true many, Bool.true_or]

end GameBoy.Toml.Decimal
