/-!
# Words and their bytes

The processor works on bytes (`UInt8`) and on words (`UInt16`): addresses, register pairs and
stack entries. This file takes words apart and puts them together, and moves an address by a
signed byte. The lemmas say that the two halves determine the word.
-/

namespace GameBoy.Word

/-- The word with the given upper and lower byte. -/
def ofBytes (high low : UInt8) : UInt16 := high.toUInt16 <<< 8 ||| low.toUInt16

/-- The upper byte of a word. -/
def high (w : UInt16) : UInt8 := (w >>> 8).toUInt8

/-- The lower byte of a word. -/
def low (w : UInt16) : UInt8 := w.toUInt8

/-- The word `e` places after `w`, or before it for a negative `e`; addresses wrap around. -/
def displace (w : UInt16) (e : Int8) : UInt16 := w + e.toInt16.toUInt16

/-- The value of a word is that of its bytes in base 256. -/
theorem toNat_ofBytes (h l : UInt8) : (ofBytes h l).toNat = 256 * h.toNat + l.toNat := by
  have hh := h.toNat_lt
  have hl := l.toNat_lt
  have e : h.toNat <<< 8 = 256 * h.toNat := by simp [Nat.shiftLeft_eq]; omega
  simp only [ofBytes, UInt16.toNat_or, UInt16.toNat_shiftLeft, UInt8.toNat_toUInt16]
  rw [show (8 : UInt16).toNat % 16 = 8 from rfl,
    Nat.mod_eq_of_lt (a := h.toNat <<< 8) (by omega),
    ← Nat.shiftLeft_add_eq_or_of_lt (by omega : l.toNat < 2 ^ 8), e]

/-- The upper byte is the quotient by 256. -/
theorem toNat_high (w : UInt16) : (high w).toNat = w.toNat / 256 := by
  have hw := w.toNat_lt
  simp [high, Nat.shiftRight_eq_div_pow]
  omega

/-- The lower byte is the remainder modulo 256. -/
theorem toNat_low (w : UInt16) : (low w).toNat = w.toNat % 256 := by
  simp [low]

@[simp] theorem high_ofBytes (h l : UInt8) : high (ofBytes h l) = h := by
  have hl := l.toNat_lt
  apply UInt8.toNat_inj.1
  rw [toNat_high, toNat_ofBytes]
  omega

@[simp] theorem low_ofBytes (h l : UInt8) : low (ofBytes h l) = l := by
  have hl := l.toNat_lt
  apply UInt8.toNat_inj.1
  rw [toNat_low, toNat_ofBytes]
  omega

@[simp] theorem ofBytes_high_low (w : UInt16) : ofBytes (high w) (low w) = w := by
  apply UInt16.toNat_inj.1
  rw [toNat_ofBytes, toNat_high, toNat_low]
  omega

end GameBoy.Word
