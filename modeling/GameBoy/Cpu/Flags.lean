/-!
# Flags

Four flags describe the result of an arithmetic instruction. They are kept apart, and packed into
the upper half of a byte only where a program sees them as the lower byte of the pair `AF`.
-/

namespace GameBoy

/-- The flags of the processor. -/
structure Flags where
  /-- The result was zero. -/
  zero : Bool
  /-- The operation was a subtraction. -/
  subtract : Bool
  /-- There was a carry out of the lower half of the byte. -/
  halfCarry : Bool
  /-- There was a carry out of the byte. -/
  carry : Bool
  deriving DecidableEq, Repr

namespace Flags

/-- The flags as a byte, whose lower half is zero. -/
def toByte (f : Flags) : UInt8 :=
  (if f.zero then 0x80 else 0) ||| (if f.subtract then 0x40 else 0) |||
    (if f.halfCarry then 0x20 else 0) ||| (if f.carry then 0x10 else 0)

/-- The flags in a byte, whose lower half is ignored. -/
def ofByte (b : UInt8) : Flags where
  zero := b &&& 0x80 != 0
  subtract := b &&& 0x40 != 0
  halfCarry := b &&& 0x20 != 0
  carry := b &&& 0x10 != 0

/-- Replaces the flags for which a value is given. -/
def update (f : Flags) (zero subtract halfCarry carry : Option Bool) : Flags where
  zero := zero.getD f.zero
  subtract := subtract.getD f.subtract
  halfCarry := halfCarry.getD f.halfCarry
  carry := carry.getD f.carry

@[simp] theorem ofByte_toByte (f : Flags) : ofByte f.toByte = f := by
  rcases f with ⟨z, n, h, c⟩
  cases z <;> cases n <;> cases h <;> cases c <;> rfl

end Flags

end GameBoy
