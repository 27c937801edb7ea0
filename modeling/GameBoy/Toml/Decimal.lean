/-!
# Decimal numbers

A number with a fraction or an exponent is kept as it is written: a sign, digits and a power of ten.
As a binary number of 64 bits it would be infinite if its magnitude is too great.
`Decimal.isInfinite` decides that, and computes a power of ten only close to the bound.
-/

namespace GameBoy.Toml

/-- The number `digits * 10 ^ exponent`, or its negative. -/
structure Decimal where
  /-- The number is negative. -/
  negative : Bool
  /-- The digits, read as a natural number. -/
  digits : Nat
  /-- The power of ten. -/
  exponent : Int
  deriving DecidableEq, Repr

namespace Decimal

/-- The least magnitude that is infinite as a binary number of 64 bits. It lies half a unit of the
last place above the greatest finite one, and a tie goes to the even neighbour. -/
def infinityBound : Nat := Nat.pow 2 1024 - Nat.pow 2 970

/-- The number of decimal places in front of the point, for a number that is not zero. -/
def places (d : Decimal) : Int := (Nat.toDigits 10 d.digits).length + d.exponent

/-- The magnitude reaches the bound. The negative part of the exponent stands on the other side. -/
def reachesBound (d : Decimal) : Bool :=
  infinityBound * Nat.pow 10 (-d.exponent).toNat ≤ d.digits * Nat.pow 10 d.exponent.toNat

/-- The number is infinite as a binary number of 64 bits. The bound has 309 places. -/
def isInfinite (d : Decimal) : Bool :=
  d.digits != 0 && (309 < d.places || (d.places == 309 && d.reachesBound))

end Decimal

end GameBoy.Toml
