import Conveyor.Number.Binary64

/-!
The arithmetic of binary64 numbers, rounding to nearest. A ratio of natural numbers is rounded once:
first the power of two is chosen at which it has fifty-three binary places, or fewer where the
exponents end, then the multiple of that power nearest to the ratio, ties going to the even one. The
bits of the result are a sum of the two parts, so that a multiple that rounds up to the next power of
two carries into the exponent by itself. Products and quotients of numbers are ratios of their
significands and powers, and are rounded like any other.
-/

namespace Conveyor.Binary64

/-- The integer nearest to a ratio; a tie goes to the even one. -/
def roundedRatio (numerator denominator : Nat) : Nat :=
  let below := numerator / denominator
  let rest := 2 * (numerator % denominator)
  if denominator < rest ∨ (rest = denominator ∧ below % 2 = 1) then below + 1 else below

/-- The greatest power of two that is not above a ratio of positive numbers. -/
def floorPower (numerator denominator : Nat) : Int :=
  let guess := (numerator.log2 : Int) - denominator.log2
  if numerator * Nat.pow 2 (-guess).toNat < denominator * Nat.pow 2 guess.toNat then guess - 1
  else guess

/-- The least power of two that scales a significand. -/
def leastPower : Int := -1074

/-- The power that scales the significand of a ratio: what is above the fifty-third binary place is
kept, but nothing below the last place of subnormal numbers. -/
def ratioPower (numerator denominator : Nat) : Int :=
  max leastPower (floorPower numerator denominator - 52)

/-- The bits of the positive infinity. -/
def infinityBits : Nat := 2047 * Nat.pow 2 52

/-- The bits of the number nearest to a ratio; a ratio too large for any is infinite. -/
def nearestBits (numerator denominator : Nat) : Nat :=
  let power := ratioPower numerator denominator
  let digits :=
    roundedRatio (numerator * Nat.pow 2 (-power).toNat) (denominator * Nat.pow 2 power.toNat)
  min infinityBits ((power - leastPower).toNat * Nat.pow 2 52 + digits)

/-- The number nearest to a ratio, with the given sign. -/
def ofRatio (negative : Bool) (numerator denominator : Nat) : Binary64 :=
  let size := if numerator = 0 then 0 else nearestBits numerator denominator
  ⟨.ofNat (if negative then Nat.pow 2 63 + size else size)⟩

/-- The number nearest to an integer. -/
def ofInt (n : Int) : Binary64 :=
  ofRatio (n < 0) n.natAbs 1

/-- The number nearest to a power of ten; the greatest that is not infinite is `10 ^ 308`. -/
def powerOfTen (exponent : Nat) : Binary64 :=
  ofRatio false (Nat.pow 10 exponent) 1

/-- The number nearest to a product of finite numbers. -/
def times (x y : Binary64) : Binary64 :=
  let power := x.power + y.power
  ofRatio (x.isNegative != y.isNegative)
    (x.significand * y.significand * Nat.pow 2 power.toNat) (Nat.pow 2 (-power).toNat)

/-- The number nearest to a quotient of finite numbers, the second other than zero. -/
def dividedBy (x y : Binary64) : Binary64 :=
  let power := x.power - y.power
  ofRatio (x.isNegative != y.isNegative)
    (x.significand * Nat.pow 2 power.toNat) (y.significand * Nat.pow 2 (-power).toNat)

/-- The same number with the other sign. -/
def negated (x : Binary64) : Binary64 :=
  ⟨x.bits ^^^ 0x8000000000000000⟩

end Conveyor.Binary64
