/-!
Binary64 numbers, held by the 64 bits of their interchange form. Two numbers are equal as values of
this type exactly when their bits are; `sameNumber` is the arithmetic comparison, for which the two
zeros are one number and nothing equals a not-a-number. A finite number is `significand · 2 ^ power`
up to its sign, and everything this library prints is computed from these two integers.
-/

namespace Conveyor

/-- A binary64 number: a sign bit, eleven exponent bits and fifty-two fraction bits. -/
structure Binary64 where
  bits : UInt64
  deriving DecidableEq, Inhabited, Repr

namespace Binary64

/-- The sign bit, set for negative numbers and for the negative zero. -/
def isNegative (x : Binary64) : Bool :=
  Nat.pow 2 63 ≤ x.bits.toNat

/-- The exponent field, from 0 for subnormal numbers to 2047 for infinities and not-a-numbers. -/
def exponentField (x : Binary64) : Nat :=
  x.bits.toNat / Nat.pow 2 52 % Nat.pow 2 11

/-- The fraction field. -/
def fractionField (x : Binary64) : Nat :=
  x.bits.toNat % Nat.pow 2 52

/-- Everything but infinities and not-a-numbers. -/
def isFinite (x : Binary64) : Bool :=
  x.exponentField != 2047

/-- Not-a-number: the highest exponent with a fraction. -/
def isNaN (x : Binary64) : Bool :=
  x.exponentField == 2047 && x.fractionField != 0

/-- Either zero. -/
def isZero (x : Binary64) : Bool :=
  x.exponentField == 0 && x.fractionField == 0

/-- The integer that `power` scales. Normal numbers have a leading bit that is not stored. -/
def significand (x : Binary64) : Nat :=
  if x.exponentField = 0 then x.fractionField else Nat.pow 2 52 + x.fractionField

/-- The power of two that scales `significand`. -/
def power (x : Binary64) : Int :=
  if x.exponentField = 0 then -1074 else (x.exponentField : Int) - 1075

/-- Whether the gap to the next smaller number is half the gap to the next larger one, as it is where
the exponent steps. -/
def atStep (x : Binary64) : Bool :=
  x.fractionField == 0 && 1 < x.exponentField

/-- Arithmetic equality: the zeros agree, and nothing agrees with a not-a-number. -/
def sameNumber (x y : Binary64) : Bool :=
  !x.isNaN && !y.isNaN && (x.bits == y.bits || (x.isZero && y.isZero))

end Binary64

end Conveyor
