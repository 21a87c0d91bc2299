import Conveyor.Number.Nearest

/-!
Numbers from decimal digits. The digits that fit into 64 bits become an integer, the integer becomes
the nearest binary64 number, and that number is multiplied or divided by a power of ten, rounding
once more. Digits that no longer fit are dropped; before the point they still count as places.
-/

namespace Conveyor

/-- Leading digits, and the power of ten that scales them. -/
structure Scaled where
  digits : Nat
  exponent : Int
  deriving DecidableEq, Repr

namespace Scaled

/-- The first value that does not fit into 64 bits. -/
def bound : Nat := UInt64.size

/-- Takes the digits before the point, as long as they fit. -/
def takeWhole (start : Nat) : List Nat → Scaled
  | [] => ⟨start, 0⟩
  | digit :: rest =>
    if start * 10 + digit < bound then takeWhole (start * 10 + digit) rest
    else ⟨start, (rest.length : Int) + 1⟩

/-- Appends the digits after the point, as long as they fit. -/
def takeFraction (start : Scaled) : List Nat → Scaled
  | [] => start
  | digit :: rest =>
    if start.digits * 10 + digit < bound then
      takeFraction ⟨start.digits * 10 + digit, start.exponent - 1⟩ rest
    else start

/-- The greatest power of ten that is a binary64 number. -/
def greatestPower : Nat := 308

/-- Divides by a power of ten of any size, in steps. -/
def divide (steps : Nat) (value : Binary64) (exponent : Nat) : Binary64 :=
  match steps with
  | 0 => value
  | steps + 1 =>
    if exponent ≤ greatestPower then value.dividedBy (.powerOfTen exponent)
    else if value.isZero then value
    else divide steps (value.dividedBy (.powerOfTen greatestPower)) (exponent - greatestPower)

/-- The number without a sign; `none` if it is too large. -/
def size? (scaled : Scaled) : Option Binary64 :=
  let start := Binary64.ofInt scaled.digits
  if scaled.exponent < 0 then some (divide 8 start scaled.exponent.natAbs)
  else if scaled.digits = 0 then some start
  else if scaled.exponent.toNat ≤ greatestPower then
    let product := start.times (.powerOfTen scaled.exponent.toNat)
    if product.isFinite then some product else none
  else none

/-- The number; `none` if it is too large. -/
def toBinary64? (scaled : Scaled) (negative : Bool) : Option Binary64 :=
  scaled.size?.map fun size => if negative then size.negated else size

end Scaled

end Conveyor
