import Conveyor.Number.Shortest

/-!
How numbers are written. A style says which finite numbers are written positionally, what marks an
integral value, which of two equally near shortest decimals is taken, and how the values that are no
numbers are spelled. The library has the style `Style.display` for payloads, which never uses an
exponent, and `Style.json` for documents and for what a message says about them.
-/

namespace Conveyor

/-- The decimal digits of a natural number. -/
def digitsOf (n : Nat) : List Char :=
  Nat.toDigits 10 n

namespace Decimal

/-- How many digits stand before the decimal point; negative if zeros follow the point. -/
def point (d : Decimal) : Int :=
  (digitsOf d.digits).length + d.exponent

/-- Positional form; `whole` is what follows an integral value. -/
def positional (d : Decimal) (whole : String) : String :=
  let digits := digitsOf d.digits
  if 0 ≤ d.exponent then
    String.ofList (digits ++ List.replicate d.exponent.toNat '0') ++ whole
  else if 0 < d.point then
    String.ofList (digits.take d.point.toNat ++ '.' :: digits.drop d.point.toNat)
  else
    "0." ++ String.ofList (List.replicate (-d.point).toNat '0' ++ digits)

/-- Scientific form: one digit before the point, and a sign on every exponent. -/
def scientific (d : Decimal) : String :=
  let exponent := d.point - 1
  let mantissa := match digitsOf d.digits with
    | [] => ""
    | [digit] => String.singleton digit
    | digit :: rest => String.ofList (digit :: '.' :: rest)
  mantissa ++ "e" ++ (if exponent < 0 then "-" else "+") ++ toString exponent.natAbs

end Decimal

/-- A way of writing numbers. -/
structure Style where
  /-- The positions of the decimal point that are written positionally. -/
  positional : Int → Bool
  /-- What follows the digits of an integral value in positional form. -/
  whole : String
  tie : Tie
  notANumber : String
  infinity : String
  negativeInfinity : String

namespace Style

/-- The text of a number. -/
def write (style : Style) (x : Binary64) : String :=
  let sign := if x.isNegative then "-" else ""
  if x.isNaN then style.notANumber
  else if !x.isFinite then if x.isNegative then style.negativeInfinity else style.infinity
  else if x.isZero then sign ++ "0" ++ style.whole
  else
    let decimal := x.shortest style.tie
    sign ++ if style.positional decimal.point then decimal.positional style.whole
      else decimal.scientific

/-- Payloads show every finite number positionally, an integral one like an integer. -/
def display : Style where
  positional := fun _ => true
  whole := ""
  tie := .upward
  notANumber := "NaN"
  infinity := "inf"
  negativeInfinity := "-inf"

/-- In documents the numbers from `0.00001` up to but not including `1e+16` are positional, an
integral one ends in `.0`, and what is no number is `null`. -/
def json : Style where
  positional := fun point => -5 < point && point ≤ 16
  whole := ".0"
  tie := .toEven
  notANumber := "null"
  infinity := "null"
  negativeInfinity := "null"

end Style

end Conveyor
