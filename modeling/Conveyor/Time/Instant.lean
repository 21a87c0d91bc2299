import Conveyor.Time.Calendar

/-!
Instants of universal time to the nanosecond, and their written form. A leap second has no second of
its own: its nanoseconds continue those of the second before it.
-/

namespace Conveyor

/-- Seconds since the beginning of 1970, and nanoseconds; a leap second counts from a thousand
million nanoseconds on. -/
structure Instant where
  seconds : Int
  nanoseconds : Nat
  deriving DecidableEq, Inhabited, Repr

namespace Instant

/-- A number in at least `width` digits. -/
def padded (width n : Nat) : String :=
  let digits := toString n
  "".pushn '0' (width - digits.length) ++ digits

/-- A year in four digits, or with a sign if it needs more or is before year 0. -/
def yearText (year : Int) : String :=
  if 0 ≤ year ∧ year ≤ 9999 then padded 4 year.toNat
  else (if year < 0 then "-" else "+") ++ padded 4 year.natAbs

/-- The fraction of a second in as few groups of three digits as it needs. -/
def fractionText (nanoseconds : Nat) : String :=
  if nanoseconds = 0 then ""
  else if nanoseconds % 1000000 = 0 then "." ++ padded 3 (nanoseconds / 1000000)
  else if nanoseconds % 1000 = 0 then "." ++ padded 6 (nanoseconds / 1000)
  else "." ++ padded 9 nanoseconds

/-- The written form of an instant, such as `2024-01-02T03:04:05.120Z`. -/
def text (instant : Instant) : String :=
  let date := Calendar.Date.ofNumber (instant.seconds / 86400)
  let secondOfDay := (instant.seconds % 86400).toNat
  let leap := instant.nanoseconds / 1000000000
  yearText date.year ++ "-" ++ padded 2 date.month ++ "-" ++ padded 2 date.day ++ "T" ++
    padded 2 (secondOfDay / 3600) ++ ":" ++ padded 2 (secondOfDay / 60 % 60) ++ ":" ++
    padded 2 (secondOfDay % 60 + leap) ++ fractionText (instant.nanoseconds % 1000000000) ++ "Z"

end Instant

end Conveyor
