import Conveyor.Text.Blank
import Conveyor.Time.Instant

/-!
Reading instants from RFC 3339 texts, in the lenient form: the date and the time may be separated by
`T`, `t` or a space, white space may stand before every part, a year may have a sign and then any
number of digits, and the offset may be `Z`, `UTC` or hours and minutes. Reading goes from left to
right and stops at the first part that is missing, malformed or out of range; whether the date
exists is only known at the end of the text.
-/

namespace Conveyor.Rfc3339

/-- Why a text is no instant. -/
inductive Error where
  | outOfRange
  | impossible
  | invalid
  | tooShort
  | tooLong
  deriving DecidableEq, Repr

/-- The text of an error. -/
def Error.message : Error → String
  | .outOfRange => "input is out of range"
  | .impossible => "no possible date and time matching input"
  | .invalid => "input contains invalid characters"
  | .tooShort => "premature end of input"
  | .tooLong => "trailing input"

/-- A reader takes a part off the front of a text. -/
abbrev Reader (α : Type) := List Char → Except Error (α × List Char)

/-- The value of a decimal digit. -/
def digit? (c : Char) : Option Nat :=
  if '0' ≤ c ∧ c ≤ '9' then some (c.toNat - 48) else none

/-- The value of a run of digits. -/
def digitsValue (digits : List Char) : Nat :=
  digits.foldl (fun value c => 10 * value + (c.toNat - 48)) 0

/-- A number of one digit up to `most` digits, which has to fit into 63 bits. -/
def number (most : Nat) : Reader Nat := fun text =>
  let digits := (text.take most).takeWhile (digit? · |>.isSome)
  if text.isEmpty then .error .tooShort
  else if digits.isEmpty then .error .invalid
  else if Nat.pow 2 63 ≤ digitsValue digits then .error .outOfRange
  else .ok (digitsValue digits, text.drop digits.length)

/-- A two-digit part within bounds, with white space before it. -/
def part (least most : Nat) : Reader Nat := fun text => do
  let (value, rest) ← number 2 (Text.skipBlanks text)
  if least ≤ value && value ≤ most then return (value, rest) else throw .outOfRange

/-- A separator, with white space before it. -/
def separator (c : Char) (text : List Char) : Except Error (List Char) :=
  match Text.skipBlanks text with
  | [] => .error .tooShort
  | first :: rest => if first = c then .ok rest else .error .invalid

/-- A year of up to four digits, or of any length after a sign. -/
def year : Reader Int := fun text => do
  match Text.skipBlanks text with
  | '-' :: rest => let (value, rest) ← number rest.length rest; bounded (-(value : Int)) rest
  | '+' :: rest => let (value, rest) ← number rest.length rest; bounded value rest
  | text => let (value, rest) ← number 4 text; bounded value rest
where
  /-- Years fit into 32 bits. -/
  bounded (value : Int) (rest : List Char) : Except Error (Int × List Char) :=
    if Int32.minValue.toInt ≤ value && value ≤ Int32.maxValue.toInt then .ok (value, rest)
    else .error .outOfRange

/-- The nanoseconds of an optional fraction; digits after the ninth are dropped. -/
def fraction : Reader Nat := fun text =>
  match text with
  | '.' :: rest => do
    let (value, after) ← number 9 rest
    let given := rest.length - after.length
    return (value * Nat.pow 10 (9 - given), after.dropWhile (digit? · |>.isSome))
  | text => .ok (0, text)

/-- Two digits of an offset. A single character of one byte is not enough to tell. -/
def offsetPart (text : List Char) : Except Error ((Char × Char) × List Char) :=
  match text with
  | [] => .error .tooShort
  | [c] => .error (if c.utf8Size < 2 then .tooShort else .invalid)
  | a :: b :: rest => .ok ((a, b), rest)

/-- The seconds by which local time is ahead of universal time. -/
def offset : Reader Int := fun text => do
  match Text.skipBlanks text with
  | 'Z' :: rest | 'z' :: rest => return (0, rest)
  | text =>
    if (text.take 3).map Char.toUpper = ['U', 'T', 'C'] then return (0, text.drop 3)
    match text with
    | [] => throw .tooShort
    | '+' :: rest => signed 1 rest
    | '-' :: rest | '−' :: rest => signed (-1) rest
    | _ => throw .invalid
where
  /-- Hours and minutes after the sign; colons and white space between them are optional. -/
  signed (sign : Int) (text : List Char) : Except Error (Int × List Char) := do
    let ((h₁, h₂), rest) ← offsetPart text
    let hours ← match digit? h₁, digit? h₂ with
      | some tens, some ones => pure (10 * tens + ones)
      | _, _ => throw .invalid
    let rest := rest.dropWhile fun c => c = ':' || Text.isBlank c
    let ((m₁, m₂), rest) ← offsetPart rest
    let minutes ← match digit? m₁, digit? m₂ with
      | some tens, some ones => if tens < 6 then pure (10 * tens + ones) else throw .outOfRange
      | _, _ => throw .invalid
    return (sign * ((hours * 3600 + minutes * 60 : Nat) : Int), rest)

/-- The instant that a text denotes. -/
def read (text : String) : Except Error Instant := do
  let (year, rest) ← year text.toList
  let (month, rest) ← part 1 12 (← separator '-' rest)
  let (day, rest) ← part 1 31 (← separator '-' rest)
  let rest ← match rest with
    | 'T' :: rest | 't' :: rest | ' ' :: rest => pure rest
    | [] => throw .tooShort
    | _ => throw .invalid
  let (hour, rest) ← part 0 23 rest
  let (minute, rest) ← part 0 59 (← separator ':' rest)
  let (second, rest) ← part 0 60 (← separator ':' rest)
  let (nanoseconds, rest) ← fraction rest
  let (offset, rest) ← offset rest
  unless (Text.skipBlanks rest).isEmpty do throw .tooLong
  let date : Calendar.Date := ⟨year, month, day⟩
  unless date.isValid do throw .outOfRange
  unless offset.natAbs < 86400 do throw .outOfRange
  let leap := second / 60
  let wallClock := date.number * 86400 + (hour * 3600 + minute * 60 + (second - leap) : Nat)
  let instant : Instant := ⟨wallClock - offset, nanoseconds + leap * 1000000000⟩
  unless (Calendar.Date.ofNumber (instant.seconds / 86400)).isValid do throw .impossible
  return instant

end Conveyor.Rfc3339
