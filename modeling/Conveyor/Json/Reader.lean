import Conveyor.Json.Basic
import Conveyor.Number.Scaled
import Conveyor.Table

/-!
Reading documents from text. A number without point and exponent that fits into 64 bits, with or
without sign, is an integer, and every other number is a binary64 number; so is the negative zero.
The fields of an object are put into order, and of two fields with one key the later remains.
-/

namespace Conveyor.Json

/-- The value of a decimal digit. -/
private def digit? (c : Char) : Option Nat :=
  if '0' ≤ c ∧ c ≤ '9' then some (c.toNat - 48) else none

/-- The digits in front of a text, and what follows them. -/
private def spanDigits : List Char → List Nat × List Char
  | [] => ([], [])
  | c :: rest =>
    match digit? c with
    | none => ([], c :: rest)
    | some digit => let (digits, after) := spanDigits rest; (digit :: digits, after)

/-- The number that digits stand for. -/
private def digitsNumber (digits : List Nat) : Nat :=
  digits.foldl (fun value digit => value * 10 + digit) 0

/-- The exponent after its mark: a sign and digits. -/
private def readExponent (text : List Char) : Option (Int × List Char) :=
  let (sign, text) := match text with
    | '+' :: rest => ((1 : Int), rest)
    | '-' :: rest => (-1, rest)
    | text => (1, text)
  match spanDigits text with
  | ([], _) => none
  | (digits, rest) => some (sign * (digitsNumber digits : Int), rest)

/-- An integer, where it fits; the negative zero and integers that are too large are binary64. -/
private def wholeNumber (negative : Bool) (digits : List Nat) : Option Json :=
  let size := digitsNumber digits
  if negative then
    if 0 < size ∧ size ≤ Nat.pow 2 63 then some (.int (-(size : Int)))
    else ((Scaled.takeWhole 0 digits).toBinary64? true).map .float
  else if size < UInt64.size then some (.int size)
  else ((Scaled.takeWhole 0 digits).toBinary64? false).map .float

/-- A number. -/
private def readNumber (text : List Char) : Option (Json × List Char) := do
  let (negative, text) := match text with
    | '-' :: rest => (true, rest)
    | text => (false, text)
  let (whole, text) := spanDigits text
  guard !whole.isEmpty
  let start := Scaled.takeWhole 0 whole
  let (scaled, isWhole, text) ← match text with
    | '.' :: rest =>
      match spanDigits rest with
      | ([], _) => none
      | (fraction, rest) => some (start.takeFraction fraction, false, rest)
    | text => some (start, true, text)
  match text with
  | 'e' :: rest | 'E' :: rest =>
    let (exponent, rest) ← readExponent rest
    let value ← Scaled.toBinary64? ⟨scaled.digits, scaled.exponent + exponent⟩ negative
    return (.float value, rest)
  | text =>
    if isWhole then return (← wholeNumber negative whole, text)
    else return (.float (← scaled.toBinary64? negative), text)

/-- The value of a hexadecimal digit. -/
private def hexDigit? (c : Char) : Option Nat :=
  if '0' ≤ c ∧ c ≤ '9' then some (c.toNat - 48)
  else if 'a' ≤ c ∧ c ≤ 'f' then some (c.toNat - 87)
  else if 'A' ≤ c ∧ c ≤ 'F' then some (c.toNat - 55)
  else none

/-- Four hexadecimal digits. -/
private def readUnit : List Char → Option (Nat × List Char)
  | a :: b :: c :: d :: rest => do
    return ((((← hexDigit? a) * 16 + (← hexDigit? b)) * 16 + (← hexDigit? c)) * 16 + (← hexDigit? d),
      rest)
  | _ => none

/-- The character of an escape, after the backslash. A character outside the first plane is written
as a pair of surrogates, and a surrogate never stands alone. -/
private def readEscape : List Char → Option (Char × List Char)
  | '"' :: rest => some ('"', rest)
  | '\\' :: rest => some ('\\', rest)
  | '/' :: rest => some ('/', rest)
  | 'b' :: rest => some ('\x08', rest)
  | 'f' :: rest => some ('\x0c', rest)
  | 'n' :: rest => some ('\n', rest)
  | 'r' :: rest => some ('\r', rest)
  | 't' :: rest => some ('\t', rest)
  | 'u' :: rest => do
    let (unit, rest) ← readUnit rest
    if unit < 0xd800 ∨ 0xe000 ≤ unit then return (Char.ofNat unit, rest)
    match rest with
    | '\\' :: 'u' :: rest =>
      let (low, rest) ← readUnit rest
      guard (unit < 0xdc00 ∧ 0xdc00 ≤ low ∧ low < 0xe000)
      return (Char.ofNat (0x10000 + (unit - 0xd800) * 0x400 + (low - 0xdc00)), rest)
    | _ => none
  | _ => none

/-- The characters of a string up to its closing quote. -/
private def readString (fuel : Nat) (text : List Char) (taken : List Char) :
    Option (String × List Char) :=
  match fuel, text with
  | 0, _ | _, [] => none
  | _, '"' :: rest => some (String.ofList taken.reverse, rest)
  | fuel + 1, '\\' :: rest => do
    let (c, rest) ← readEscape rest
    readString fuel rest (c :: taken)
  | fuel + 1, c :: rest => if c.toNat < 0x20 then none else readString fuel rest (c :: taken)

/-- A text without the blanks in front of it. -/
private def skip (text : List Char) : List Char :=
  text.dropWhile fun c => c = ' ' || c = '\n' || c = '\t' || c = '\r'

mutual

/-- A value. Every step of the readers below uses up a character, so the length of the text is fuel
enough. -/
private def readValue : Nat → List Char → Option (Json × List Char)
  | 0, _ => none
  | fuel + 1, text =>
    match skip text with
    | '"' :: rest => (readString (fuel + 1) rest []).map fun (value, rest) => (.string value, rest)
    | '[' :: rest =>
      match skip rest with
      | ']' :: rest => some (.array [], rest)
      | rest => (readItems fuel rest).map fun (items, rest) => (.array items, rest)
    | '\x7b' :: rest =>
      match skip rest with
      | '\x7d' :: rest => some (.object [], rest)
      | rest => (readFields fuel rest).map fun (fields, rest) =>
        (.object (Table.ofList fields).entries, rest)
    | 'n' :: 'u' :: 'l' :: 'l' :: rest => some (.null, rest)
    | 't' :: 'r' :: 'u' :: 'e' :: rest => some (.bool true, rest)
    | 'f' :: 'a' :: 'l' :: 's' :: 'e' :: rest => some (.bool false, rest)
    | rest => readNumber rest

/-- The items of an array up to its closing bracket. -/
private def readItems : Nat → List Char → Option (List Json × List Char)
  | 0, _ => none
  | fuel + 1, text => do
    let (item, rest) ← readValue fuel text
    match skip rest with
    | ',' :: rest => (readItems fuel rest).map fun (items, rest) => (item :: items, rest)
    | ']' :: rest => some ([item], rest)
    | _ => none

/-- The fields of an object up to its closing brace. -/
private def readFields : Nat → List Char → Option (List (String × Json) × List Char)
  | 0, _ => none
  | fuel + 1, text => do
    let ('"' :: rest) := skip text | none
    let (key, rest) ← readString (fuel + 1) rest []
    let (':' :: rest) := skip rest | none
    let (value, rest) ← readValue fuel rest
    match skip rest with
    | ',' :: rest => (readFields fuel rest).map fun (fields, rest) => ((key, value) :: fields, rest)
    | '\x7d' :: rest => some ([(key, value)], rest)
    | _ => none

end

/-- The document of a text. -/
def read? (text : String) : Option Json :=
  match readValue (text.length + 2) text.toList with
  | some (value, rest) => if (skip rest).isEmpty then some value else none
  | none => none

end Conveyor.Json
