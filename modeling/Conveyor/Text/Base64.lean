/-!
Base64 with the standard alphabet and required padding. `encode` writes bytes in groups of four
symbols; `decode` accepts exactly the written forms: a byte outside the alphabet, a padding sign out
of place, a symbol left over, padding that is too short and trailing bits that are not zero are each
refused with the position at which reading had to stop.
-/

namespace Conveyor.Base64

/-- Why a text is not the written form of any bytes. -/
inductive Error where
  /-- A byte that is no symbol, or a padding sign where none may stand. -/
  | symbol (byte : UInt8) (offset : Nat)
  /-- A single symbol is left over. -/
  | leftOver (count : Nat)
  /-- The last symbol holds bits that belong to no byte. -/
  | lastSymbol (byte : UInt8) (offset : Nat)
  /-- The last group is not filled up. -/
  | padding
  deriving DecidableEq, Repr

/-- The text of an error. -/
def Error.message : Error → String
  | .symbol byte offset => s!"Invalid symbol {byte}, offset {offset}."
  | .leftOver count => s!"Invalid input length: {count}"
  | .lastSymbol byte offset => s!"Invalid last symbol {byte}, offset {offset}."
  | .padding => "Invalid padding"

/-- The padding sign `=`. -/
def pad : UInt8 := 61

/-- The symbol of a value below 64. -/
def symbol (value : Nat) : UInt8 :=
  if value < 26 then UInt8.ofNat (65 + value)
  else if value < 52 then UInt8.ofNat (71 + value)
  else if value < 62 then UInt8.ofNat (value - 4)
  else if value = 62 then 43
  else 47

/-- The value of a symbol. -/
def valueOf? (byte : UInt8) : Option Nat :=
  let code := byte.toNat
  if 65 ≤ code ∧ code ≤ 90 then some (code - 65)
  else if 97 ≤ code ∧ code ≤ 122 then some (code - 71)
  else if 48 ≤ code ∧ code ≤ 57 then some (code + 4)
  else if code = 43 then some 62
  else if code = 47 then some 63
  else none

/-- The symbols of a list of bytes. -/
def encode : List UInt8 → List UInt8
  | [] => []
  | [a] => [symbol (a.toNat / 4), symbol (a.toNat % 4 * 16), pad, pad]
  | [a, b] =>
    [symbol (a.toNat / 4), symbol (a.toNat % 4 * 16 + b.toNat / 16), symbol (b.toNat % 16 * 4), pad]
  | a :: b :: c :: rest =>
    symbol (a.toNat / 4) :: symbol (a.toNat % 4 * 16 + b.toNat / 16) ::
      symbol (b.toNat % 16 * 4 + c.toNat / 64) :: symbol (c.toNat % 64) :: encode rest

/-- The values of a run of symbols that starts at an offset. -/
def readSymbols (offset : Nat) : List UInt8 → Except Error (List Nat)
  | [] => .ok []
  | byte :: rest =>
    match valueOf? byte with
    | none => .error (.symbol byte offset)
    | some value => (readSymbols (offset + 1) rest).map (value :: ·)

/-- The bytes of a full group. -/
def groupBytes (a b c d : Nat) : List UInt8 :=
  [UInt8.ofNat (a * 4 + b / 16), UInt8.ofNat (b % 16 * 16 + c / 4), UInt8.ofNat (c % 4 * 64 + d)]

/-- The bytes of the last group, which alone may be padded. -/
def decodeLast (offset : Nat) (group : List UInt8) : Except Error (List UInt8) := do
  let body := group.takeWhile (· != pad)
  let tail := group.dropWhile (· != pad)
  let values ← readSymbols offset body
  if !tail.isEmpty && (body.length < 2 || tail.any (· != pad)) then
    throw (.symbol pad (offset + body.length))
  if !group.isEmpty && body.length < 2 then
    throw (.leftOver (offset + body.length))
  if group.length % 4 ≠ 0 then
    throw .padding
  match values with
  | [a, b] =>
    if b % 16 = 0 then return [UInt8.ofNat (a * 4 + b / 16)]
    else throw (.lastSymbol (symbol b) (offset + 1))
  | [a, b, c] =>
    if c % 4 = 0 then return [UInt8.ofNat (a * 4 + b / 16), UInt8.ofNat (b % 16 * 16 + c / 4)]
    else throw (.lastSymbol (symbol c) (offset + 2))
  | [a, b, c, d] => return groupBytes a b c d
  | _ => return []

/-- The bytes of all groups from an offset on. A group with more text behind it is never padded. -/
def decodeFrom (offset : Nat) : List UInt8 → Except Error (List UInt8)
  | a :: b :: c :: d :: e :: rest => do
    match ← readSymbols offset [a, b, c, d] with
    | [va, vb, vc, vd] =>
      return groupBytes va vb vc vd ++ (← decodeFrom (offset + 4) (e :: rest))
    | _ => return []
  | group => decodeLast offset group

/-- The bytes that the symbols are the written form of. A single last byte that is no symbol is
reported before anything else, so that a stray line end is named as such. -/
def decode (symbols : List UInt8) : Except Error (List UInt8) :=
  match symbols.getLast? with
  | some last =>
    if symbols.length % 4 = 1 ∧ last ≠ pad ∧ valueOf? last = none then
      .error (.symbol last (symbols.length - 1))
    else decodeFrom 0 symbols
  | none => .ok []

/-- The text of bytes. -/
def encodeText (bytes : List UInt8) : String :=
  String.ofList ((encode bytes).map fun byte => Char.ofNat byte.toNat)

/-- The bytes of a text; offsets count its bytes. -/
def decodeText (text : String) : Except Error (List UInt8) :=
  decode text.toUTF8.toList

end Conveyor.Base64
