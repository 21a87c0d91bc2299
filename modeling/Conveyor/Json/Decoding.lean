import Conveyor.Json.Basic
import Conveyor.Number.Nearest
import Conveyor.Number.Style
import Conveyor.Table
import Conveyor.Text.Quoted

/-!
Reading typed values out of documents. A document that does not fit is refused with the first reason
met: the fields of an object are looked at in the order of their keys, and fields that are missing
are noticed only after all that are present have been read. A value with named fields may also be
written as the array of its fields in their order of declaration. Fields that are not asked for are
ignored.
-/

namespace Conveyor.Decoding

/-- What stands in a document where something else was expected. -/
inductive Found where
  | null
  | bool (value : Bool)
  | int (value : Int)
  | float (value : Binary64)
  | string (value : String)
  | sequence
  | map
  deriving DecidableEq, Repr

/-- What a document is at its outermost. -/
def Found.of : Json → Found
  | .null => .null
  | .bool value => .bool value
  | .int value => .int value
  | .float value => .float value
  | .string value => .string value
  | .array _ => .sequence
  | .object _ => .map

/-- The name of what was found. -/
def Found.text : Found → String
  | .null => "null"
  | .bool value => "boolean `" ++ toString value ++ "`"
  | .int value => "integer `" ++ toString value ++ "`"
  | .float value => "floating point `" ++ Style.json.write value ++ "`"
  | .string value => "string " ++ Text.shown value
  | .sequence => "sequence"
  | .map => "map"

/-- Why a document is refused. -/
inductive Error where
  /-- Something of another kind stands there. -/
  | invalidType (found : Found) (expected : String)
  /-- The kind is right, but not this value. -/
  | invalidValue (found : Found) (expected : String)
  /-- An array is too short or too long. -/
  | invalidLength (length : Nat) (expected : String)
  | missingField (field : String)
  | duplicateField (field : String)
  /-- A name that is none of the names allowed. -/
  | unknownVariant (variant : String) (known : List String)
  /-- A text that its own reader refused. -/
  | malformed (reason : String)
  deriving DecidableEq, Repr

/-- A name between back quotes. -/
def quoteName (name : String) : String :=
  "`" ++ name ++ "`"

/-- The names that are allowed. -/
def knownText : List String → String
  | [] => "there are no variants"
  | [a] => "expected " ++ quoteName a
  | [a, b] => "expected " ++ quoteName a ++ " or " ++ quoteName b
  | names => "expected one of " ++ ", ".intercalate (names.map quoteName)

/-- The text of a refusal. -/
def Error.message : Error → String
  | .invalidType found expected => "invalid type: " ++ found.text ++ ", expected " ++ expected
  | .invalidValue found expected => "invalid value: " ++ found.text ++ ", expected " ++ expected
  | .invalidLength length expected =>
    "invalid length " ++ toString length ++ ", expected " ++ expected
  | .missingField field => "missing field " ++ quoteName field
  | .duplicateField field => "duplicate field " ++ quoteName field
  | .unknownVariant variant known =>
    "unknown variant " ++ quoteName variant ++ ", " ++ knownText known
  | .malformed reason => reason

/-- The outcome of reading a value. -/
abbrev Result (α : Type) := Except Error α

/-- Refuses a document of the wrong kind. -/
def mismatch {α : Type} (found : Json) (expected : String) : Result α :=
  .error (.invalidType (.of found) expected)

/-- A text. -/
def text : Json → Result String
  | .string value => .ok value
  | other => mismatch other "a string"

/-- A truth value. -/
def bool : Json → Result Bool
  | .bool value => .ok value
  | other => mismatch other "a boolean"

/-- An integer between two bounds, both allowed. -/
def intWithin (least greatest : Int) (expected : String) : Json → Result Int
  | .int value =>
    if least ≤ value ∧ value ≤ greatest then .ok value
    else .error (.invalidValue (.int value) expected)
  | other => mismatch other expected

/-- A signed integer of 64 bits. -/
def int64 (document : Json) : Result Int64 :=
  (intWithin Int64.minValue.toInt Int64.maxValue.toInt "i64" document).map Int64.ofInt

/-- A natural number of up to 64 bits. -/
def nat64 (document : Json) : Result Nat :=
  (intWithin 0 (UInt64.size - 1) "u64" document).map Int.toNat

/-- A natural number of up to 32 bits. -/
def uint32 (document : Json) : Result UInt32 :=
  (intWithin 0 (UInt32.size - 1) "u32" document).map fun value => UInt32.ofNat value.toNat

/-- A byte. -/
def byte (document : Json) : Result UInt8 :=
  (intWithin 0 (UInt8.size - 1) "u8" document).map fun value => UInt8.ofNat value.toNat

/-- A number; integers are taken as well. -/
def number : Json → Result Binary64
  | .float value => .ok value
  | .int value => .ok (.ofInt value)
  | other => mismatch other "f64"

/-- A value that may be absent, written as null. -/
def optional {α : Type} (read : Json → Result α) : Json → Result (Option α)
  | .null => .ok none
  | document => (read document).map some

/-- A list. -/
def list {α : Type} (read : Json → Result α) : Json → Result (List α)
  | .array items => items.mapM read
  | other => mismatch other "a sequence"

/-- The fields of an object of any keys. -/
def fields : Json → Result (Table Json)
  | .object entries => .ok (.ofList entries)
  | other => mismatch other "a map"

/-- The value of one of a list of names. -/
def choose {α : Type} (names : List (String × α)) (name : String) : Result α :=
  match names.lookup name with
  | some value => .ok value
  | none => .error (.unknownVariant name (names.map (·.1)))

/-- One of a list of names, each standing for a value. -/
def tag {α : Type} (names : List (String × α)) : Json → Result α
  | .string name => choose names name
  | other => mismatch other "variant identifier"

/-- One of a list of names, each standing for a value. It is written as the name, or as an object
whose only key it is and whose value is null. -/
def variant {α : Type} (names : List (String × α)) : Json → Result α
  | .string name => choose names name
  | .object [(name, content)] => do
    let value ← choose names name
    match content with
    | .null => return value
    | other => mismatch other "unit"
  | .object entries => .error (.invalidValue (.of (.object entries)) "map with a single key")
  | other => mismatch other "string or map"

/-- The field of a key, if it is there. -/
def field? {α : Type} (entries : List (String × Json)) (key : String) (read : Json → Result α) :
    Result (Option α) :=
  match Table.find key entries with
  | some document => (read document).map some
  | none => .ok none

/-- A field that has to be there. -/
def require {α : Type} (key : String) : Option α → Result α
  | some value => .ok value
  | none => .error (.missingField key)

/-- The item at a position that has to be there. -/
def item {α : Type} (items : List Json) (position : Nat) (expected : String)
    (read : Json → Result α) : Result α :=
  match items[position]? with
  | some document => read document
  | none => .error (.invalidLength position expected)

/-- The item at a position that may be left off. -/
def itemOr {α : Type} (default : α) (items : List Json) (position : Nat)
    (read : Json → Result α) : Result α :=
  match items[position]? with
  | some document => read document
  | none => .ok default

/-- Refuses items beyond the last that was asked for. -/
def noMoreThan (count : Nat) (items : List Json) : Result Unit :=
  if items.length ≤ count then .ok ()
  else .error (.invalidLength items.length "fewer elements in array")

/-- A value with named fields, written as an object or as the array of its fields. -/
def shaped {α : Type} (name : String) (ofObject : List (String × Json) → Result α)
    (ofArray : List Json → Result α) : Json → Result α
  | .object entries => ofObject entries
  | .array items => ofArray items
  | other => mismatch other ("struct " ++ name)

end Decoding

/-- Values that are written as documents. -/
class ToDocument (α : Type) where
  toDocument : α → Json

/-- Values that are read from documents. -/
class OfDocument (α : Type) where
  ofDocument : Json → Decoding.Result α

export ToDocument (toDocument)
export OfDocument (ofDocument)

namespace Json

/-- The object of the fields that are present, which have to be listed in order. -/
def ofFields (fields : List (String × Option Json)) : Json :=
  .object (fields.filterMap fun field => field.2.map (field.1, ·))

/-- The document of a number: there is none for what is no number or not finite. -/
def ofNumber (value : Binary64) : Json :=
  if value.isFinite then .float value else .null

end Json

end Conveyor
