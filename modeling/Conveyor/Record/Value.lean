import Conveyor.Json.Decoding
import Conveyor.Json.Text
import Conveyor.Text.Base64

/-!
Payloads of records (`Value`): a closed set of kinds, so that equality and the written form do not
depend on the agent that made them. A payload is written as its kind and its content, `{"type",
"data"}`; bytes are written in base64, and a document may hold anything, even what looks like a payload.
-/

namespace Conveyor

/-- The payload of a record, of its key or of one of its headers. -/
inductive Value where
  | null
  | bool (value : Bool)
  | int (value : Int64)
  | float (value : Binary64)
  | string (value : String)
  | bytes (value : List UInt8)
  | json (value : Json)
  deriving DecidableEq, Inhabited, Repr

namespace Value

/-- The kinds of payloads. -/
inductive Kind where
  | null
  | bool
  | int
  | float
  | string
  | bytes
  | json
  deriving DecidableEq, Repr

/-- Every kind under its name. -/
def Kind.names : List (String × Kind) :=
  [("null", null), ("bool", bool), ("int", int), ("float", float), ("string", string),
    ("bytes", bytes), ("json", json)]

/-- The name of a kind. -/
def Kind.name : Kind → String
  | null => "null"
  | bool => "bool"
  | int => "int"
  | float => "float"
  | string => "string"
  | bytes => "bytes"
  | json => "json"

/-- The kind of a payload. -/
def kind : Value → Kind
  | null => .null
  | bool _ => .bool
  | int _ => .int
  | float _ => .float
  | string _ => .string
  | bytes _ => .bytes
  | json _ => .json

/-- Whether there is no payload. -/
def isNull : Value → Bool
  | null => true
  | _ => false

/-- The text, if the payload is one. -/
def text? : Value → Option String
  | string value => some value
  | _ => none

/-- The integer, if the payload is one. -/
def int? : Value → Option Int64
  | int value => some value
  | _ => none

/-- The bytes, if the payload is made of them. -/
def bytes? : Value → Option (List UInt8)
  | bytes value => some value
  | _ => none

/-- The document, if the payload is one. -/
def json? : Value → Option Json
  | json value => some value
  | _ => none

/-- The text of a payload, without its kind. -/
def display : Value → String
  | null => "null"
  | bool value => toString value
  | int value => toString value.toInt
  | float value => Style.display.write value
  | string value => value
  | bytes value => Base64.encodeText value
  | json value => value.text

/-- Equality of payloads as values: numbers are compared arithmetically. -/
def same : Value → Value → Bool
  | null, null => true
  | bool a, bool b => a == b
  | int a, int b => a == b
  | float a, float b => a.sameNumber b
  | string a, string b => a == b
  | bytes a, bytes b => a == b
  | json a, json b => a.same b
  | _, _ => false

/-- The payload of a document: a text stays a text, and anything else is kept as it is. -/
def ofJson : Json → Value
  | .string value => .string value
  | other => .json other

/-- The content of a payload as a document; there is none without payload. -/
def content? : Value → Option Json
  | null => none
  | bool value => some (.bool value)
  | int value => some (.int value.toInt)
  | float value => some (.ofNumber value)
  | string value => some (.string value)
  | bytes value => some (.string (Base64.encodeText value))
  | json value => some value

instance : ToDocument Value := ⟨fun value =>
  .ofFields [("data", value.content?), ("type", some (.string value.kind.name))]⟩

/-- Bytes, written in base64. -/
def bytesOf (document : Json) : Decoding.Result (List UInt8) := do
  match Base64.decodeText (← Decoding.text document) with
  | .ok value => return value
  | .error error => throw (.malformed error.message)

/-- The payload of a kind with some content. The absence of a payload needs no content. -/
def ofContent (kind : Kind) (content? : Option Json) : Decoding.Result Value :=
  match kind, content? with
  | .null, none | .null, some .null => .ok .null
  | .null, some other => Decoding.mismatch other "unit variant Value::Null"
  | _, none => .error (.missingField "data")
  | .bool, some document => (Decoding.bool document).map .bool
  | .int, some document => (Decoding.int64 document).map .int
  | .float, some document => (Decoding.number document).map .float
  | .string, some document => (Decoding.text document).map .string
  | .bytes, some document => (bytesOf document).map .bytes
  | .json, some document => .ok (.json document)

/-- How a payload is described where it is missing. -/
def shape : String := "adjacently tagged enum Value"

/-- Reads a payload. The kind is looked at first, wherever it stands; only in an object may it be
written as an object itself. -/
def read : Json → Decoding.Result Value
  | .object entries => do
    let kind? ← Decoding.field? entries "type" (Decoding.variant Kind.names)
    ofContent (← Decoding.require "type" kind?) (Table.find "data" entries)
  | .array items => do
    let kind ← Decoding.item items 0 shape (Decoding.tag Kind.names)
    let value ← Decoding.item items 1 shape fun content => ofContent kind (some content)
    Decoding.noMoreThan 2 items
    return value
  | other => Decoding.mismatch other shape

instance : OfDocument Value := ⟨read⟩

end Value

end Conveyor
