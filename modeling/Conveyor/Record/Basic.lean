import Conveyor.Record.Value

/-!
Records (`Record`), the units of data that flow through a chain, and the handles (`RecordRef`) by which
agents share them. A record is never changed once it is handed out: an agent that changes data builds a
new record, most often with `Record.derive`.
-/

namespace Conveyor

/-- A named payload beside the payload of a record. -/
structure Header where
  name : String
  value : Value
  deriving DecidableEq, Repr

namespace Header

/-- Equality of headers as values. -/
def same (a b : Header) : Bool :=
  a.name == b.name && a.value.same b.value

instance : ToDocument Header := ⟨fun header =>
  .object [("name", .string header.name), ("value", toDocument header.value)]⟩

/-- Reads a header from the fields of an object. -/
def ofObject (entries : List (String × Json)) : Decoding.Result Header := do
  let name ← Decoding.field? entries "name" Decoding.text
  let value ← Decoding.field? entries "value" ofDocument
  return ⟨← Decoding.require "name" name, ← Decoding.require "value" value⟩

/-- Reads a header from the array of its fields. -/
def ofArray (items : List Json) : Decoding.Result Header := do
  let shape := "struct Header with 2 elements"
  let name ← Decoding.item items 0 shape Decoding.text
  let value ← Decoding.item items 1 shape ofDocument
  Decoding.noMoreThan 2 items
  return ⟨name, value⟩

instance : OfDocument Header := ⟨Decoding.shaped "Header" ofObject ofArray⟩

end Header

/-- A payload with its key, where it came from, when it was made in milliseconds since 1970, and
headers in order, which may repeat a name. -/
structure Record where
  value : Value
  key? : Option Value := none
  origin? : Option String := none
  timestamp? : Option Int64 := none
  headers : List Header := []
  deriving DecidableEq, Inhabited, Repr

namespace Record

/-- The record of a text and nothing else. -/
def ofText (text : String) : Record :=
  { value := .string text }

/-- The record with a key. -/
def withKey (record : Record) (key : Value) : Record :=
  { record with key? := some key }

/-- The record with the name of where it came from. -/
def withOrigin (record : Record) (origin : String) : Record :=
  { record with origin? := some origin }

/-- The record with the time at which it was made. -/
def withTimestamp (record : Record) (timestamp : Int64) : Record :=
  { record with timestamp? := some timestamp }

/-- The record with one more header at the end. -/
def withHeader (record : Record) (name : String) (value : Value) : Record :=
  { record with headers := record.headers ++ [⟨name, value⟩] }

/-- The record with another payload and everything else kept. -/
def derive (record : Record) (value : Value) : Record :=
  { record with value }

/-- The payload of the first header of a name. -/
def header? (record : Record) (name : String) : Option Value :=
  (record.headers.find? fun header => header.name == name).map (·.value)

/-- Equality of optional payloads as values. -/
def sameKey : Option Value → Option Value → Bool
  | none, none => true
  | some a, some b => a.same b
  | _, _ => false

/-- Equality of lists of headers as values. -/
def sameHeaders : List Header → List Header → Bool
  | [], [] => true
  | a :: as, b :: bs => a.same b && sameHeaders as bs
  | _, _ => false

/-- Equality of records as values. -/
def same (a b : Record) : Bool :=
  sameKey a.key? b.key? && a.value.same b.value && a.origin? == b.origin? &&
    a.timestamp? == b.timestamp? && sameHeaders a.headers b.headers

instance : ToDocument Record := ⟨fun record =>
  .ofFields [
    ("headers", if record.headers.isEmpty then none
      else some (.array (record.headers.map toDocument))),
    ("key", record.key?.map toDocument),
    ("origin", record.origin?.map .string),
    ("timestamp", record.timestamp?.map fun timestamp => .int timestamp.toInt),
    ("value", some (toDocument record.value))]⟩

/-- Reads a record from the fields of an object. Only the payload has to be there. -/
def ofObject (entries : List (String × Json)) : Decoding.Result Record := do
  let headers ← Decoding.field? entries "headers" (Decoding.list ofDocument)
  let key? ← Decoding.field? entries "key" (Decoding.optional ofDocument)
  let origin? ← Decoding.field? entries "origin" (Decoding.optional Decoding.text)
  let timestamp? ← Decoding.field? entries "timestamp" (Decoding.optional Decoding.int64)
  let value ← Decoding.field? entries "value" ofDocument
  return {
    value := ← Decoding.require "value" value
    key? := key?.join
    origin? := origin?.join
    timestamp? := timestamp?.join
    headers := headers.getD [] }

/-- Reads a record from the array of its fields. -/
def ofArray (items : List Json) : Decoding.Result Record := do
  let shape := "struct Record with 5 elements"
  let key? ← Decoding.itemOr none items 0 (Decoding.optional ofDocument)
  let value ← Decoding.item items 1 shape ofDocument
  let origin? ← Decoding.itemOr none items 2 (Decoding.optional Decoding.text)
  let timestamp? ← Decoding.itemOr none items 3 (Decoding.optional Decoding.int64)
  let headers ← Decoding.itemOr [] items 4 (Decoding.list ofDocument)
  Decoding.noMoreThan 5 items
  return { value, key?, origin?, timestamp?, headers }

instance : OfDocument Record := ⟨Decoding.shaped "Record" ofObject ofArray⟩

end Record

/-- A record that is shared: what makes it this record and no other of the same content is its
number, which is never given to a second record. -/
structure Handle where
  id : Nat
  record : Record
  deriving DecidableEq, Inhabited, Repr

end Conveyor
