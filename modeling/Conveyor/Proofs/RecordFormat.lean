import Conveyor.Proofs.Base64
import Conveyor.Proofs.Documents
import Conveyor.Record.Basic

/-! Payloads and records (`Value`, `Record`) are read back as they were written. The written form names the
kind of a payload, leaves out what is absent, and so keeps apart what looks alike: no key and a key without
payload, no payload and the document null, a document and a payload that the document looks like. Only a
float that is not finite has no written form; it is written as null, which is refused where a number is
read. -/
namespace Conveyor

/-- Whether a payload is anything but a float that is infinite or no number. -/
def Value.isFinite : Value → Bool
  | float value => value.isFinite
  | _ => true

/-- All payloads of a record, of its headers, its key and its own. -/
def Record.payloads (record : Record) : List Value :=
  record.headers.map (·.value) ++ record.key?.toList ++ [record.value]

/-- Whether all payloads of a record are finite. -/
def Record.isFinite (record : Record) : Bool :=
  record.payloads.all Value.isFinite

namespace Value

/-- A kind and its content are read back whatever is absent. -/
theorem read_tagged (kind : Kind) (content? : Option Json) :
    read (.ofFields [("data", content?), ("type", some (.string kind.name))]) =
      ofContent kind content? := by
  cases content? <;> cases kind <;> rfl

theorem bytesOf_encodeText (bytes : List UInt8) :
    bytesOf (.string (Base64.encodeText bytes)) = .ok bytes := by
  rw [bytesOf, Decoding.text]
  refine (pure_bind _ _).trans ?_
  rw [Base64.decodeText_encodeText]
  rfl

theorem read_written (value : Value) :
    ofDocument (toDocument value) = Decoding.readBack value.isFinite value := by
  refine (read_tagged value.kind value.content?).trans ?_
  cases value with
  | null => rfl
  | bool value => rfl
  | int value =>
    change (Decoding.int64 (.int value.toInt)).map int = _
    rw [Decoding.int64_toInt]
    rfl
  | float value =>
    change (Decoding.number (if value.isFinite then .float value else .null)).map float =
      Decoding.readBack value.isFinite (float value)
    cases value.isFinite <;> rfl
  | string value => rfl
  | bytes value =>
    change (bytesOf (.string (Base64.encodeText value))).map bytes = _
    rw [bytesOf_encodeText]
    rfl
  | json value => rfl

end Value

theorem Value.toDocument_ne_null (value : Value) : toDocument value ≠ Json.null :=
  Json.noConfusion

theorem Header.read_written (header : Header) :
    ofDocument (toDocument header) = Decoding.readBack header.value.isFinite header := by
  let entries := [("name", .string header.name), ("value", toDocument header.value)]
  have name : Decoding.field? entries "name" Decoding.text = .ok (some header.name) := rfl
  have value : Decoding.field? entries "value" ofDocument = _ :=
    Decoding.field?_always header.value.read_written rfl
  change Header.ofObject entries = _
  rw [Header.ofObject, name, value]
  cases header.value.isFinite <;> rfl

namespace Record

/-- The fields of a record, with the document of each that is written. -/
def fields (record : Record) : List (String × Option Json) := [
  ("headers", if record.headers.isEmpty then none else some (.array (record.headers.map toDocument))),
  ("key", record.key?.map toDocument),
  ("origin", record.origin?.map .string),
  ("timestamp", record.timestamp?.map fun timestamp => .int timestamp.toInt),
  ("value", some (toDocument record.value))]

theorem find_fields (record : Record) (name : String) :
    Table.find name (record.fields.filterMap fun field => field.2.map (field.1, ·)) =
      (record.fields.lookup name).join :=
  find_ofFields (by simp [fields]) name

theorem isFinite_eq (record : Record) :
    record.isFinite = (record.headers.all (·.value.isFinite) && (record.key?.all Value.isFinite &&
      record.value.isFinite)) := by
  rw [isFinite, payloads, List.all_append, List.all_append, List.all_map]
  cases record.key? <;> simp [Function.comp_def, Bool.and_assoc]

theorem read_written (record : Record) :
    ofDocument (toDocument record) = Decoding.readBack record.isFinite record := by
  let entries := record.fields.filterMap fun field => field.2.map (field.1, ·)
  have headers : Decoding.field? entries "headers" (Decoding.list ofDocument) = _ :=
    Decoding.field?_list Header.read_written (record.find_fields "headers")
  have key : Decoding.field? entries "key" (Decoding.optional ofDocument) = _ :=
    Decoding.field?_optional toDocument Value.toDocument_ne_null Value.read_written (record.find_fields "key")
  have origin : Decoding.field? entries "origin" (Decoding.optional Decoding.text) = _ :=
    Decoding.field?_optional_ok .string (by simp) (fun _ => rfl) (record.find_fields "origin")
  have timestamp : Decoding.field? entries "timestamp" (Decoding.optional Decoding.int64) = _ :=
    Decoding.field?_optional_ok (fun time : Int64 => .int time.toInt) (by simp) Decoding.int64_toInt
      (record.find_fields "timestamp")
  have value : Decoding.field? entries "value" ofDocument = _ :=
    Decoding.field?_always record.value.read_written (record.find_fields "value")
  change ofObject entries = _
  rw [ofObject, headers, key, origin, timestamp, value, isFinite_eq]
  refine Decoding.readBack_bind (Decoding.readBack_bind ?_)
  have join {α : Type} (content? : Option α) : (content?.map some).join = content? := by
    cases content? <;> rfl
  have getD : (if record.headers.isEmpty then none else some record.headers).getD [] = record.headers := by
    cases record.headers <;> rfl
  cases record.value.isFinite with
  | false => rfl
  | true =>
    change Except.ok { record with
      key? := (record.key?.map some).join
      origin? := (record.origin?.map some).join
      timestamp? := (record.timestamp?.map some).join
      headers := (if record.headers.isEmpty then none else some record.headers).getD [] } = .ok record
    rw [join, join, join, getD]

end Record

/-- Everything that is written of payloads and records is read back as what it was, unless some float in it
is infinite or no number, and is then refused. So no two are written alike, if one of them is finite. -/
theorem written_records_are_read_back :
    (∀ value : Value, ofDocument (toDocument value) =
        if value.isFinite then .ok value else .error (.invalidType .null "f64")) ∧
      (∀ record : Record, ofDocument (toDocument record) =
        if record.isFinite then .ok record else .error (.invalidType .null "f64")) ∧
      (∀ value other : Value, value.isFinite → toDocument value = toDocument other → value = other) ∧
      ∀ record other : Record, record.isFinite → toDocument record = toDocument other → record = other :=
  ⟨Value.read_written, Record.read_written,
    fun _ _ finite same => eq_of_toDocument_eq Value.read_written finite same,
    fun _ _ finite same => eq_of_toDocument_eq Record.read_written finite same⟩

/-- A key without payload is written, unlike no key, and so is the payload null. -/
example : toDocument ({ value := .json .null, key? := some .null } : Record) = .object [
    ("key", .object [("type", .string "null")]),
    ("value", .object [("data", .null), ("type", .string "json")])] := rfl

end Conveyor
