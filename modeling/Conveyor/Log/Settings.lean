import Conveyor.Json.Decoding

/-!
Settings of the log (`LoggingConfig`): the format of its lines, the level that is logged unless the
environment says otherwise, and whether lines name where they come from. A process sets up its log once,
by `init_logging`.
-/

namespace Conveyor

/-- The format of the lines of the log. -/
inductive LogFormat where
  | text
  | json
  deriving DecidableEq, Repr

namespace LogFormat

/-- The name of a format. -/
def name : LogFormat → String
  | text => "text"
  | json => "json"

instance : ToDocument LogFormat := ⟨fun format => .string format.name⟩

instance : OfDocument LogFormat :=
  ⟨Decoding.variant [("text", LogFormat.text), ("json", LogFormat.json)]⟩

/-- A text with the letters of the ASCII range in lower case. -/
def lowered (value : String) : String :=
  String.ofList (value.toList.map Char.toLower)

/-- The format of a name in any case. -/
def ofName (value : String) : Except String LogFormat :=
  let name := lowered value
  if name = "text" then .ok text
  else if name = "json" then .ok json
  else .error ("unknown log format '" ++ name ++ "'")

end LogFormat

/-- The settings of the log. -/
structure LogSettings where
  format : LogFormat := .text
  defaultLevel : String := "info"
  withTarget : Bool := false
  deriving DecidableEq, Repr

namespace LogSettings

instance : ToDocument LogSettings := ⟨fun settings =>
  .object [("default_level", .string settings.defaultLevel),
    ("format", toDocument settings.format), ("with_target", .bool settings.withTarget)]⟩

/-- Reads settings from the fields of an object; all of them may be left out. -/
def ofObject (entries : List (String × Json)) : Decoding.Result LogSettings := do
  let defaultLevel ← Decoding.field? entries "default_level" Decoding.text
  let format ← Decoding.field? entries "format" ofDocument
  let withTarget ← Decoding.field? entries "with_target" Decoding.bool
  return {
    format := format.getD .text
    defaultLevel := defaultLevel.getD "info"
    withTarget := withTarget.getD false }

/-- Reads settings from the array of their fields. -/
def ofArray (items : List Json) : Decoding.Result LogSettings := do
  let format ← Decoding.itemOr .text items 0 ofDocument
  let defaultLevel ← Decoding.itemOr "info" items 1 Decoding.text
  let withTarget ← Decoding.itemOr false items 2 Decoding.bool
  Decoding.noMoreThan 3 items
  return { format, defaultLevel, withTarget }

instance : OfDocument LogSettings := ⟨Decoding.shaped "LoggingConfig" ofObject ofArray⟩

/-- Whether setting up the log takes effect: only the first set-up of a process does. -/
def takesEffect (alreadySetUp : Bool) (_settings : LogSettings) : Bool :=
  !alreadySetUp

end LogSettings

end Conveyor
