import Conveyor.Json.Basic
import Conveyor.Number.Style
import Conveyor.Text.Quoted

/-!
The compact text of a document: no blanks, fields in their order, strings in their document form and
numbers in the document style.
-/

namespace Conveyor.Json

mutual

/-- The text of a document. -/
def text : Json → String
  | .null => "null"
  | .bool true => "true"
  | .bool false => "false"
  | .int value => toString value
  | .float value => Style.json.write value
  | .string value => Text.document value
  | .array items => "[" ++ itemsText items ++ "]"
  | .object fields => "\x7b" ++ fieldsText fields ++ "\x7d"

/-- The items of an array between commas. -/
def itemsText : List Json → String
  | [] => ""
  | [item] => text item
  | item :: rest => text item ++ "," ++ itemsText rest

/-- The fields of an object between commas. -/
def fieldsText : List (String × Json) → String
  | [] => ""
  | [(key, value)] => Text.document key ++ ":" ++ text value
  | (key, value) :: rest => Text.document key ++ ":" ++ text value ++ "," ++ fieldsText rest

end

end Conveyor.Json
