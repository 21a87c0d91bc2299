import Conveyor.Error
import Conveyor.Json.Text

/-!
Configurations of agents: tables of documents with typed reads (`required_str`, `optional_str` and the
like). A null counts as absent in every read, and a value of the wrong kind is a configuration error
that names the field and shows the value.
-/

namespace Conveyor

/-- The settings of an agent. -/
abbrev Configuration := Table Json

namespace Configuration

/-- The configuration of a document: the fields of an object, and nothing of anything else. -/
def ofJson : Json → Configuration
  | .object entries => Table.ofList entries
  | _ => Table.empty

/-- The document of a configuration. -/
def toJson (configuration : Configuration) : Json :=
  .object configuration.entries

/-- The value of a field, unless it is absent or null. -/
def present? (configuration : Configuration) (field : String) : Option Json :=
  match configuration.get? field with
  | some .null => none
  | value? => value?

/-- Refuses the value of a field. -/
def refuse {α : Type} (field expected : String) (value : Json) : Except ConfigurationError α :=
  .error (.invalidField field ("expected " ++ expected ++ ", got " ++ value.text))

/-- A text, if the field is present. -/
def optionalText (configuration : Configuration) (field : String) :
    Except ConfigurationError (Option String) :=
  match configuration.present? field with
  | none => .ok none
  | some (.string value) => .ok (some value)
  | some other => refuse field "a string" other

/-- A text that has to be present. -/
def requiredText (configuration : Configuration) (field : String) :
    Except ConfigurationError String := do
  match ← configuration.optionalText field with
  | some value => return value
  | none => throw (.missingField field)

/-- A natural number of up to 64 bits, if the field is present. -/
def optionalNat (configuration : Configuration) (field : String) :
    Except ConfigurationError (Option Nat) :=
  match configuration.present? field with
  | none => .ok none
  | some (.int value) =>
    if 0 ≤ value ∧ value < UInt64.size then .ok (some value.toNat)
    else refuse field "a non-negative integer" (.int value)
  | some other => refuse field "a non-negative integer" other

/-- A truth value, if the field is present. -/
def optionalBool (configuration : Configuration) (field : String) :
    Except ConfigurationError (Option Bool) :=
  match configuration.present? field with
  | none => .ok none
  | some (.bool value) => .ok (some value)
  | some other => refuse field "a boolean" other

/-- A nested configuration, if the field is present. -/
def optionalMap (configuration : Configuration) (field : String) :
    Except ConfigurationError (Option Configuration) :=
  match configuration.present? field with
  | none => .ok none
  | some (.object entries) => .ok (some (Table.ofList entries))
  | some other => refuse field "an object" other

/-- How deeply the values of a configuration are nested. -/
def depth (configuration : Configuration) : Nat :=
  Json.fieldsDepth configuration.entries

end Configuration

end Conveyor
