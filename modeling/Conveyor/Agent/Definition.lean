import Conveyor.Configuration

/-!
Definitions of agents (`AgentDefinition`): which type to construct, under which id, with which
configuration.
-/

namespace Conveyor

/-- The description of one agent. -/
structure AgentDefinition where
  agentId : String
  agentType : String
  configuration : Configuration := Table.empty
  deriving DecidableEq, Repr

namespace AgentDefinition

/-- The definition with one more setting. -/
def withSetting (definition : AgentDefinition) (key : String) (value : Json) : AgentDefinition :=
  { definition with configuration := definition.configuration.insert key value }

instance : ToDocument AgentDefinition := ⟨fun definition =>
  .object [("agentId", .string definition.agentId), ("agentType", .string definition.agentType),
    ("configuration", definition.configuration.toJson)]⟩

/-- Reads a definition from the fields of an object. -/
def ofObject (entries : List (String × Json)) : Decoding.Result AgentDefinition := do
  let agentId ← Decoding.field? entries "agentId" Decoding.text
  let agentType ← Decoding.field? entries "agentType" Decoding.text
  let configuration ← Decoding.field? entries "configuration" Decoding.fields
  return {
    agentId := ← Decoding.require "agentId" agentId
    agentType := ← Decoding.require "agentType" agentType
    configuration := configuration.getD Table.empty }

/-- Reads a definition from the array of its fields. -/
def ofArray (items : List Json) : Decoding.Result AgentDefinition := do
  let shape := "struct AgentDefinition with 3 elements"
  let agentId ← Decoding.item items 0 shape Decoding.text
  let agentType ← Decoding.item items 1 shape Decoding.text
  let configuration ← Decoding.itemOr Table.empty items 2 Decoding.fields
  Decoding.noMoreThan 3 items
  return { agentId, agentType, configuration }

instance : OfDocument AgentDefinition := ⟨Decoding.shaped "AgentDefinition" ofObject ofArray⟩

end AgentDefinition

end Conveyor
