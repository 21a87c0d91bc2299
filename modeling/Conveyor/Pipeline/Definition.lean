import Conveyor.Chain.Layout
import Conveyor.Pipeline.Resources

/-!
Pipelines (`PipelineDefinition`): steps in order with an id, default resources and, for each step, an
agent type, settings and requested resources. Resolving a pipeline (`resolve`) gives every step an id
and its effective resources, or finds the first fault: of the id of the pipeline, of its default
resources, and then step by step of the id, the type, the difference from earlier ids and the resources.
A resolved pipeline is the layout of a chain of processors.
-/

namespace Conveyor

/-- Letters and digits of the ASCII range. -/
def isIdStart (c : Char) : Bool :=
  c.isAlphanum

/-- What may follow in an id. -/
def isIdRest (c : Char) : Bool :=
  isIdStart c || c == '.' || c == '_' || c == '-'

/-- Whether a text is an id: a letter or digit, and then letters, digits, dots, underscores and
hyphens. -/
def isValidId (text : String) : Bool :=
  match text.toList with
  | [] => false
  | first :: rest => isIdStart first && rest.all isIdRest

/-- One step of a pipeline. -/
structure StepDefinition where
  agentType : String
  /-- The id of the step; without it one is made from the pipeline, the type and the position. -/
  id? : Option String := none
  configuration : Configuration := Table.empty
  resources? : Option ResourcesSpec := none
  deriving DecidableEq, Repr

namespace StepDefinition

/-- The step with one more setting. -/
def withSetting (step : StepDefinition) (key : String) (value : Json) : StepDefinition :=
  { step with configuration := step.configuration.insert key value }

instance : ToDocument StepDefinition := ⟨fun step =>
  .ofFields [
    ("configuration", some step.configuration.toJson),
    ("id", step.id?.map .string),
    ("resources", step.resources?.map toDocument),
    ("type", some (.string step.agentType))]⟩

/-- The type under either of its two names, which must not both be used. -/
def pickType (entries : List (String × Json)) (agentType? : Option String) :
    Decoding.Result (Option String) :=
  match agentType?, Table.find "type" entries with
  | some _, some _ => .error (.duplicateField "type")
  | some agentType, none => .ok (some agentType)
  | none, _ => Decoding.field? entries "type" Decoding.text

/-- Reads a step from the fields of an object. -/
def ofObject (entries : List (String × Json)) : Decoding.Result StepDefinition := do
  let agentType? ← Decoding.field? entries "agentType" Decoding.text
  let configuration ← Decoding.field? entries "configuration" Decoding.fields
  let id? ← Decoding.field? entries "id" (Decoding.optional Decoding.text)
  let resources? ← Decoding.field? entries "resources" (Decoding.optional ofDocument)
  let agentType? ← pickType entries agentType?
  return {
    agentType := ← Decoding.require "type" agentType?
    id? := id?.join
    configuration := configuration.getD Table.empty
    resources? := resources?.join }

/-- Reads a step from the array of its fields. -/
def ofArray (items : List Json) : Decoding.Result StepDefinition := do
  let shape := "struct StepDefinition with 4 elements"
  let id? ← Decoding.itemOr none items 0 (Decoding.optional Decoding.text)
  let agentType ← Decoding.item items 1 shape Decoding.text
  let configuration ← Decoding.itemOr Table.empty items 2 Decoding.fields
  let resources? ← Decoding.itemOr none items 3 (Decoding.optional ofDocument)
  Decoding.noMoreThan 4 items
  return { agentType, id?, configuration, resources? }

instance : OfDocument StepDefinition := ⟨Decoding.shaped "StepDefinition" ofObject ofArray⟩

end StepDefinition

/-- A pipeline. -/
structure PipelineDefinition where
  id : String
  resources? : Option ResourcesSpec := none
  steps : List StepDefinition := []
  deriving DecidableEq, Repr

/-- A step with its id and its resources settled. -/
structure ResolvedStep where
  id : String
  agentType : String
  configuration : Configuration
  resources : EffectiveResources
  deriving DecidableEq, Repr

namespace ResolvedStep

/-- The definition of the agent of a step. -/
def toAgentDefinition (step : ResolvedStep) : AgentDefinition where
  agentId := step.id
  agentType := step.agentType
  configuration := step.configuration

instance : ToDocument ResolvedStep := ⟨fun step =>
  .object [("agentType", .string step.agentType), ("configuration", step.configuration.toJson),
    ("id", .string step.id), ("resources", toDocument step.resources)]⟩

end ResolvedStep

namespace PipelineDefinition

instance : ToDocument PipelineDefinition := ⟨fun pipeline =>
  .ofFields [
    ("id", some (.string pipeline.id)),
    ("resources", pipeline.resources?.map toDocument),
    ("steps", some (.array (pipeline.steps.map toDocument)))]⟩

/-- Reads a pipeline from the fields of an object. -/
def ofObject (entries : List (String × Json)) : Decoding.Result PipelineDefinition := do
  let id ← Decoding.field? entries "id" Decoding.text
  let resources? ← Decoding.field? entries "resources" (Decoding.optional ofDocument)
  let steps ← Decoding.field? entries "steps" (Decoding.list ofDocument)
  return {
    id := ← Decoding.require "id" id
    resources? := resources?.join
    steps := steps.getD [] }

/-- Reads a pipeline from the array of its fields. -/
def ofArray (items : List Json) : Decoding.Result PipelineDefinition := do
  let shape := "struct PipelineDefinition with 3 elements"
  let id ← Decoding.item items 0 shape Decoding.text
  let resources? ← Decoding.itemOr none items 1 (Decoding.optional ofDocument)
  let steps ← Decoding.itemOr [] items 2 (Decoding.list ofDocument)
  Decoding.noMoreThan 3 items
  return { id, resources?, steps }

instance : OfDocument PipelineDefinition := ⟨Decoding.shaped "PipelineDefinition" ofObject ofArray⟩

/-- The id of a step at a position, counted from one. -/
def stepId (pipelineId : String) (position : Nat) (step : StepDefinition) : String :=
  step.id?.getD (pipelineId ++ "-" ++ step.agentType ++ "-" ++ toString position)

/-- Attributes an error to an agent. -/
def blaming {α : Type} (agentId : String) :
    Except ConfigurationError α → Except ConfigurationError α
  | .ok value => .ok value
  | .error error => .error (error.forAgent agentId)

/-- Checks a step whose id is settled, given the ids of the steps before it. -/
def checkStep (earlier : List String) (id : String) (step : StepDefinition) :
    Except ConfigurationError Unit :=
  if !isValidId id then .error (.invalidField "id" ("'" ++ id ++ "' is not a valid step id"))
  else if step.agentType.isEmpty then .error ((ConfigurationError.missingField "type").forAgent id)
  else if earlier.contains id then
    .error { message := "duplicate step id '" ++ id ++ "'", agentId? := some id }
  else
    match step.resources? with
    | none => .ok ()
    | some resources => blaming id resources.validate

/-- Resolves the steps from a position on, given the ids of the steps before. -/
def resolveFrom (pipeline : PipelineDefinition) (earlier : List String) (position : Nat) :
    List StepDefinition → Except ConfigurationError (List ResolvedStep)
  | [] => .ok []
  | step :: rest => do
    let id := stepId pipeline.id position step
    checkStep earlier id step
    let resolved : ResolvedStep := {
      id
      agentType := step.agentType
      configuration := step.configuration
      resources := .resolve step.resources? pipeline.resources? }
    return resolved :: (← resolveFrom pipeline (id :: earlier) (position + 1) rest)

/-- Checks the pipeline and settles every step. -/
def resolve (pipeline : PipelineDefinition) : Except ConfigurationError (List ResolvedStep) := do
  if !isValidId pipeline.id then
    throw (.invalidField "id" ("'" ++ pipeline.id ++ "' is not a valid pipeline id"))
  match pipeline.resources? with
  | none => pure ()
  | some defaults => blaming pipeline.id defaults.validate
  pipeline.resolveFrom [] 1 pipeline.steps

/-- The layout of the chain of a pipeline, which has processors only. -/
def toLayout (pipeline : PipelineDefinition) : Except ConfigurationError ChainLayout := do
  return { processors := (← pipeline.resolve).map ResolvedStep.toAgentDefinition }

end PipelineDefinition

end Conveyor
