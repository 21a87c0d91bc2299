import Conveyor.Agent.Definition

/-!
Layouts of chains (`ChainConfiguration`, read by `from_configuration`): the definitions of an optional
source, of processors in order and of an optional sink. A source or a sink that is absent, null or the
empty object means that there is none, and processors that are absent or null mean that there are none.
-/

namespace Conveyor

/-- The description of a chain. -/
structure ChainLayout where
  source? : Option AgentDefinition := none
  processors : List AgentDefinition := []
  sink? : Option AgentDefinition := none
  deriving DecidableEq, Repr

namespace ChainLayout

instance : ToDocument ChainLayout := ⟨fun layout =>
  .ofFields [
    ("processors", some (.array (layout.processors.map toDocument))),
    ("sink", layout.sink?.map toDocument),
    ("source", layout.source?.map toDocument)]⟩

/-- Reads the definition of an end of the chain, which may be left empty. -/
def readEnd : Json → Decoding.Result (Option AgentDefinition)
  | .null | .object [] => .ok none
  | document => (ofDocument document).map some

/-- Reads the definitions of the processors, which may be left out. -/
def readProcessors (document : Json) : Decoding.Result (List AgentDefinition) :=
  (Decoding.optional (Decoding.list ofDocument) document).map (·.getD [])

/-- Reads a layout from the fields of an object. -/
def ofObject (entries : List (String × Json)) : Decoding.Result ChainLayout := do
  let processors ← Decoding.field? entries "processors" readProcessors
  let sink? ← Decoding.field? entries "sink" readEnd
  let source? ← Decoding.field? entries "source" readEnd
  return { source? := source?.join, processors := processors.getD [], sink? := sink?.join }

/-- Reads a layout from the array of its fields. -/
def ofArray (items : List Json) : Decoding.Result ChainLayout := do
  let source? ← Decoding.itemOr none items 0 readEnd
  let processors ← Decoding.itemOr [] items 1 readProcessors
  let sink? ← Decoding.itemOr none items 2 readEnd
  Decoding.noMoreThan 3 items
  return { source?, processors, sink? }

instance : OfDocument ChainLayout := ⟨Decoding.shaped "ChainConfiguration" ofObject ofArray⟩

/-- The layout that the configuration of an agent describes. -/
def ofConfiguration (configuration : Configuration) : Except ConfigurationError ChainLayout :=
  match (ofDocument configuration.toJson : Decoding.Result ChainLayout) with
  | .ok layout => .ok layout
  | .error error => .error { message := "invalid chain configuration: " ++ error.message }

/-- Every definition of a layout: of the source, of the processors in order, of the sink. -/
def definitions (layout : ChainLayout) : List AgentDefinition :=
  layout.source?.toList ++ layout.processors ++ layout.sink?.toList

end ChainLayout

end Conveyor
