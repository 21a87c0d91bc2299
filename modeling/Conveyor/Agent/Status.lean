import Conveyor.Error
import Conveyor.Time.Rfc3339

/-!
What agents report about themselves (`AgentStatus`, kept by `AgentCounters`, collected by
`collect_status`): who they are, which role they play, how many records they took and gave, and whatever
else they want to show. Counters never run backwards; the totals are natural numbers, and nothing wraps
around where a word of 64 bits would.
-/

namespace Conveyor

namespace Instant

instance : ToDocument Instant := ⟨fun instant => .string instant.text⟩

/-- Reads an instant from its text. -/
def ofJson : Json → Decoding.Result Instant
  | .string value =>
    match Rfc3339.read value with
    | .ok instant => .ok instant
    | .error error => .error (.malformed error.message)
  | other => Decoding.mismatch other "an RFC 3339 formatted date and time string"

instance : OfDocument Instant := ⟨ofJson⟩

end Instant

/-- The role of an agent in a chain. -/
inductive Component where
  /-- Makes records. -/
  | source
  /-- Turns records into records. -/
  | processor
  /-- Takes records. -/
  | sink
  deriving DecidableEq, Repr

namespace Component

/-- The name of a role. -/
def name : Component → String
  | source => "source"
  | processor => "processor"
  | sink => "sink"

/-- Every role under its name. -/
def names : List (String × Component) :=
  [("source", source), ("processor", processor), ("sink", sink)]

instance : ToDocument Component := ⟨fun component => .string component.name⟩

instance : OfDocument Component := ⟨Decoding.variant names⟩

end Component

/-- Who an agent is: its id, the type it was constructed as, and when its host was started. -/
structure Identity where
  agentId : String
  agentType : String
  startedAt : Instant
  deriving DecidableEq, Inhabited, Repr

/-- How much an agent has handled. -/
structure AgentMetrics where
  totalIn : Nat
  totalOut : Nat
  startedAt : Instant
  lastProcessedAt? : Option Instant
  deriving DecidableEq, Repr

namespace AgentMetrics

instance : ToDocument AgentMetrics := ⟨fun metrics =>
  .ofFields [
    ("last_processed_at", metrics.lastProcessedAt?.map toDocument),
    ("started_at", some (toDocument metrics.startedAt)),
    ("total_in", some (.int metrics.totalIn)),
    ("total_out", some (.int metrics.totalOut))]⟩

/-- Reads metrics from the fields of an object. -/
def ofObject (entries : List (String × Json)) : Decoding.Result AgentMetrics := do
  let last? ← Decoding.field? entries "last_processed_at" (Decoding.optional ofDocument)
  let startedAt ← Decoding.field? entries "started_at" ofDocument
  let totalIn ← Decoding.field? entries "total_in" Decoding.nat64
  let totalOut ← Decoding.field? entries "total_out" Decoding.nat64
  return {
    totalIn := ← Decoding.require "total_in" totalIn
    totalOut := ← Decoding.require "total_out" totalOut
    startedAt := ← Decoding.require "started_at" startedAt
    lastProcessedAt? := last?.join }

/-- Reads metrics from the array of their fields. -/
def ofArray (items : List Json) : Decoding.Result AgentMetrics := do
  let shape := "struct AgentMetrics with 4 elements"
  let totalIn ← Decoding.item items 0 shape Decoding.nat64
  let totalOut ← Decoding.item items 1 shape Decoding.nat64
  let startedAt ← Decoding.item items 2 shape ofDocument
  let lastProcessedAt? ← Decoding.item items 3 shape (Decoding.optional ofDocument)
  Decoding.noMoreThan 4 items
  return { totalIn, totalOut, startedAt, lastProcessedAt? }

instance : OfDocument AgentMetrics := ⟨Decoding.shaped "AgentMetrics" ofObject ofArray⟩

end AgentMetrics

/-- What an agent reports about itself. -/
structure AgentStatus where
  agentId : String
  agentType : String
  component : Component
  metrics : AgentMetrics
  info : Table Json
  deriving DecidableEq, Repr

namespace AgentStatus

instance : ToDocument AgentStatus := ⟨fun status =>
  .ofFields [
    ("agent_id", some (.string status.agentId)),
    ("agent_type", some (.string status.agentType)),
    ("component_type", some (toDocument status.component)),
    ("info", if status.info.isEmpty then none else some (.object status.info.entries)),
    ("metrics", some (toDocument status.metrics))]⟩

/-- Reads a report from the fields of an object. -/
def ofObject (entries : List (String × Json)) : Decoding.Result AgentStatus := do
  let agentId ← Decoding.field? entries "agent_id" Decoding.text
  let agentType ← Decoding.field? entries "agent_type" Decoding.text
  let component ← Decoding.field? entries "component_type" ofDocument
  let info ← Decoding.field? entries "info" Decoding.fields
  let metrics ← Decoding.field? entries "metrics" ofDocument
  return {
    agentId := ← Decoding.require "agent_id" agentId
    agentType := ← Decoding.require "agent_type" agentType
    component := ← Decoding.require "component_type" component
    metrics := ← Decoding.require "metrics" metrics
    info := info.getD Table.empty }

/-- Reads a report from the array of its fields. -/
def ofArray (items : List Json) : Decoding.Result AgentStatus := do
  let shape := "struct AgentStatus with 5 elements"
  let agentId ← Decoding.item items 0 shape Decoding.text
  let agentType ← Decoding.item items 1 shape Decoding.text
  let component ← Decoding.item items 2 shape ofDocument
  let metrics ← Decoding.item items 3 shape ofDocument
  let info ← Decoding.itemOr Table.empty items 4 Decoding.fields
  Decoding.noMoreThan 5 items
  return { agentId, agentType, component, metrics, info }

instance : OfDocument AgentStatus := ⟨Decoding.shaped "AgentStatus" ofObject ofArray⟩

end AgentStatus

/-- The counters from which an agent makes its reports. -/
structure Counters where
  identity : Identity
  component : Component
  totalIn : Nat := 0
  totalOut : Nat := 0
  lastProcessedAt? : Option Instant := none
  deriving DecidableEq, Repr

namespace Counters

/-- Counts the records of one call. -/
def count (counters : Counters) (recordsIn recordsOut : Nat) (now : Instant) : Counters :=
  { counters with
    totalIn := counters.totalIn + recordsIn
    totalOut := counters.totalOut + recordsOut
    lastProcessedAt? := some now }

/-- The counts so far. -/
def metrics (counters : Counters) : AgentMetrics where
  totalIn := counters.totalIn
  totalOut := counters.totalOut
  startedAt := counters.identity.startedAt
  lastProcessedAt? := counters.lastProcessedAt?

/-- The report of the counts so far, with whatever else there is to show. -/
def status (counters : Counters) (info : Table Json) : AgentStatus where
  agentId := counters.identity.agentId
  agentType := counters.identity.agentType
  component := counters.component
  metrics := counters.metrics
  info := info

end Counters

/-- The reports of all agents of a chain at one moment. -/
structure StatusSnapshot where
  takenAt : Instant
  agents : List AgentStatus
  deriving DecidableEq, Repr

namespace StatusSnapshot

/-- The first report of an agent. -/
def agent? (snapshot : StatusSnapshot) (agentId : String) : Option AgentStatus :=
  snapshot.agents.find? fun status => status.agentId == agentId

/-- The reports of all agents of a role. -/
def byComponent (snapshot : StatusSnapshot) (component : Component) : List AgentStatus :=
  snapshot.agents.filter fun status => status.component == component

instance : ToDocument StatusSnapshot := ⟨fun snapshot =>
  .object [("agents", .array (snapshot.agents.map toDocument)),
    ("taken_at", toDocument snapshot.takenAt)]⟩

/-- Reads a snapshot from the fields of an object. -/
def ofObject (entries : List (String × Json)) : Decoding.Result StatusSnapshot := do
  let agents ← Decoding.field? entries "agents" (Decoding.list ofDocument)
  let takenAt ← Decoding.field? entries "taken_at" ofDocument
  return ⟨← Decoding.require "taken_at" takenAt, ← Decoding.require "agents" agents⟩

/-- Reads a snapshot from the array of its fields. -/
def ofArray (items : List Json) : Decoding.Result StatusSnapshot := do
  let shape := "struct StatusSnapshot with 2 elements"
  let takenAt ← Decoding.item items 0 shape ofDocument
  let agents ← Decoding.item items 1 shape (Decoding.list ofDocument)
  Decoding.noMoreThan 2 items
  return ⟨takenAt, agents⟩

instance : OfDocument StatusSnapshot := ⟨Decoding.shaped "StatusSnapshot" ofObject ofArray⟩

end StatusSnapshot

end Conveyor
