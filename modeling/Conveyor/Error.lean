import Conveyor.Json.Decoding

/-!
The failures of agents and chains. Every failure has a kind and a text. Agents raise `AgentError`s; a
chain turns them into a `ProcessingError` that names the agent, or into a `LifecycleError` that collects
the agents that failed to start or to close; a `ConfigurationError` is found before anything runs.
`FlowError` is what callers of a chain see (`AgentflowError`), and each of these errors can be raised
again by an agent that runs a chain inside.
-/

namespace Conveyor

/-- What a failure is about. -/
inductive ErrorKind where
  /-- A configuration is invalid, or an agent type unknown. -/
  | configuration
  /-- A stage refused a batch, or failed on it. -/
  | processing
  /-- A stage was torn down while it ran. -/
  | panic
  /-- An agent failed to start or to close. -/
  | lifecycle
  /-- A document could not be read or written. -/
  | serialization
  /-- Any other failure of an agent. -/
  | internal
  deriving DecidableEq, Repr

namespace ErrorKind

/-- Every kind under its name. -/
def names : List (String × ErrorKind) :=
  [("configuration", configuration), ("processing", processing), ("panic", panic),
    ("lifecycle", lifecycle), ("serialization", serialization), ("internal", internal)]

/-- The name of a kind. -/
def name : ErrorKind → String
  | configuration => "configuration"
  | processing => "processing"
  | panic => "panic"
  | lifecycle => "lifecycle"
  | serialization => "serialization"
  | internal => "internal"

instance : ToDocument ErrorKind := ⟨fun kind => .string kind.name⟩

instance : OfDocument ErrorKind := ⟨Decoding.variant names⟩

end ErrorKind

/-- An invalid configuration, with the agent and the field it is about as far as they are known. -/
structure ConfigurationError where
  message : String
  agentId? : Option String := none
  field? : Option String := none
  deriving DecidableEq, Repr

namespace ConfigurationError

/-- The error of a field that is required but absent. -/
def missingField (field : String) : ConfigurationError :=
  { message := "missing required field '" ++ field ++ "'", field? := some field }

/-- The error of a field whose value is not allowed. -/
def invalidField (field reason : String) : ConfigurationError :=
  { message := "invalid value for field '" ++ field ++ "': " ++ reason, field? := some field }

/-- The error of an agent type that nothing constructs. -/
def unknownAgentType (agentType : String) : ConfigurationError :=
  { message := "unknown agent type '" ++ agentType ++ "'" }

/-- Attributes an error to an agent, unless it is attributed already. -/
def forAgent (error : ConfigurationError) (agentId : String) : ConfigurationError :=
  { error with agentId? := some (error.agentId?.getD agentId) }

/-- The text of the error, naming the agent if it is known. -/
def display (error : ConfigurationError) : String :=
  match error.agentId? with
  | some agentId => "Invalid configuration for agent '" ++ agentId ++ "': " ++ error.message
  | none => "Invalid configuration: " ++ error.message

end ConfigurationError

/-- A failure raised by an agent. The chain that called it knows which agent it was. -/
structure AgentError where
  kind : ErrorKind
  message : String
  deriving DecidableEq, Repr

/-- The failure recorded for every lineage that a failed call touched. -/
structure ProcessingError where
  agentId : String
  kind : ErrorKind
  message : String
  deriving DecidableEq, Repr

namespace ProcessingError

/-- The failure of the agent that raised an error. -/
def ofAgent (agentId : String) (error : AgentError) : ProcessingError :=
  ⟨agentId, error.kind, error.message⟩

/-- The text of the failure. -/
def display (error : ProcessingError) : String :=
  "Agent '" ++ error.agentId ++ "' failed (" ++ error.kind.name ++ "): " ++ error.message

instance : ToDocument ProcessingError := ⟨fun error =>
  .object [("agent_id", .string error.agentId), ("kind", toDocument error.kind),
    ("message", .string error.message)]⟩

/-- Reads a failure from the fields of an object. -/
def ofObject (entries : List (String × Json)) : Decoding.Result ProcessingError := do
  let agentId ← Decoding.field? entries "agent_id" Decoding.text
  let kind ← Decoding.field? entries "kind" ofDocument
  let message ← Decoding.field? entries "message" Decoding.text
  return ⟨← Decoding.require "agent_id" agentId, ← Decoding.require "kind" kind,
    ← Decoding.require "message" message⟩

/-- Reads a failure from the array of its fields. -/
def ofArray (items : List Json) : Decoding.Result ProcessingError := do
  let shape := "struct ProcessingError with 3 elements"
  let agentId ← Decoding.item items 0 shape Decoding.text
  let kind ← Decoding.item items 1 shape ofDocument
  let message ← Decoding.item items 2 shape Decoding.text
  Decoding.noMoreThan 3 items
  return ⟨agentId, kind, message⟩

instance : OfDocument ProcessingError := ⟨Decoding.shaped "ProcessingError" ofObject ofArray⟩

end ProcessingError

/-- The half of an agent's life in which it failed. -/
inductive LifecyclePhase where
  | start
  | close
  deriving DecidableEq, Repr

namespace LifecyclePhase

/-- The name of a phase. -/
def name : LifecyclePhase → String
  | start => "start"
  | close => "close"

instance : ToDocument LifecyclePhase := ⟨fun phase => .string phase.name⟩

instance : OfDocument LifecyclePhase :=
  ⟨Decoding.variant [("start", LifecyclePhase.start), ("close", LifecyclePhase.close)]⟩

end LifecyclePhase

/-- The failure of one agent to start or to close. -/
structure AgentFailure where
  agentId : String
  message : String
  deriving DecidableEq, Repr

namespace AgentFailure

instance : ToDocument AgentFailure := ⟨fun failure =>
  .object [("agent_id", .string failure.agentId), ("message", .string failure.message)]⟩

/-- Reads a failure from the fields of an object. -/
def ofObject (entries : List (String × Json)) : Decoding.Result AgentFailure := do
  let agentId ← Decoding.field? entries "agent_id" Decoding.text
  let message ← Decoding.field? entries "message" Decoding.text
  return ⟨← Decoding.require "agent_id" agentId, ← Decoding.require "message" message⟩

/-- Reads a failure from the array of its fields. -/
def ofArray (items : List Json) : Decoding.Result AgentFailure := do
  let shape := "struct AgentFailure with 2 elements"
  let agentId ← Decoding.item items 0 shape Decoding.text
  let message ← Decoding.item items 1 shape Decoding.text
  Decoding.noMoreThan 2 items
  return ⟨agentId, message⟩

instance : OfDocument AgentFailure := ⟨Decoding.shaped "AgentFailure" ofObject ofArray⟩

end AgentFailure

/-- The failures met while starting or closing a chain, in the order of the agents. -/
structure LifecycleError where
  phase : LifecyclePhase
  failures : List AgentFailure
  deriving DecidableEq, Repr

namespace LifecycleError

/-- The error of a single agent. -/
def single (phase : LifecyclePhase) (agentId message : String) : LifecycleError :=
  ⟨phase, [⟨agentId, message⟩]⟩

/-- The agents that failed. -/
def agentIds (error : LifecycleError) : List String :=
  error.failures.map (·.agentId)

/-- The text of the error: how many agents failed, and each with its message. -/
def display (error : LifecycleError) : String :=
  "Failed to " ++ error.phase.name ++ " " ++ toString error.failures.length ++ " agent(s): " ++
    "; ".intercalate (error.failures.map fun failure => failure.agentId ++ ": " ++ failure.message)

end LifecycleError

/-- What callers of a chain see when something fails. -/
inductive FlowError where
  | configuration (error : ConfigurationError)
  | processing (error : ProcessingError)
  | lifecycle (error : LifecycleError)
  /-- A document was refused for this reason. -/
  | serialization (reason : String)
  deriving DecidableEq, Repr

namespace FlowError

/-- What the failure is about; a processing failure has the kind of its cause. -/
def kind : FlowError → ErrorKind
  | configuration _ => .configuration
  | processing error => error.kind
  | lifecycle _ => .lifecycle
  | serialization _ => .serialization

/-- The text of the failure. -/
def display : FlowError → String
  | configuration error => error.display
  | processing error => error.display
  | lifecycle error => error.display
  | serialization reason => "Serialization error: " ++ reason

/-- The failure of a document that was refused. -/
def ofDecoding (error : Decoding.Error) : FlowError :=
  serialization error.message

/-- Kind and text of the failure as a document. -/
def summary (error : FlowError) : Json :=
  .object [("kind", toDocument error.kind), ("message", .string error.display)]

end FlowError

namespace AgentError

/-- An agent that meets an invalid configuration raises its bare message; the agent and the field
are lost. -/
def ofConfiguration (error : ConfigurationError) : AgentError :=
  ⟨.configuration, error.message⟩

/-- An agent whose inner chain fails to start or to close raises the text of that failure. -/
def ofLifecycle (error : LifecycleError) : AgentError :=
  ⟨.lifecycle, error.display⟩

/-- An agent whose inner chain fails in any way raises the kind and the text of that failure. -/
def ofFlow (error : FlowError) : AgentError :=
  ⟨error.kind, error.display⟩

/-- Any other failure: a message and the contexts it was met in, the outermost first. -/
def ofCauses (causes : List String) : AgentError :=
  ⟨.internal, ": ".intercalate causes⟩

end AgentError

end Conveyor
