import Conveyor.Activity
import Conveyor.Agent.Status
import Conveyor.Configuration
import Conveyor.Record.Entry

/-!
What it takes to be an agent: what `AgentCode` asks of every agent, and the calls of `AgentSource`,
`AgentProcessor` and `AgentSink`. Every agent has an id, a type and reports about itself, and can be
started and closed; which of the roles of source, processor and sink it can play it says itself. A call
of an agent leaves the agent in a new state, whatever the outcome: an agent may answer, raise an error,
or be torn down in the middle of the call. Nothing is assumed about the answers; what a chain makes of
missing, repeated or foreign entries is the business of the chain.
-/

namespace Conveyor

/-- How a call can fail. -/
inductive Fault (ε : Type) where
  /-- An error was raised. -/
  | raised (error : ε)
  /-- The call was torn down, with a message unless there was none that can be read. -/
  | panicked (message? : Option String)
  deriving DecidableEq, Repr

/-- The error that stands for a fault: a call that was torn down fails with the kind `panic`. -/
def Fault.toAgentError : Fault AgentError → AgentError
  | raised error => error
  | panicked (some message) => ⟨.panic, "panicked: " ++ message⟩
  | panicked none => ⟨.panic, "panicked"⟩

/-- The answer of an agent to a call, and the state that the call leaves the agent in. -/
structure Reply (α β : Type) where
  agent : α
  result : Except (Fault AgentError) β

namespace Reply

variable {α β : Type}

/-- An answer. -/
def ok (agent : α) (value : β) : Reply α β := ⟨agent, .ok value⟩

/-- A raised error. -/
def raise (agent : α) (error : AgentError) : Reply α β := ⟨agent, .error (.raised error)⟩

/-- The same answer of an agent seen in another way. -/
def mapAgent {γ : Type} (f : α → γ) (reply : Reply α β) : Reply γ β :=
  ⟨f reply.agent, reply.result⟩

end Reply

/-- The services of the host of an agent: the id of the host, and a directory for state that
outlives it. -/
structure Context where
  globalAgentId : String
  stateDirectory? : Option String := none
  deriving DecidableEq, Repr

/-- The roles that an agent can play. -/
structure Capabilities where
  source : Bool := false
  processor : Bool := false
  sink : Bool := false
  deriving DecidableEq, Repr

/-- Whether an agent can play a role. -/
def Capabilities.allow (capabilities : Capabilities) : Component → Bool
  | .source => capabilities.source
  | .processor => capabilities.processor
  | .sink => capabilities.sink

/-- Agents of the type `α` in a world `ω`. A hook that does not belong to one of the agent's roles is
never called. Most hooks have a default: to have no role, to do nothing, to answer with nothing; a
source that does not say otherwise raises the failures it is told about. -/
class Behaviour (ω : outParam Type) (α : Type) where
  agentId : α → String
  agentType : α → String
  /-- The reports of the agent, and of the agents inside it. -/
  status : α → List AgentStatus
  capabilities : α → Capabilities := fun _ => {}
  /-- Receives the services of the host. -/
  setContext : Context → α → Activity ω α := fun _ agent => pure agent
  start : α → Activity ω (Reply α Unit) := fun agent => pure (.ok agent ())
  close : α → Activity ω (Reply α Unit) := fun agent => pure (.ok agent ())
  /-- Answers a batch, supposedly with one entry for each of its records. -/
  process : List Handle → α → Activity ω (Reply α (List Entry)) := fun _ agent => pure (.ok agent [])
  /-- Emits the next batch, which is empty if there is nothing to emit yet. -/
  read : α → Activity ω (Reply α (List Handle)) := fun agent => pure (.ok agent [])
  /-- Learns that records are through. -/
  commit : List Handle → α → Activity ω (Reply α Unit) := fun _ agent => pure (.ok agent ())
  /-- Learns that a record has failed for good, and accepts that or raises the error. -/
  permanentFailure : Handle → AgentError → α → Activity ω (Reply α Unit) :=
    fun _ error agent => pure (.raise agent error)
  /-- Takes a batch. -/
  write : List Handle → α → Activity ω (Reply α Unit) := fun _ agent => pure (.ok agent ())

/-- Agents that accept a configuration. A configuration that is refused may still leave traces. -/
class Configurable (ω : outParam Type) (α : Type) where
  init : Configuration → α → Activity ω (Reply α Unit)

/-- Worlds with a clock. -/
class Clock (ω : Type) where
  now : ω → Instant

end Conveyor
