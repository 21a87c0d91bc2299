import Conveyor.Environment

/-!
A processor for tests of life cycles (`LifecycleProbe`): it notes in the journal when it receives a
context and when it is started or closed, and can refuse to start or to close. Records pass through it.
-/

namespace Conveyor.Testing

/-- Notes the calls of its life cycle. -/
structure Probe where
  counters : Counters
  failStart : Bool := false
  failClose : Bool := false
  deriving Repr

namespace Probe

/-- The name of the type. -/
def typeName : String := "probe"

/-- A new agent, started now. -/
def create (agentId : String) (failStart failClose : Bool) (now : Instant) : Probe :=
  { counters := { identity := ⟨agentId, typeName, now⟩, component := .processor }
    failStart, failClose }

/-- Answers, or refuses to. -/
def answer (agent : Probe) (refused : Bool) (message : String) : Reply Probe Unit :=
  if refused then .raise agent ⟨.processing, message⟩ else .ok agent ()

instance : Behaviour Environment Probe where
  agentId agent := agent.counters.identity.agentId
  agentType agent := agent.counters.identity.agentType
  status agent := [agent.counters.status .empty]
  capabilities _ := { processor := true }
  setContext _ agent := do
    Environment.note (.setContext agent.counters.identity.agentId)
    return agent
  start agent := do
    Environment.note (.start agent.counters.identity.agentId)
    return agent.answer agent.failStart "start refused"
  close agent := do
    Environment.note (.close agent.counters.identity.agentId)
    return agent.answer agent.failClose "close refused"
  process records agent := do
    let counters := agent.counters.count records.length records.length (← Environment.now)
    return .ok { agent with counters } (records.map Entry.passThrough)

instance : Configurable Environment Probe where
  init _ agent := return .ok agent ()

end Probe

end Conveyor.Testing
