import Conveyor.Environment

/-!
The processors that come with the library: one that passes every record on (`IdentityProcessor`), one
that drops every record (`DropProcessor`), and one that puts a header on every record
(`SetHeaderProcessor`).
-/

namespace Conveyor

/-- Passes every record on as it is. -/
structure PassThrough where
  counters : Counters
  deriving Repr

namespace PassThrough

/-- The name of the type. -/
def typeName : String := "identity"

/-- A new agent. -/
def ofIdentity (identity : Identity) : PassThrough :=
  ⟨{ identity, component := .processor }⟩

instance : Behaviour Environment PassThrough where
  agentId agent := agent.counters.identity.agentId
  agentType agent := agent.counters.identity.agentType
  status agent := [agent.counters.status .empty]
  capabilities _ := { processor := true }
  process records agent := do
    let counters := agent.counters.count records.length records.length (← Environment.now)
    return .ok { agent with counters } (records.map Entry.passThrough)

instance : Configurable Environment PassThrough where
  init _ agent := return .ok agent ()

end PassThrough

/-- Drops every record. -/
structure Discard where
  counters : Counters
  deriving Repr

namespace Discard

/-- The name of the type. -/
def typeName : String := "drop"

/-- A new agent. -/
def ofIdentity (identity : Identity) : Discard :=
  ⟨{ identity, component := .processor }⟩

instance : Behaviour Environment Discard where
  agentId agent := agent.counters.identity.agentId
  agentType agent := agent.counters.identity.agentType
  status agent := [agent.counters.status .empty]
  capabilities _ := { processor := true }
  process records agent := do
    let counters := agent.counters.count records.length 0 (← Environment.now)
    return .ok { agent with counters } (records.map fun record => Entry.ofRecords record [])

instance : Configurable Environment Discard where
  init _ agent := return .ok agent ()

end Discard

/-- Appends a header to every record. -/
structure SetHeader where
  counters : Counters
  name : String := ""
  value : Value := .null
  deriving Repr

namespace SetHeader

/-- The name of the type. -/
def typeName : String := "set-header"

/-- A new agent, which has no header yet. -/
def ofIdentity (identity : Identity) : SetHeader :=
  { counters := { identity, component := .processor } }

/-- The lineage of a record with the header put on it. -/
def answer (agent : SetHeader) (record : Handle) : Activity Environment Entry := do
  let updated ← Environment.allocate (record.record.withHeader agent.name agent.value)
  return .ofRecords record [updated]

instance : Behaviour Environment SetHeader where
  agentId agent := agent.counters.identity.agentId
  agentType agent := agent.counters.identity.agentType
  status agent := [agent.counters.status (Table.empty.insert "header" (.string agent.name))]
  capabilities _ := { processor := true }
  process records agent := do
    let counters := agent.counters.count records.length records.length (← Environment.now)
    return .ok { agent with counters } (← records.mapM agent.answer)

/-- Takes the name from the settings, and then the value. The name must not be empty and is taken
even if the value turns out to be missing. -/
def configure (configuration : Configuration) (agent : SetHeader) :
    SetHeader × Except ConfigurationError Unit :=
  match configuration.requiredText "name" with
  | .error error => (agent, .error error)
  | .ok name =>
    let agent := { agent with name }
    if name.isEmpty then (agent, .error (.invalidField "name" "must not be empty"))
    else
      match configuration.present? "value" with
      | none => (agent, .error (.missingField "value"))
      | some value => ({ agent with value := .ofJson value }, .ok ())

instance : Configurable Environment SetHeader where
  init configuration agent := return match configure configuration agent with
    | (agent, .ok ()) => .ok agent ()
    | (agent, .error error) => .raise agent (.ofConfiguration error)

end SetHeader

end Conveyor
