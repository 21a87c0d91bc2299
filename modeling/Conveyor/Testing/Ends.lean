import Conveyor.Environment

/-!
The ends of chains under test: a source that replays batches and keeps a ledger of what it was told
about its records (`StaticSource`), and a sink that keeps the records written to it (`RecordingSink`).
-/

namespace Conveyor.Testing

/-- Keeps every record written to it. -/
structure RecordingSink where
  counters : Counters
  written : List Handle := []
  /-- Whether every write fails. -/
  failWrites : Bool := false
  deriving Repr

namespace RecordingSink

/-- The name of the type. -/
def typeName : String := "recording-sink"

/-- A new agent. -/
def ofIdentity (identity : Identity) : RecordingSink :=
  { counters := { identity, component := .sink } }

/-- A new agent, started now. -/
def create (agentId : String) (failWrites : Bool) (now : Instant) : RecordingSink :=
  { ofIdentity ⟨agentId, typeName, now⟩ with failWrites }

instance : Behaviour Environment RecordingSink where
  agentId agent := agent.counters.identity.agentId
  agentType agent := agent.counters.identity.agentType
  status agent := [agent.counters.status .empty]
  capabilities _ := { sink := true }
  write records agent := do
    if agent.failWrites then return .raise agent ⟨.processing, "sink unavailable"⟩
    else
      let counters := agent.counters.count records.length 0 (← Environment.now)
      return .ok { agent with counters, written := agent.written ++ records } ()

instance : Configurable Environment RecordingSink where
  init _ agent := return .ok agent ()

end RecordingSink

/-- What a source was told about its records. -/
structure SourceLedger where
  /-- The records that are through, in the order of the commits. -/
  committed : List Handle := []
  /-- The records that failed for good, each with the message. -/
  failed : List (Handle × String) := []
  deriving Repr

/-- Replays batches, and then emits empty ones. -/
structure StaticSource where
  counters : Counters
  batches : List (List Handle)
  ledger : SourceLedger := {}
  /-- Whether permanent failures are accepted. -/
  deadLetter : Bool := false
  deriving Repr

namespace StaticSource

/-- The name of the type. -/
def typeName : String := "static-source"

/-- A new agent. -/
def ofIdentity (identity : Identity) (batches : List (List Handle)) : StaticSource :=
  { counters := { identity, component := .source }, batches }

/-- A new agent, started now. -/
def create (agentId : String) (batches : List (List Handle)) (deadLetter : Bool) (now : Instant) :
    StaticSource :=
  { ofIdentity ⟨agentId, typeName, now⟩ batches with deadLetter }

instance : Behaviour Environment StaticSource where
  agentId agent := agent.counters.identity.agentId
  agentType agent := agent.counters.identity.agentType
  status agent := [agent.counters.status .empty]
  capabilities _ := { source := true }
  read agent := do
    let batch := agent.batches.headD []
    let counters := agent.counters.count 0 batch.length (← Environment.now)
    return .ok { agent with counters, batches := agent.batches.tail } batch
  commit records agent :=
    let ledger := { agent.ledger with committed := agent.ledger.committed ++ records }
    return .ok { agent with ledger } ()
  permanentFailure record error agent :=
    if agent.deadLetter then
      let ledger :=
        { agent.ledger with failed := agent.ledger.failed ++ [(record, error.message)] }
      return .ok { agent with ledger } ()
    else return .raise agent error

/-- The payloads that the settings list. -/
def valuesOf (configuration : Configuration) : Option (List Json) :=
  match configuration.get? "values" with
  | some (.array values) => some values
  | _ => none

/-- Adds a batch of the payloads that the settings list, if they list any. -/
instance : Configurable Environment StaticSource where
  init configuration agent := do
    match valuesOf configuration with
    | none => return .ok agent ()
    | some values =>
      let batch ← values.mapM fun value => Environment.allocate { value := .ofJson value }
      return .ok { agent with batches := agent.batches ++ [batch] } ()

end StaticSource

end Conveyor.Testing
