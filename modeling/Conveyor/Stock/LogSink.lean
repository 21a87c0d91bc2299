import Conveyor.Environment

/-!
The sink that comes with the library (`LogEventSink`): it leaves an event in the log for every record.
-/

namespace Conveyor

/-- Logs every record it receives. -/
structure LogSink where
  counters : Counters
  level : LogLevel := .info
  deriving Repr

namespace LogSink

/-- The name of the type. -/
def typeName : String := "log-event"

/-- A new agent, which logs at the level `info`. -/
def ofIdentity (identity : Identity) : LogSink :=
  { counters := { identity, component := .sink } }

/-- The event of a record. -/
def event (agent : LogSink) (record : Handle) : LogEvent :=
  .recordReceived agent.level agent.counters.identity.agentId (record.record.key?.map Value.display)
    record.record.value.display

instance : Behaviour Environment LogSink where
  agentId agent := agent.counters.identity.agentId
  agentType agent := agent.counters.identity.agentType
  status agent := [agent.counters.status .empty]
  capabilities _ := { sink := true }
  write records agent := do
    records.forM fun record => Activity.log (agent.event record)
    let counters := agent.counters.count records.length 0 (← Environment.now)
    return .ok { agent with counters } ()

/-- The level that a setting names. -/
def levelOf (configuration : Configuration) : Except ConfigurationError LogLevel := do
  match ← configuration.optionalText "level" with
  | none | some "info" => return .info
  | some "debug" => return .debug
  | some "warn" => return .warn
  | some other =>
    throw (.invalidField "level" ("expected debug, info or warn, got '" ++ other ++ "'"))

instance : Configurable Environment LogSink where
  init configuration agent := return match levelOf configuration with
    | .ok level => .ok { agent with level } ()
    | .error error => .raise agent (.ofConfiguration error)

end LogSink

end Conveyor
