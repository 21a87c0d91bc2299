import Conveyor.Environment
import Conveyor.Testing.Script

/-!
Agents that follow a script. A scripted agent can take every place of a chain, notes every call in
the journal before it does anything else, and counts the calls of each hook to find its place in the
script. Beside it stand two agents that add nothing to the defaults: a source that emits a pool of
records once, and an agent without any role.
-/

namespace Conveyor.Testing

/-- How often each hook was called. -/
structure HookCalls where
  start : Nat := 0
  close : Nat := 0
  process : Nat := 0
  read : Nat := 0
  commit : Nat := 0
  permanentFailure : Nat := 0
  write : Nat := 0
  deriving Repr

/-- Follows a script. -/
structure Scripted where
  counters : Counters
  pool : List Handle
  script : Script := {}
  calls : HookCalls := {}
  deriving Repr

namespace Scripted

/-- A new agent, which has no script yet, that counts in the role of a component. -/
def ofIdentity (component : Component) (pool : List Handle) (identity : Identity) : Scripted :=
  { counters := { identity, component }, pool }

/-- The id under which the agent notes its calls. -/
def agentId (agent : Scripted) : String :=
  agent.counters.identity.agentId

/-- The record of a description, made now if it is new. -/
def resolve (pool batch : List Handle) : RecordRef → Activity Environment (Option Handle)
  | .batch position => return batch[position]?
  | .pool position => return pool[position]?
  | .derive position ending =>
    match batch[position]? with
    | none => return none
    | some handle => do
      let payload := .string (handle.record.value.display ++ ending)
      return some (← Environment.allocate (handle.record.derive payload))
  | .fresh record => do return some (← Environment.allocate record)

/-- The records of descriptions, without those that lead nowhere. -/
def resolveAll (pool batch : List Handle) (refs : List RecordRef) :
    Activity Environment (List Handle) := do
  return (← refs.mapM (resolve pool batch)).filterMap id

/-- The entry of a scripted answer, unless its source leads nowhere. -/
def answer (pool batch : List Handle) (answer : ScriptedAnswer) :
    Activity Environment (Option Entry) := do
  match ← resolve pool batch answer.source with
  | none => return none
  | some source =>
    match answer.outcome with
    | .failed error => return some (.ofFailure source error)
    | .records refs => return some (.ofRecords source (← resolveAll pool batch refs))

/-- Does what an action says, and else answers. -/
def act {β : Type} (agent : Scripted) (action : Action)
    (answer : Activity Environment (Reply Scripted β)) : Activity Environment (Reply Scripted β) :=
  match action with
  | .proceed => answer
  | .fail error => return .raise agent error
  | .panic message? => return ⟨agent, .error (.panicked message?)⟩

/-- The action of a call, if the script still has one. -/
def actionAt (actions : List Action) (call : Nat) : Action :=
  actions[call]?.getD .proceed

instance : Behaviour Environment Scripted where
  agentId := agentId
  agentType agent := agent.counters.identity.agentType
  status agent :=
    match agent.script.statusEntries? with
    | none => [agent.counters.status .empty]
    | some count => (List.range count).map fun (entry : Nat) =>
      agent.counters.status (Table.empty.insert "entry" (.int entry))
  capabilities _ := { source := true, processor := true, sink := true }
  start agent := do
    Environment.note (.start agent.agentId)
    let action := actionAt agent.script.start agent.calls.start
    let agent := { agent with calls.start := agent.calls.start + 1 }
    agent.act action (return .ok agent ())
  close agent := do
    Environment.note (.close agent.agentId)
    let action := actionAt agent.script.close agent.calls.close
    let agent := { agent with calls.close := agent.calls.close + 1 }
    agent.act action (return .ok agent ())
  process records agent := do
    Environment.note (.process agent.agentId records)
    let call := agent.script.process[agent.calls.process]?.getD {}
    let agent := { agent with calls.process := agent.calls.process + 1 }
    agent.act call.action do
      let entries ← match call.answers? with
        | none => pure (records.map Entry.passThrough)
        | some answers => do
          pure ((← answers.mapM (answer agent.pool records)).filterMap id)
      let counters := agent.counters.count records.length entries.length (← Environment.now)
      return .ok { agent with counters } entries
  read agent := do
    Environment.note (.read agent.agentId)
    let call := agent.script.read[agent.calls.read]?.getD {}
    let agent := { agent with calls.read := agent.calls.read + 1 }
    agent.act call.action do
      let batch ← resolveAll agent.pool agent.pool call.batch
      let counters := agent.counters.count 0 batch.length (← Environment.now)
      return .ok { agent with counters } batch
  commit records agent := do
    Environment.note (.commit agent.agentId records)
    let action := actionAt agent.script.commit agent.calls.commit
    let agent := { agent with calls.commit := agent.calls.commit + 1 }
    agent.act action (return .ok agent ())
  permanentFailure record error agent := do
    Environment.note (.permanentFailure agent.agentId record error)
    let action := actionAt agent.script.permanentFailure agent.calls.permanentFailure
    let agent := { agent with calls.permanentFailure := agent.calls.permanentFailure + 1 }
    agent.act action (return .ok agent ())
  write records agent := do
    Environment.note (.write agent.agentId records)
    let action := actionAt agent.script.write agent.calls.write
    let agent := { agent with calls.write := agent.calls.write + 1 }
    agent.act action do
      let counters := agent.counters.count records.length 0 (← Environment.now)
      return .ok { agent with counters } ()

instance : Configurable Environment Scripted where
  init configuration agent :=
    let agent := { agent with script := .ofConfiguration configuration }
    agent.act agent.script.init (return .ok agent ())

end Scripted

/-- A source with nothing but defaults, which emits a pool of records once. -/
structure Bare where
  identity : Identity
  pool : List Handle
  emitted : Bool := false
  deriving Repr

namespace Bare

/-- A new agent. -/
def ofIdentity (pool : List Handle) (identity : Identity) : Bare :=
  { identity, pool }

instance : Behaviour Environment Bare where
  agentId agent := agent.identity.agentId
  agentType agent := agent.identity.agentType
  status _ := []
  capabilities _ := { source := true }
  read agent :=
    return .ok { agent with emitted := true } (if agent.emitted then [] else agent.pool)

instance : Configurable Environment Bare where
  init _ agent := return .ok agent ()

end Bare

/-- An agent without any role. -/
structure Inert where
  identity : Identity
  deriving Repr

namespace Inert

instance : Behaviour Environment Inert where
  agentId agent := agent.identity.agentId
  agentType agent := agent.identity.agentType
  status _ := []

instance : Configurable Environment Inert where
  init _ agent := return .ok agent ()

end Inert

end Conveyor.Testing
