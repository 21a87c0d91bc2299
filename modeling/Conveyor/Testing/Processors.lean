import Conveyor.Environment

/-!
Processors for tests of chains: one that counts its calls (`EchoProcessor`), one that doubles every
record (`DuplicateProcessor`), one that fails by a policy (`FailingProcessor`), one that is torn down by
every call (`PanickingProcessor`), and one that does not answer for every record (`PartialProcessor`).
-/

namespace Conveyor.Testing

/-- Passes every record on and counts the calls. -/
structure Echo where
  counters : Counters
  calls : Nat := 0
  deriving Repr

namespace Echo

/-- The name of the type. -/
def typeName : String := "echo"

/-- A new agent. -/
def ofIdentity (identity : Identity) : Echo :=
  { counters := { identity, component := .processor } }

/-- A new agent, started now. -/
def create (agentId : String) (now : Instant) : Echo :=
  ofIdentity ⟨agentId, typeName, now⟩

instance : Behaviour Environment Echo where
  agentId agent := agent.counters.identity.agentId
  agentType agent := agent.counters.identity.agentType
  status agent := [agent.counters.status (Table.empty.insert "calls" (.int agent.calls))]
  capabilities _ := { processor := true }
  process records agent := do
    let counters := agent.counters.count records.length records.length (← Environment.now)
    return .ok { counters, calls := agent.calls + 1 } (records.map Entry.passThrough)

instance : Configurable Environment Echo where
  init _ agent := return .ok agent ()

end Echo

/-- Makes two records of each, with `a` and `b` at the end of the payload's text. -/
structure Duplicate where
  counters : Counters
  deriving Repr

namespace Duplicate

/-- The name of the type. -/
def typeName : String := "duplicate"

/-- A new agent. -/
def ofIdentity (identity : Identity) : Duplicate :=
  ⟨{ identity, component := .processor }⟩

/-- A new agent, started now. -/
def create (agentId : String) (now : Instant) : Duplicate :=
  ofIdentity ⟨agentId, typeName, now⟩

/-- The record with more text at the end of its payload. -/
def extend (record : Record) (ending : String) : Record :=
  record.derive (.string (record.value.display ++ ending))

/-- The lineage of a record. -/
def answer (record : Handle) : Activity Environment Entry := do
  let first ← Environment.allocate (extend record.record "a")
  let second ← Environment.allocate (extend record.record "b")
  return .ofRecords record [first, second]

instance : Behaviour Environment Duplicate where
  agentId agent := agent.counters.identity.agentId
  agentType agent := agent.counters.identity.agentType
  status agent := [agent.counters.status .empty]
  capabilities _ := { processor := true }
  process records agent := do
    let counters := agent.counters.count records.length (records.length * 2) (← Environment.now)
    return .ok { agent with counters } (← records.mapM answer)

instance : Configurable Environment Duplicate where
  init _ agent := return .ok agent ()

end Duplicate

/-- When a failing processor fails. -/
inductive FailurePolicy where
  /-- Every call fails. -/
  | always
  /-- A call fails if one of its records has this payload. -/
  | onValue (value : Value)
  /-- The first so many calls fail. -/
  | firstCalls (count : Nat)
  /-- No call fails, but the lineage of every record with this payload does. -/
  | reportOnValue (value : Value)
  deriving Repr

/-- Fails by a policy, and passes on what it does not fail. -/
structure Failing where
  counters : Counters
  policy : FailurePolicy
  message : String
  calls : Nat := 0
  deriving Repr

namespace Failing

/-- The name of the type. -/
def typeName : String := "failing"

/-- A new agent, started now. -/
def create (agentId : String) (policy : FailurePolicy) (message : String) (now : Instant) : Failing :=
  { counters := { identity := ⟨agentId, typeName, now⟩, component := .processor }, policy, message }

/-- Whether a call fails; the call itself is counted already. -/
def failsCall (agent : Failing) (records : List Handle) : Bool :=
  match agent.policy with
  | .always => true
  | .onValue value => records.any fun record => record.record.value.same value
  | .firstCalls count => agent.calls ≤ count
  | .reportOnValue _ => false

/-- The lineage of a record in a call that does not fail. -/
def answer (agent : Failing) (record : Handle) : Entry :=
  match agent.policy with
  | .reportOnValue value =>
    if record.record.value.same value then
      .ofFailure record ⟨agent.counters.identity.agentId, .processing, agent.message⟩
    else .passThrough record
  | _ => .passThrough record

instance : Behaviour Environment Failing where
  agentId agent := agent.counters.identity.agentId
  agentType agent := agent.counters.identity.agentType
  status agent := [agent.counters.status .empty]
  capabilities _ := { processor := true }
  process records agent := do
    let agent := { agent with calls := agent.calls + 1 }
    if agent.failsCall records then return .raise agent ⟨.processing, agent.message⟩
    else
      let counters := agent.counters.count records.length records.length (← Environment.now)
      return .ok { agent with counters } (records.map agent.answer)

/-- Takes the message from the settings, and then the payload to fail on. A message is taken even if
the payload turns out to be no text. -/
def configure (configuration : Configuration) (agent : Failing) :
    Failing × Except ConfigurationError Unit :=
  match configuration.optionalText "message" with
  | .error error => (agent, .error error)
  | .ok message? =>
    let agent := { agent with message := message?.getD agent.message }
    match configuration.optionalText "onValue" with
    | .error error => (agent, .error error)
    | .ok none => (agent, .ok ())
    | .ok (some value) => ({ agent with policy := .onValue (.string value) }, .ok ())

instance : Configurable Environment Failing where
  init configuration agent := return match configure configuration agent with
    | (agent, .ok ()) => .ok agent ()
    | (agent, .error error) => .raise agent (.ofConfiguration error)

end Failing

/-- Is torn down by every call. -/
structure Panicking where
  counters : Counters
  deriving Repr

namespace Panicking

/-- The name of the type. -/
def typeName : String := "panicking"

/-- A new agent, started now. -/
def create (agentId : String) (now : Instant) : Panicking :=
  ⟨{ identity := ⟨agentId, typeName, now⟩, component := .processor }⟩

instance : Behaviour Environment Panicking where
  agentId agent := agent.counters.identity.agentId
  agentType agent := agent.counters.identity.agentType
  status agent := [agent.counters.status .empty]
  capabilities _ := { processor := true }
  process records agent :=
    return ⟨agent, .error (.panicked (some (agent.counters.identity.agentId ++ " cannot handle " ++
      toString records.length ++ " record(s)")))⟩

instance : Configurable Environment Panicking where
  init _ agent := return .ok agent ()

end Panicking

/-- Answers only for the first records of each batch, and may answer for a record that was never in
it. -/
structure Partial where
  counters : Counters
  /-- How many records of a batch are answered. -/
  answered : Nat
  /-- A record that is answered with every batch. -/
  stray? : Option Handle := none
  deriving Repr

namespace Partial

/-- The name of the type. -/
def typeName : String := "partial"

/-- A new agent, started now. -/
def create (agentId : String) (answered : Nat) (stray? : Option Handle) (now : Instant) : Partial :=
  { counters := { identity := ⟨agentId, typeName, now⟩, component := .processor }, answered, stray? }

instance : Behaviour Environment Partial where
  agentId agent := agent.counters.identity.agentId
  agentType agent := agent.counters.identity.agentType
  status agent := [agent.counters.status .empty]
  capabilities _ := { processor := true }
  process records agent := do
    let answers := (records.take agent.answered ++ agent.stray?.toList).map Entry.passThrough
    let counters := agent.counters.count records.length answers.length (← Environment.now)
    return .ok { agent with counters } answers

instance : Configurable Environment Partial where
  init _ agent := return .ok agent ()

end Partial

end Conveyor.Testing
