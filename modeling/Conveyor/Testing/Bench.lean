import Conveyor.Stock.Catalog

/-!
A bench on which chains and agents are tried out. It keeps one world from step to step, the
registries that were opened in it and a pool of records, and it collects what a step leaves behind:
the calls that agents noted, the events in the log, and the records that came to light. Records are
shown by numbers, given in the order in which the bench first sees them, so that what a test observes
does not depend on how many records the agents made in between.
-/

namespace Conveyor.Testing

/-- A bench. -/
structure Bench where
  world : Environment
  /-- When the agents that registries construct were started. -/
  startedAt : Instant
  registries : Registries StockAgent := {}
  pool : List Handle := []
  /-- The handles seen so far; a handle's number is its place among them. -/
  seen : List Handle := []
  /-- How many of the handles were reported. -/
  reported : Nat := 0
  /-- How many of the noted calls were reported. -/
  reportedCalls : Nat := 0
  /-- The events in the log that were not reported. -/
  log : List LogEvent := []

/-- Work on a bench. -/
abbrev OnBench (β : Type) := StateM Bench β

namespace Bench

/-- A bench on which the clock shows another time than the one at which agents are started. -/
def ofStart (startedAt : Instant) : Bench where
  world := { clock := { startedAt with seconds := startedAt.seconds + 1 } }
  startedAt

/-- Performs an activity in the world of the bench. -/
def perform {β : Type} (activity : Activity Environment β) : OnBench β := fun bench =>
  let done := activity.run bench.world
  (done.value, { bench with world := done.world, log := bench.log ++ done.log })

/-- Performs an activity that may be given up. -/
def attempt {β : Type} (activity : Attempt Environment β) :
    OnBench (Except (Fault FlowError) β) :=
  perform activity.run

/-- Shares records as the pool of the bench. -/
def prepare (records : List Record) : OnBench Unit := do
  let pool ← perform (records.mapM Environment.allocate)
  modify fun bench => { bench with pool, seen := pool, reported := pool.length }

/-- Opens a registry with some constructors. -/
def openRegistry (constructors : List (String × Constructor StockAgent)) : OnBench RegistryKey :=
  fun bench =>
    let (registries, key) := bench.registries.create
    (key, { bench with registries := registries.registerAll key constructors })

/-- Registers more constructors. -/
def extendRegistry (key : RegistryKey) (constructors : List (String × Constructor StockAgent)) :
    OnBench Unit :=
  modify fun bench =>
    { bench with registries := bench.registries.registerAll key constructors }

/-- Constructs an agent for a place in a chain, or for no place in particular. -/
def construct (key : RegistryKey) (component? : Option Component) (definition : AgentDefinition) :
    OnBench (Except (Fault FlowError) (Agent StockAgent)) := do
  let bench ← get
  attempt (match component? with
    | some component =>
      Agent.constructAs bench.registries key bench.startedAt component definition
    | none => Agent.construct bench.registries key bench.startedAt definition)

/-- Constructs the chain of a layout. -/
def constructChain (key : RegistryKey) (layout : ChainLayout) :
    OnBench (Except (Fault FlowError) (Chain (Agent StockAgent))) := do
  let bench ← get
  attempt (Chain.ofLayout bench.registries key layout bench.startedAt)

/-- Gives an agent a configuration. -/
def configure (configuration : Configuration) (agent : Agent StockAgent) :
    OnBench (Reply (Agent StockAgent) Unit) := do
  perform (Agent.init (← get).registries configuration agent)

/-- The number of a handle, which gets the next one if it was not seen before. -/
def numberOf (handle : Handle) : OnBench Nat := fun bench =>
  match bench.seen.idxOf? handle with
  | some number => (number, bench)
  | none => (bench.seen.length, { bench with seen := bench.seen ++ [handle] })

/-- The text of a noted call. Its records are seen now, if they were not before. -/
def textOf (event : JournalEvent) : OnBench String := do
  let numbers ← event.handles.mapM numberOf
  let table := event.handles.zip numbers
  return event.text fun handle => (table.lookup handle).getD 0

/-- The calls noted since they were last asked for. -/
def takeCalls : OnBench (List String) := do
  let bench ← get
  let texts ← (bench.world.journal.drop bench.reportedCalls).mapM textOf
  modify fun bench => { bench with reportedCalls := bench.world.journal.length }
  return texts

/-- The events logged since they were last asked for. -/
def takeLog : OnBench (List LogEvent) := fun bench =>
  (bench.log, { bench with log := [] })

/-- The records first seen since they were last asked for, with their numbers. -/
def takeNew : OnBench (List (Nat × Record)) := fun bench =>
  let records := (bench.seen.drop bench.reported).zipIdx bench.reported
  (records.map fun (handle, number) => (number, handle.record),
    { bench with reported := bench.seen.length })

end Bench

end Conveyor.Testing
