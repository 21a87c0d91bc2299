import Conveyor.Chain.Process

/-!
One cycle of a chain with both ends, `run_once`: read a batch (`read_source`), process it, write the
records of the completed lineages (`write_sink`), report every failed lineage to the source
(`permanent_failure`), and commit the batch. The cycle stops at the first call of an end that fails, so
a batch is committed only after everything before succeeded.
-/

namespace Conveyor

/-- What one cycle did. -/
structure CycleSummary where
  read : Nat := 0
  written : Nat := 0
  failed : Nat := 0
  deriving DecidableEq, Repr

namespace Chain

variable {ω α : Type} [Behaviour ω α]

/-- The error of a chain that lacks one of its ends. -/
def missingEnd (which : String) : FlowError :=
  .configuration { message := "chain has no " ++ which }

/-- The failure that callers see when a call of an agent fails. -/
def processingFault (agentId : String) (fault : Fault AgentError) : FlowError :=
  .processing (.ofAgent agentId fault.toAgentError)

/-- Reads a batch from the source. -/
def readSource (chain : Chain α) : Activity ω (Chain α × Except FlowError (List Handle)) :=
  match chain.source? with
  | none => pure (chain, .error (missingEnd "source"))
  | some source => do
    let reply ← Behaviour.read source
    let chain := { chain with source? := some reply.agent }
    match reply.result with
    | .ok batch => pure (chain, .ok batch)
    | .error fault => pure (chain, .error (processingFault (Behaviour.agentId source) fault))

/-- Writes records to the sink. -/
def writeSink (chain : Chain α) (records : List Handle) :
    Activity ω (Chain α × Except FlowError Unit) :=
  match chain.sink? with
  | none => pure (chain, .error (missingEnd "sink"))
  | some sink => do
    let reply ← Behaviour.write records sink
    let chain := { chain with sink? := some reply.agent }
    match reply.result with
    | .ok () => pure (chain, .ok ())
    | .error fault => pure (chain, .error (processingFault (Behaviour.agentId sink) fault))

/-- Reports failed lineages to a source in order, up to the first report that fails. -/
def reportFailures (source : α) :
    List (Handle × ProcessingError) → Activity ω (α × Option (Fault AgentError))
  | [] => pure (source, none)
  | (record, error) :: rest => do
    let reply ← Behaviour.permanentFailure record ⟨error.kind, error.display⟩ source
    match reply.result with
    | .ok () => reportFailures reply.agent rest
    | .error fault => pure (reply.agent, some fault)

/-- The records of the completed lineages, in order. -/
def completedRecords (results : List Entry) : List Handle :=
  results.flatMap fun entry => entry.produced?.getD []

/-- The sources of the failed lineages with their failures, in order. -/
def failedSources (results : List Entry) : List (Handle × ProcessingError) :=
  results.filterMap fun entry => entry.error?.map fun error => (entry.source, error)

/-- Writes the records of a batch, unless there are none. -/
def writeCompleted (chain : Chain α) (records : List Handle) :
    Activity ω (Chain α × Except FlowError Unit) :=
  if records.isEmpty then pure (chain, .ok ()) else chain.writeSink records

/-- Reports the failed lineages of a batch to the source and commits the batch. -/
def settle (chain : Chain α) (batch : List Handle) (failed : List (Handle × ProcessingError)) :
    Activity ω (Chain α × Except FlowError Unit) :=
  match chain.source? with
  | none => pure (chain, .error (missingEnd "source"))
  | some source => do
    let agentId := Behaviour.agentId source
    let (source, fault?) ← reportFailures source failed
    match fault? with
    | some fault =>
      pure ({ chain with source? := some source }, .error (processingFault agentId fault))
    | none =>
      let reply ← Behaviour.commit batch source
      let chain := { chain with source? := some reply.agent }
      match reply.result with
      | .ok () => pure (chain, .ok ())
      | .error fault => pure (chain, .error (processingFault agentId fault))

/-- Processes a batch that was read, and brings it to its end. -/
def finishCycle [Clock ω] (chain : Chain α) (batch : List Handle) :
    Activity ω (Chain α × Except FlowError CycleSummary) := do
  let (chain, results) ← chain.process batch
  let completed := completedRecords results
  let failed := failedSources results
  let (chain, written) ← chain.writeCompleted completed
  match written with
  | .error error => pure (chain, .error error)
  | .ok () =>
    let (chain, settled) ← chain.settle batch failed
    match settled with
    | .error error => pure (chain, .error error)
    | .ok () =>
      Activity.log (.cycleCompleted batch.length completed.length failed.length)
      pure (chain, .ok ⟨batch.length, completed.length, failed.length⟩)

/-- Runs one cycle. An empty batch ends it at once. -/
def runOnce [Clock ω] (chain : Chain α) :
    Activity ω (Chain α × Except FlowError CycleSummary) :=
  if chain.sink?.isNone then pure (chain, .error (missingEnd "sink"))
  else do
    let (chain, result) ← chain.readSource
    match result with
    | .error error => pure (chain, .error error)
    | .ok [] => pure (chain, .ok {})
    | .ok batch => chain.finishCycle batch

end Chain

end Conveyor
