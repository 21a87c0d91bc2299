import Conveyor.Chain.Basic
import Conveyor.Chain.Reconcile

/-!
Processing a batch, by `process` and `run_stages`. The first processor gets the whole batch, and its
answers are lined up with it; if that call fails, every lineage fails. Each later processor is called
once for each lineage that has not failed, with the records of that lineage, and what it answers becomes
the records of the lineage, or its failure (`flatten`). A lineage that has failed stays as it is. So
every record of the batch keeps exactly one entry, and a failure reaches only the lineages of the call
that failed.
-/

namespace Conveyor

/-- The records of the answers to the records of one lineage, or the first failure among them. -/
def Outcome.flatten : List Entry → Outcome
  | [] => .records []
  | entry :: rest =>
    match entry.outcome with
    | .failed error => .failed error
    | .records produced =>
      match flatten rest with
      | .failed error => .failed error
      | .records others => .records (produced ++ others)

namespace Chain

variable {ω α : Type} [Behaviour ω α]

/-- Calls a processor; a fault becomes the failure of that agent. -/
def invoke (processor : α) (records : List Handle) :
    Activity ω (α × Except ProcessingError (List Entry)) := do
  let agentId := Behaviour.agentId processor
  let reply ← Behaviour.process records processor
  match reply.result with
  | .ok answers => pure (reply.agent, .ok answers)
  | .error fault => pure (reply.agent, .error (.ofAgent agentId fault.toAgentError))

/-- The first stage: one call for the whole batch. The flag tells whether the later stages follow. -/
def firstStage (processor : α) (records : List Handle) :
    Activity ω (α × List Entry × Bool) := do
  let agentId := Behaviour.agentId processor
  let (processor, result) ← invoke processor records
  match result with
  | .error error =>
    Activity.log (.stageFailedForBatch error.agentId error.message)
    pure (processor, records.map fun record => Entry.ofFailure record error, false)
  | .ok answers =>
    let reconciled := Reconciled.ofAnswers agentId records answers
    if reconciled.isMismatch then
      Activity.log (.resultsMismatched agentId reconciled.unanswered reconciled.stray)
    pure (processor, reconciled.entries, true)

/-- A later stage on the outcome of one lineage. -/
def advance (stage : Nat) (processor : α) : Outcome → Activity ω (α × Outcome)
  | .failed error => pure (processor, .failed error)
  | .records records => do
    let (processor, result) ← invoke processor records
    match result with
    | .ok answers => pure (processor, .flatten answers)
    | .error error =>
      Activity.log (.stageFailedForLineage error.agentId stage error.message)
      pure (processor, .failed error)

/-- A later stage on every lineage in turn. -/
def laterStage (stage : Nat) (processor : α) : List Entry → Activity ω (α × List Entry)
  | [] => pure (processor, [])
  | entry :: rest => do
    let (processor, outcome) ← advance stage processor entry.outcome
    let (processor, rest) ← laterStage stage processor rest
    pure (processor, ⟨entry.source, outcome⟩ :: rest)

/-- The later stages in order, the first of them at the given position of the chain. -/
def laterStages (stage : Nat) : List α → List Entry → Activity ω (List α × List Entry)
  | [], entries => pure ([], entries)
  | processor :: rest, entries => do
    let (processor, entries) ← laterStage stage processor entries
    let (rest, entries) ← laterStages (stage + 1) rest entries
    pure (processor :: rest, entries)

/-- All stages. Without processors every record stays as it is. -/
def runStages : List α → List Handle → Activity ω (List α × List Entry)
  | [], records => pure ([], records.map Entry.passThrough)
  | first :: rest, records => do
    let (first, entries, goesOn) ← firstStage first records
    if goesOn then
      let (rest, entries) ← laterStages 1 rest entries
      pure (first :: rest, entries)
    else pure (first :: rest, entries)

/-- Pushes a batch through the processors and counts it. -/
def process [Clock ω] (chain : Chain α) (records : List Handle) :
    Activity ω (Chain α × List Entry) := do
  let (processors, results) ← runStages chain.processors records
  let world ← Activity.look
  let metrics := chain.metrics.count records.length results (Clock.now world)
  Activity.log (.batchProcessed records.length (Entry.countRecords results)
    (Entry.countFailed results))
  pure ({ chain with processors, metrics }, results)

end Chain

end Conveyor
