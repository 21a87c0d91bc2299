import Conveyor.Agent.Behaviour

/-!
Chains (`PipelineChain`): an optional source, processors in order and an optional sink, together with
the counts (`ChainMetrics`) of what the chain has processed. `build` assembles a chain from agents of
pairwise different ids. The counts are natural numbers and do not wrap around.
-/

namespace Conveyor

/-- What a chain has processed so far. -/
structure ChainMetrics where
  /-- How often a batch was processed. -/
  calls : Nat := 0
  /-- The records that were given to the chain. -/
  recordsIn : Nat := 0
  /-- The records that its completed lineages have produced. -/
  recordsOut : Nat := 0
  /-- The lineages that ended in a failure. -/
  failedLineages : Nat := 0
  lastProcessedAt? : Option Instant := none
  deriving DecidableEq, Repr

namespace ChainMetrics

/-- Counts one batch with what became of its lineages. -/
def count (metrics : ChainMetrics) (recordsIn : Nat) (results : List Entry) (now : Instant) :
    ChainMetrics where
  calls := metrics.calls + 1
  recordsIn := metrics.recordsIn + recordsIn
  recordsOut := metrics.recordsOut + Entry.countRecords results
  failedLineages := metrics.failedLineages + Entry.countFailed results
  lastProcessedAt? := some now

instance : ToDocument ChainMetrics := ⟨fun metrics =>
  .ofFields [
    ("calls", some (.int metrics.calls)),
    ("failed_lineages", some (.int metrics.failedLineages)),
    ("last_processed_at", metrics.lastProcessedAt?.map toDocument),
    ("records_in", some (.int metrics.recordsIn)),
    ("records_out", some (.int metrics.recordsOut))]⟩

/-- Reads counts from the fields of an object. -/
def ofObject (entries : List (String × Json)) : Decoding.Result ChainMetrics := do
  let calls ← Decoding.field? entries "calls" Decoding.nat64
  let failed ← Decoding.field? entries "failed_lineages" Decoding.nat64
  let last? ← Decoding.field? entries "last_processed_at" (Decoding.optional ofDocument)
  let recordsIn ← Decoding.field? entries "records_in" Decoding.nat64
  let recordsOut ← Decoding.field? entries "records_out" Decoding.nat64
  return {
    calls := ← Decoding.require "calls" calls
    recordsIn := ← Decoding.require "records_in" recordsIn
    recordsOut := ← Decoding.require "records_out" recordsOut
    failedLineages := ← Decoding.require "failed_lineages" failed
    lastProcessedAt? := last?.join }

/-- Reads counts from the array of their fields. -/
def ofArray (items : List Json) : Decoding.Result ChainMetrics := do
  let shape := "struct ChainMetrics with 5 elements"
  let calls ← Decoding.item items 0 shape Decoding.nat64
  let recordsIn ← Decoding.item items 1 shape Decoding.nat64
  let recordsOut ← Decoding.item items 2 shape Decoding.nat64
  let failedLineages ← Decoding.item items 3 shape Decoding.nat64
  let lastProcessedAt? ← Decoding.item items 4 shape (Decoding.optional ofDocument)
  Decoding.noMoreThan 5 items
  return { calls, recordsIn, recordsOut, failedLineages, lastProcessedAt? }

instance : OfDocument ChainMetrics := ⟨Decoding.shaped "ChainMetrics" ofObject ofArray⟩

end ChainMetrics

/-- An ordered chain of agents. -/
structure Chain (α : Type) where
  source? : Option α := none
  processors : List α := []
  sink? : Option α := none
  metrics : ChainMetrics := {}

namespace Chain

variable {ω α : Type}

/-- The agents of a chain in order: the source, the processors, the sink. -/
def members (chain : Chain α) : List α :=
  chain.source?.toList ++ chain.processors ++ chain.sink?.toList

/-- The chain with its agents replaced, in order, by as many others. -/
def withMembers (chain : Chain α) (agents : List α) : Chain α :=
  let sources := chain.source?.toList.length
  let processors := chain.processors.length
  { chain with
    source? := (agents.take sources).head?
    processors := (agents.drop sources).take processors
    sink? := (agents.drop (sources + processors)).head? }

/-- A list of at most one item is what its first item makes of it. -/
theorem toList_head? {items : List α} (short : items.length ≤ 1) : items.head?.toList = items := by
  match items, short with
  | [], _ => rfl
  | [_], _ => rfl

/-- The agents of a chain are the ones it was given. -/
theorem members_withMembers (chain : Chain α) (agents : List α)
    (count : agents.length = chain.members.length) : (chain.withMembers agents).members = agents := by
  have source : chain.source?.toList.length ≤ 1 := by cases chain.source? <;> simp
  have sink : chain.sink?.toList.length ≤ 1 := by cases chain.sink? <;> simp
  simp only [members, List.length_append] at count
  have front : (agents.take chain.source?.toList.length).length ≤ 1 :=
    Nat.le_trans (List.length_take_le _ agents) source
  have back : (agents.drop (chain.source?.toList.length + chain.processors.length)).length ≤ 1 := by
    rw [List.length_drop]
    omega
  simp only [members, withMembers]
  rw [toList_head? front, toList_head? back, List.append_assoc, ← List.drop_drop,
    List.take_append_drop, List.take_append_drop]

/-- The first text of a list that occurs before in it. -/
def firstRepeated (seen : List String) : List String → Option String
  | [] => none
  | text :: rest => if seen.contains text then some text else firstRepeated (text :: seen) rest

/-- The error of two agents of one id in a chain. -/
def duplicateId (agentId : String) : ConfigurationError :=
  { message := "duplicate agent id '" ++ agentId ++ "' in chain", agentId? := some agentId }

/-- The chain of some agents, provided that their ids differ. -/
def assemble [Behaviour ω α] (source? : Option α) (processors : List α) (sink? : Option α) :
    Except FlowError (Chain α) :=
  let chain : Chain α := { source?, processors, sink? }
  match firstRepeated [] (chain.members.map Behaviour.agentId) with
  | some agentId => .error (.configuration (duplicateId agentId))
  | none => .ok chain

/-- The reports of all agents, in order. -/
def status [Behaviour ω α] (chain : Chain α) : List AgentStatus :=
  chain.members.flatMap Behaviour.status

/-- The reports of all agents at a moment. -/
def snapshot [Behaviour ω α] (chain : Chain α) (now : Instant) : StatusSnapshot :=
  ⟨now, chain.status⟩

end Chain

end Conveyor
