import Conveyor.Chain.Cycle
import Conveyor.Chain.Lifecycle
import Conveyor.Proofs.Provenance
import Mathlib.Algebra.GroupWithZero.Nat

/-! What a chain counts (`ChainMetrics`). Of all that can be done with a chain only two things process a
batch: a call for just that, and a cycle that has a sink and reads records. The counts of a chain add up
these batches and what became of their lineages. Nothing else changes them, and neither does a call of an
end that fails after a batch was processed. -/
namespace Conveyor

variable {ω α : Type}

/-- What the holder of a chain can do with it. -/
inductive Operation where
  | process (records : List Handle)
  | runOnce
  | readSource
  | writeSink (records : List Handle)
  | start
  | close
  | status

/-- An operation, with the chain and the world in which it begins. -/
structure Moment (ω α : Type) where
  operation : Operation
  chain : Chain α
  world : ω

/-- A batch that was processed, with the lineages that came of it and the time at the end. -/
structure Passage where
  batch : List Handle
  lineages : List Entry
  endedAt : Instant

/-- Counts a batch that was processed. -/
def ChainMetrics.add (metrics : ChainMetrics) (passage : Passage) : ChainMetrics :=
  metrics.count passage.batch.length passage.lineages passage.endedAt

namespace Moment

variable [Behaviour ω α]

/-- Whether the operation is a call to process a batch. -/
def isDirect (moment : Moment ω α) : Bool :=
  moment.operation matches .process _

/-- What the source answers to a cycle of a chain with a sink, and the chain and the world then. -/
def reading? (moment : Moment ω α) :
    Option (Except (Fault AgentError) (List Handle) × Chain α × ω) :=
  match moment.operation, moment.chain.sink?, moment.chain.source? with
  | .runOnce, some _, some source =>
    let (reply, after) := (Behaviour.read source).effect moment.world
    some (reply.result, { moment.chain with source? := some reply.agent }, after)
  | _, _, _ => none

/-- Whether the operation is a cycle of a chain with a sink that reads a batch with records. -/
def isFilledCycle (moment : Moment ω α) : Bool :=
  moment.reading? matches some (.ok (_ :: _), _)

/-- The batch that the operation processes, if any, and the chain and the world when that begins. -/
def fed? (moment : Moment ω α) : Option (List Handle × Chain α × ω) :=
  match moment.operation with
  | .process records => some (records, moment.chain, moment.world)
  | _ =>
    match moment.reading? with
    | some (.ok (record :: rest), chain, after) => some (record :: rest, chain, after)
    | _ => none

/-- The batch that the operation processes, with what becomes of it. -/
def passage? [Clock ω] (moment : Moment ω α) : Option Passage :=
  moment.fed?.map fun (batch, chain, world) =>
    let ((_, lineages), after) := (chain.process batch).effect world
    ⟨batch, lineages, Clock.now after⟩

/-- A batch is processed by a call to do so and by a cycle that reads one, and not otherwise. -/
theorem isSome_passage? [Clock ω] (moment : Moment ω α) :
    moment.passage?.isSome.toNat = moment.isDirect.toNat + moment.isFilledCycle.toNat := by
  obtain ⟨operation, chain, world⟩ := moment
  cases operation with
  | process records => rfl
  | runOnce =>
    simp only [passage?, fed?, isDirect, isFilledCycle]
    rcases (reading? ⟨.runOnce, chain, world⟩) with _ | ⟨_ | _ | _, _⟩ <;> rfl
  | readSource | writeSink records | start | close | status => rfl

theorem length_passages [Clock ω] (history : List (Moment ω α)) :
    (history.filterMap passage?).length =
      history.countP (·.isDirect) + history.countP (·.isFilledCycle) := by
  induction history with
  | nil => rfl
  | cons moment rest ih =>
    have one := moment.isSome_passage?
    rw [List.filterMap_cons, List.countP_cons, List.countP_cons]
    cases passed : moment.passage? <;> cases direct : moment.isDirect <;>
      cases filled : moment.isFilledCycle <;> simp_all <;> omega

/-- Reading does not change the counts. -/
theorem fed?_metrics {moment : Moment ω α} {batch : List Handle} {fed : Chain α} {begun : ω}
    (found : moment.fed? = some (batch, fed, begun)) : fed.metrics = moment.chain.metrics := by
  obtain ⟨operation, ⟨source?, processors, sink?, metrics⟩, world⟩ := moment
  cases operation with
  | process records => cases found; rfl
  | runOnce =>
    cases sink? with
    | none => cases found
    | some sink =>
      cases source? with
      | none => cases found
      | some source =>
        simp only [fed?, reading?] at found
        generalize (Behaviour.read source).effect world = read at found
        obtain ⟨⟨agent, result⟩, after⟩ := read
        rcases result with fault | _ | ⟨record, rest⟩
        · cases found
        · cases found
        · cases found; rfl
  | readSource | writeSink records | start | close | status => cases found

/-- Every record of a batch that is processed has one lineage. -/
theorem lineages_length [Clock ω] {moment : Moment ω α} {passage : Passage}
    (passed : moment.passage? = some passage) : passage.lineages.length = passage.batch.length := by
  obtain ⟨⟨batch, chain, world⟩, -, rfl⟩ := Option.map_eq_some_iff.mp passed
  have sources := Chain.runStages_sources chain.processors batch world
  exact (List.length_map Entry.source).symm.trans (congrArg List.length sources)

end Moment

namespace Chain

section Operations

variable [Behaviour ω α]

theorem writeSink_metrics (chain : Chain α) (records : List Handle) (world : ω) :
    ((chain.writeSink records).effect world).1.1.metrics = chain.metrics := by
  unfold writeSink
  split
  · rfl
  · simp only [Activity.effect_bind]
    split <;> rfl

theorem writeCompleted_metrics (chain : Chain α) (records : List Handle) (world : ω) :
    ((chain.writeCompleted records).effect world).1.1.metrics = chain.metrics := by
  unfold writeCompleted
  split
  · rfl
  · exact writeSink_metrics chain records world

theorem settle_metrics (chain : Chain α) (batch : List Handle)
    (failed : List (Handle × ProcessingError)) (world : ω) :
    ((chain.settle batch failed).effect world).1.1.metrics = chain.metrics := by
  unfold settle
  split
  · rfl
  · simp only [Activity.effect_bind]
    split
    · rfl
    · simp only [Activity.effect_bind]
      split <;> rfl

theorem readSource_metrics (chain : Chain α) (world : ω) :
    (chain.readSource.effect world).1.1.metrics = chain.metrics := by
  unfold readSource
  split
  · rfl
  · simp only [Activity.effect_bind]
    split <;> rfl

theorem start_metrics (chain : Chain α) (world : ω) :
    (chain.start.effect world).1.1.metrics = chain.metrics := by
  simp only [start, Activity.effect_bind]
  split <;> rfl

theorem close_metrics (chain : Chain α) (world : ω) :
    (chain.close.effect world).1.1.metrics = chain.metrics := by
  simp only [close, Activity.effect_bind]
  split <;> rfl

variable [Clock ω]

/-- The ends do not change the counts, so those of a cycle are those of its batch. -/
theorem finishCycle_metrics (chain : Chain α) (batch : List Handle) (world : ω) :
    ((chain.finishCycle batch).effect world).1.1.metrics =
      ((chain.process batch).effect world).1.1.metrics := by
  simp only [finishCycle, Activity.effect_bind]
  generalize (chain.process batch).effect world = processed
  obtain ⟨⟨counted, results⟩, between⟩ := processed
  have wrote := writeCompleted_metrics counted (completedRecords results) between
  dsimp only
  generalize (counted.writeCompleted (completedRecords results)).effect between = written at wrote ⊢
  obtain ⟨⟨after, written⟩, middle⟩ := written
  cases written with
  | error error => exact wrote
  | ok =>
    have settles := settle_metrics after batch (failedSources results) middle
    simp only [Activity.effect_bind]
    generalize (after.settle batch (failedSources results)).effect middle = settled at settles ⊢
    obtain ⟨⟨last, settled⟩, final⟩ := settled
    cases settled <;> exact settles.trans wrote

/-- Performs an operation. The reports of a chain can be had without doing anything to it. -/
def perform (chain : Chain α) : Operation → Activity ω (Chain α)
  | .process records => do return (← chain.process records).1
  | .runOnce => do return (← chain.runOnce).1
  | .readSource => do return (← chain.readSource).1
  | .writeSink records => do return (← chain.writeSink records).1
  | .start => do return (← chain.start).1
  | .close => do return (← chain.close).1
  | .status => return chain

/-- Performs operations one after the other. -/
def performAll (chain : Chain α) : List Operation → Activity ω (Chain α)
  | [] => return chain
  | operation :: rest => do
    let chain ← chain.perform operation
    chain.performAll rest

/-- The moments in which operations begin that are performed one after the other. -/
def moments (chain : Chain α) (world : ω) : List Operation → List (Moment ω α)
  | [] => []
  | operation :: rest =>
    let (after, later) := (chain.perform operation).effect world
    ⟨operation, chain, world⟩ :: after.moments later rest

/-- An operation leaves the counts as they are unless it processes a batch, and then it leaves them as
they are after that, whatever else happens. -/
theorem perform_metrics (chain : Chain α) (operation : Operation) (world : ω) :
    ((chain.perform operation).effect world).1.metrics =
      match (⟨operation, chain, world⟩ : Moment ω α).fed? with
      | none => chain.metrics
      | some (batch, fed, begun) => ((fed.process batch).effect begun).1.1.metrics := by
  cases operation with
  | process records => rfl
  | readSource => exact readSource_metrics chain world
  | writeSink records => exact writeSink_metrics chain records world
  | start => exact start_metrics chain world
  | close => exact close_metrics chain world
  | status => rfl
  | runOnce =>
    have performed : ((chain.perform .runOnce).effect world).1.metrics =
      (chain.runOnce.effect world).1.1.metrics := rfl
    rw [performed]
    obtain ⟨source?, processors, sink?, metrics⟩ := chain
    cases sink? with
    | none => rfl
    | some sink =>
      cases source? with
      | none => rfl
      | some source =>
        simp only [runOnce, readSource, Moment.fed?, Moment.reading?, Option.isNone_some,
          Bool.false_eq_true, if_false, Activity.effect_bind]
        generalize (Behaviour.read source).effect world = read
        obtain ⟨⟨agent, result⟩, after⟩ := read
        rcases result with fault | _ | ⟨record, rest⟩
        · rfl
        · rfl
        · exact finishCycle_metrics _ (record :: rest) after

/-- What an operation adds to the counts is the batch that it processes. -/
theorem perform_counts (chain : Chain α) (operation : Operation) (world : ω) :
    ((chain.perform operation).effect world).1.metrics =
      (⟨operation, chain, world⟩ : Moment ω α).passage?.toList.foldl .add chain.metrics := by
  rw [perform_metrics, Moment.passage?]
  cases found : (⟨operation, chain, world⟩ : Moment ω α).fed? with
  | none => rfl
  | some start =>
    obtain ⟨batch, fed, begun⟩ := start
    have same := Moment.fed?_metrics found
    change fed.metrics.count batch.length _ _ = chain.metrics.count batch.length _ _
    rw [same]
    rfl

/-- What operations add to the counts are the batches that they process. -/
theorem performAll_counts (chain : Chain α) (operations : List Operation) (world : ω) :
    ((chain.performAll operations).effect world).1.metrics =
      ((chain.moments world operations).filterMap Moment.passage?).foldl .add chain.metrics := by
  induction operations generalizing chain world with
  | nil => rfl
  | cons operation rest ih =>
    have step := perform_counts chain operation world
    have later := ih ((chain.perform operation).effect world).1
      ((chain.perform operation).effect world).2
    simp only [performAll, moments, Activity.effect_bind, List.filterMap_cons]
    rw [later, step]
    cases (⟨operation, chain, world⟩ : Moment ω α).passage? <;> rfl

end Operations

end Chain

/-- The counts of some batches, one after the other. -/
theorem ChainMetrics.foldl_add (passages : List Passage) (metrics : ChainMetrics) :
    let lineages := passages.flatMap Passage.lineages
    let counted := passages.foldl add metrics
    counted.calls = metrics.calls + passages.length ∧
      counted.recordsIn = metrics.recordsIn + (passages.map (·.batch.length)).sum ∧
      counted.recordsOut = metrics.recordsOut + Entry.countRecords lineages ∧
      counted.failedLineages = metrics.failedLineages + Entry.countFailed lineages ∧
      counted.lastProcessedAt?.isSome = (metrics.lastProcessedAt?.isSome || !passages.isEmpty) := by
  induction passages generalizing metrics with
  | nil => simp [Entry.countRecords, Entry.countFailed]
  | cons passage rest ih =>
    obtain ⟨calls, recordsIn, recordsOut, failed, last⟩ := ih (metrics.add passage)
    simp only [List.foldl_cons, List.flatMap_cons, calls, recordsIn, recordsOut, failed, last]
    simp [add, count, Entry.countRecords, Entry.countFailed]
    omega

theorem length_filterMap_produced? (lineages : List Entry) :
    ((lineages.filterMap Entry.produced?).map List.length).sum = Entry.countRecords lineages := by
  induction lineages with
  | nil => rfl
  | cons entry rest ih =>
    rw [Entry.countRecords, List.flatMap_cons, List.length_append, List.filterMap_cons]
    cases entry.produced? <;> simp [ih, Entry.countRecords]

/-- A chain that is worked with in any way counts the calls to process a batch together with the cycles
that have a sink and read a batch with records. As given it counts the records of just these batches, as
produced the records of all their lineages that were completed, and as failed the lineages that were not.
So the lineages that were completed are those given without those failed, and there is a time of the last
batch as soon as one is counted. No operation leaves the counts otherwise than its batch does: without a
batch they stay, and what a cycle does after its batch was processed, whether it fails or not, does not
change them. -/
theorem metrics_are_faithful [Behaviour ω α] [Clock ω] (source? : Option α) (processors : List α)
    (sink? : Option α) (operations : List Operation) (world : ω) :
    let chain : Chain α := { source?, processors, sink? }
    let history := chain.moments world operations
    let passages := history.filterMap Moment.passage?
    let lineages := passages.flatMap Passage.lineages
    let metrics := ((chain.performAll operations).run world).value.metrics
    metrics.calls = history.countP (·.isDirect) + history.countP (·.isFilledCycle) ∧
    metrics.recordsIn = (passages.map (·.batch.length)).sum ∧
    metrics.recordsOut = ((lineages.filterMap Entry.produced?).map List.length).sum ∧
    metrics.failedLineages = lineages.countP (·.isFailed) ∧
    metrics.recordsIn - metrics.failedLineages = lineages.countP (!·.isFailed) ∧
    metrics.failedLineages ≤ metrics.recordsIn ∧
    (metrics.lastProcessedAt?.isSome ↔ 0 < metrics.calls) ∧
    ∀ moment : Moment ω α,
      ((moment.chain.perform moment.operation).run moment.world).value.metrics =
        match moment.fed? with
        | none => moment.chain.metrics
        | some (batch, fed, begun) => ((fed.process batch).run begun).value.1.metrics := by
  intro chain history passages lineages metrics
  have counted : metrics = passages.foldl .add chain.metrics :=
    chain.performAll_counts operations world
  have sums := ChainMetrics.foldl_add passages chain.metrics
  simp only [← counted, chain, Nat.zero_add, Option.isSome_none, Bool.false_or] at sums
  obtain ⟨calls, recordsIn, recordsOut, failed, last⟩ := sums
  have given : metrics.recordsIn = lineages.length := by
    rw [recordsIn, List.length_flatMap]
    refine congrArg List.sum (List.map_congr_left fun passage member => ?_)
    obtain ⟨moment, -, passed⟩ := List.mem_filterMap.mp member
    exact (Moment.lineages_length passed).symm
  have parted : lineages.length = metrics.failedLineages + lineages.countP (!·.isFailed) := by
    rw [failed, List.length_eq_countP_add_countP Entry.isFailed]
    simp [Entry.countFailed, lineages]
  refine ⟨calls.trans (Moment.length_passages history), recordsIn,
    recordsOut.trans (length_filterMap_produced? lineages).symm, failed, by omega, by omega, ?_,
    fun moment => moment.chain.perform_metrics moment.operation moment.world⟩
  rw [last, calls]
  cases passages <;> simp

end Conveyor
