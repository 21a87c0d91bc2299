import Conveyor.Proofs.Ends
import Conveyor.Proofs.Provenance

/-! Cycles of a chain (`run_once`) between a static source and a sink that takes whatever it is given. What
happens to a batch is decided by its processing alone: what is written, what the source notes, and how the
cycle ends. A run of many cycles is the processing of the batches that fall due, with the ends moved along.
-/
namespace Conveyor

open Testing

variable {ω α : Type}

namespace Chain

section Runs

variable [Behaviour ω α]

/-- The chain between two ends. -/
def between (chain : Chain α) (source sink : α) : Chain α :=
  { chain with source? := some source, sink? := some sink }

variable [Clock ω]

/-- Runs some cycles, one after the other. -/
def runCycles (chain : Chain α) : Nat → Activity ω (Chain α × List (Except FlowError CycleSummary))
  | 0 => pure (chain, [])
  | cycles + 1 => do
    let (chain, result) ← chain.runOnce
    let (chain, results) ← chain.runCycles cycles
    pure (chain, result :: results)

/-- What a cycle makes of a batch: an empty one is not processed. -/
def processFilled (chain : Chain α) (batch : List Handle) : Activity ω (Chain α × List Entry) :=
  if batch.isEmpty then pure (chain, []) else chain.process batch

/-- What cycles make of batches one after the other. -/
def processEachFilled (chain : Chain α) :
    List (List Handle) → Activity ω (Chain α × List (List Entry))
  | [] => pure (chain, [])
  | batch :: batches => do
    let (chain, lineages) ← chain.processFilled batch
    let (chain, results) ← chain.processEachFilled batches
    pure (chain, lineages :: results)

theorem processFilled_sources (chain : Chain α) (batch : List Handle) (world : ω) :
    ((chain.processFilled batch).effect world).1.2.map Entry.source = batch := by
  cases batch with
  | nil => rfl
  | cons record rest => exact runStages_sources chain.processors (record :: rest) world

theorem processEachFilled_sources (chain : Chain α) (batches : List (List Handle)) (world : ω) :
    ((chain.processEachFilled batches).effect world).1.2.map (·.map Entry.source) = batches := by
  induction batches generalizing chain world with
  | nil => rfl
  | cons batch batches ih =>
    exact List.cons_eq_cons.mpr ⟨processFilled_sources chain batch world, ih _ _⟩

end Runs

variable [Behaviour Environment α] {wrap : StaticSource → α} {holds : List Handle → α → Prop}

theorem readSource_static (hosted : PassesOn wrap) (chain : Chain α) (source : StaticSource)
    (sink : α) (world : Environment) :
    (chain.between (wrap source) sink).readSource.effect world =
      ((chain.between (wrap (source.emitted world)) sink, .ok source.next), world) := by
  simp only [readSource, between, Activity.effect_bind, hosted.read, StaticSource.read_effect]
  rfl

/-- A static source notes all reports if it takes dead letters, and refuses the first if it does not. -/
theorem reportFailures_static (hosted : PassesOn wrap) (source : StaticSource)
    (failed : List (Handle × ProcessingError)) (world : Environment) :
    (reportFailures (wrap source) failed).effect world =
      match source.refused? failed with
      | some error => ((wrap source, some (.raised ⟨error.kind, error.display⟩)), world)
      | none => ((wrap (source.noting [] (deadLetters failed)), none), world) := by
  induction failed generalizing source with
  | nil =>
    rw [StaticSource.refused?_nil, deadLetters, List.map_nil, StaticSource.noting_nothing]
    rfl
  | cons failure rest ih =>
    obtain ⟨record, error⟩ := failure
    rw [reportFailures, Activity.effect_bind, hosted.permanentFailure,
      StaticSource.permanentFailure_effect]
    cases mode : source.deadLetter with
    | false =>
      rw [StaticSource.refused?_strict mode]
      rfl
    | true =>
      have accepts : (source.noting [] [(record, error.display)]).deadLetter = true := mode
      have later := ih (source.noting [] [(record, error.display)])
      rw [StaticSource.refused?_deadLetter accepts, StaticSource.noting_noting] at later
      rw [StaticSource.refused?_deadLetter mode]
      exact later

theorem settle_static (hosted : PassesOn wrap) (chain : Chain α) (source : StaticSource) (sink : α)
    (batch : List Handle) (failed : List (Handle × ProcessingError)) (world : Environment) :
    ((chain.between (wrap source) sink).settle batch failed).effect world =
      ((chain.between (wrap (source.settled batch failed)) sink, source.verdict failed), world) := by
  have reported := reportFailures_static hosted source failed world
  simp only [settle, between, Activity.effect_bind, hosted.agentId]
  rw [StaticSource.settled, StaticSource.accepted, StaticSource.accepted, StaticSource.verdict]
  cases refused : source.refused? failed with
  | some error =>
    rw [refused] at reported
    rw [reported, Option.isSome_some, if_pos rfl, if_pos rfl, StaticSource.noting_nothing]
    rfl
  | none =>
    rw [refused] at reported
    rw [reported]
    simp only [Activity.effect_bind, hosted.commit, StaticSource.commit_effect,
      StaticSource.noting_noting, List.nil_append, List.append_nil]
    rfl

/-- A sink that takes everything gets the completed records, if there are any. -/
theorem writeCompleted_taken (takes : Takes holds) (chain : Chain α) (source : α)
    {taken : List Handle} {sink : α} (holding : holds taken sink) (records : List Handle)
    (world : Environment) : ∃ later, holds (taken ++ records) later ∧
      ((chain.between source sink).writeCompleted records).effect world =
        ((chain.between source later, .ok ()), world) := by
  cases records with
  | nil => exact ⟨sink, by rwa [List.append_nil], rfl⟩
  | cons record rest =>
    obtain ⟨later, written, holding⟩ := takes holding (record :: rest) world
    refine ⟨later, holding, ?_⟩
    simp only [writeCompleted, List.isEmpty_cons, Bool.false_eq_true, if_false, writeSink, between,
      Activity.effect_bind, written]
    rfl

/-- A cycle that processes a batch between such ends. -/
theorem finishCycle_static (hosted : PassesOn wrap) (takes : Takes holds) (chain : Chain α)
    (source : StaticSource) {taken : List Handle} {sink : α} (holding : holds taken sink)
    (batch : List Handle) (world : Environment) :
    let ((processed, lineages), after) := (chain.process batch).effect world
    ∃ later, holds (taken ++ Entry.outputs lineages) later ∧
      ((chain.between (wrap source) sink).finishCycle batch).effect world =
        ((processed.between (wrap (source.settled batch (Entry.failures lineages))) later,
          source.ending lineages), after) := by
  have results : ((chain.process batch).effect world).1.2.length = batch.length := by
    rw [← List.length_map Entry.source]
    exact congrArg List.length (runStages_sources chain.processors batch world)
  have moved : ((chain.between (wrap source) sink).process batch).effect world =
      let ((processed, lineages), after) := (chain.process batch).effect world
      ((processed.between (wrap source) sink, lineages), after) := rfl
  simp only [finishCycle, completedRecords_eq, failedSources_eq, Activity.effect_bind, moved]
  generalize (chain.process batch).effect world = done at results ⊢
  obtain ⟨⟨processed, lineages⟩, after⟩ := done
  obtain ⟨later, holding, written⟩ :=
    writeCompleted_taken takes processed (wrap source) holding (Entry.outputs lineages) after
  refine ⟨later, holding, ?_⟩
  simp only [written, Activity.effect_bind, settle_static hosted]
  rw [StaticSource.ending, CycleSummary.ofLineages, results]
  cases source.verdict (Entry.failures lineages) <;> rfl

/-- A cycle between such ends. -/
theorem runOnce_static (hosted : PassesOn wrap) (takes : Takes holds) (chain : Chain α)
    (source : StaticSource) {taken : List Handle} {sink : α} (holding : holds taken sink)
    (world : Environment) :
    let ((processed, lineages), after) := (chain.processFilled source.next).effect world
    ∃ later, holds (taken ++ Entry.outputs lineages) later ∧
      (chain.between (wrap source) sink).runOnce.effect world =
        ((processed.between
          (wrap ((source.emitted world).settled source.next (Entry.failures lineages))) later,
          source.ending lineages), after) := by
  have opened := readSource_static hosted chain source sink world
  have hasSink : (chain.between (wrap source) sink).sink?.isNone = false := rfl
  simp only [runOnce, hasSink, Bool.false_eq_true, if_false, Activity.effect_bind, opened]
  cases source.next with
  | nil =>
    have ended : source.ending [] = .ok {} := by
      rw [StaticSource.ending, StaticSource.verdict]
      simp only [Entry.failures, StaticSource.refused?_nil]
      rfl
    refine ⟨sink, (List.append_nil taken).symm ▸ holding, ?_⟩
    change ((chain.between (wrap (source.emitted world)) sink, .ok {}), world) =
      ((chain.between (wrap ((source.emitted world).settled [] [])) sink, source.ending []), world)
    rw [StaticSource.settled_nothing, ended]
  | cons record rest =>
    exact finishCycle_static hosted takes chain (source.emitted world) holding _ world

/-- A run between such ends processes the batches that fall due. All that is written goes to the sink
in the order of the batches, and the source notes what it accepts. -/
theorem runCycles_static (hosted : PassesOn wrap) (takes : Takes holds) (cycles : Nat)
    (chain : Chain α) (source : StaticSource) {taken : List Handle} {sink : α}
    (holding : holds taken sink) (world : Environment) :
    let ((processed, results), after) := (chain.processEachFilled (source.due cycles)).effect world
    ∃ source' sink', source.Replayed results source' ∧
      holds (taken ++ results.flatMap Entry.outputs) sink' ∧
      ((chain.between (wrap source) sink).runCycles cycles).effect world =
        ((processed.between (wrap source') sink', results.map source.ending), after) := by
  induction cycles generalizing chain source taken sink world with
  | zero => exact ⟨source, sink, .none source, (List.append_nil taken).symm ▸ holding, rfl⟩
  | succ cycles ih =>
    -- A cycle moves the processors as the processing of its batch does, and the ends by the way.
    have answered := processFilled_sources chain source.next world
    have first := runOnce_static hosted takes chain source holding world
    simp only [source.due_succ cycles world, processEachFilled, runCycles, Activity.effect_bind,
      Activity.effect_pure]
    generalize (chain.processFilled source.next).effect world = done at answered first ⊢
    obtain ⟨⟨processed, lineages⟩, after⟩ := done
    obtain ⟨later, holding, ran⟩ := first
    have more := ih processed ((source.emitted world).settled source.next (Entry.failures lineages))
      holding after
    obtain ⟨source', sink', replayed, holding, others⟩ := more
    refine ⟨source', sink', .cons answered replayed, ?_, ?_⟩
    · rw [List.flatMap_cons, ← List.append_assoc]
      exact holding
    · rw [ran, others]
      rfl

end Chain

end Conveyor
