import Conveyor.Agent.Nesting
import Conveyor.Proofs.Provenance
import Conveyor.Proofs.Watching

/-! A composite (`CompositeAgentProcessor`) at the front of a chain can be opened: its processors stand for
it. The first stage gets the whole batch, and so does the chain inside; what that chain answers lines up
with the batch already, and its failures are kept by the stages behind. Every batch is processed as by the
chain in which the agents inside are written out, however deep composites are nested at the front.
Elsewhere, or without processors, a composite cannot be opened: behind the front it is called lineage by
lineage, and behind an empty one so is the processor that would come first without it. -/
namespace Conveyor

variable {ω σ α β γ κ : Type}

/-- A level of nesting: the composite that holds what was there before, and the processors behind it. -/
structure Layer (σ : Type) where
  identity : Identity
  registry : RegistryKey
  metrics : ChainMetrics := {}
  after : List (Agent σ)

/-- Puts processors into composites at the front of a chain, one within the other. -/
def nest (processors : List (Agent σ)) : List (Layer σ) → List (Agent σ)
  | [] => processors
  | layer :: layers =>
    nest (.composite layer.identity layer.registry { processors, metrics := layer.metrics } ::
      layer.after) layers

/-- Processors with a composite at the front, and the same with the composite opened, repeatedly. What
is opened must not be empty. -/
inductive Opened : List (Agent σ) → List (Agent σ) → Prop where
  | same (processors : List (Agent σ)) : Opened processors processors
  | front {processors rest : List (Agent σ)} {first : Agent σ} (identity : Identity)
      (registry : RegistryKey) (metrics : ChainMetrics) (after : List (Agent σ))
      (inside : Opened processors (first :: rest)) :
      Opened (.composite identity registry { processors, metrics } :: after) (first :: rest ++ after)

theorem opened_nest {processors : List (Agent σ)} {first : Agent σ} {rest : List (Agent σ)}
    (opened : Opened processors (first :: rest)) (layers : List (Layer σ)) :
    Opened (nest processors layers) (first :: rest ++ layers.flatMap Layer.after) := by
  induction layers generalizing processors rest with
  | nil =>
    rw [List.flatMap_nil, List.append_nil]
    exact opened
  | cons layer layers ih =>
    rw [List.flatMap_cons, ← List.append_assoc]
    exact ih (.front layer.identity layer.registry layer.metrics layer.after opened)

namespace Chain

/-- Processes one batch after the other. -/
def processAll [Behaviour ω α] [Clock ω] (chain : Chain α) :
    List (List Handle) → Activity ω (Chain α × List (List Entry))
  | [] => pure (chain, [])
  | batch :: batches => do
    let (chain, results) ← chain.process batch
    let (chain, others) ← chain.processAll batches
    pure (chain, results :: others)

/-- The same results and the same world, beside related processors or chains. -/
def SameEnd (related : β → β → Prop) (one other : (β × γ) × ω) : Prop :=
  related one.1.1 other.1.1 ∧ one.1.2 = other.1.2 ∧ one.2 = other.2

/-- Chains that stay alike over every batch, and come to the same, do so over any number of batches. -/
theorem processAll_alike [Behaviour ω α] [Clock ω] {alike : Chain α → Chain α → Prop}
    (step : ∀ {one other}, alike one other → ∀ batch (world : ω),
      SameEnd alike ((one.process batch).effect world) ((other.process batch).effect world))
    {one other : Chain α} (begin : alike one other) (batches : List (List Handle)) (world : ω) :
    SameEnd alike ((one.processAll batches).effect world)
      ((other.processAll batches).effect world) := by
  induction batches generalizing one other world with
  | nil => exact ⟨begin, rfl, rfl⟩
  | cons batch batches ih =>
    obtain ⟨still, results, left⟩ := step begin batch world
    obtain ⟨final, others, after⟩ := ih still ((other.process batch).effect world).2
    simp only [processAll, Activity.effect_bind, Activity.effect_pure]
    rw [results, left]
    exact ⟨final, by rw [others], after⟩

variable [Behaviour ω σ] [Clock ω]

theorem opened_status {nested flat : List (Agent σ)} (opened : Opened nested flat) :
    nested.flatMap Behaviour.status = flat.flatMap Behaviour.status := by
  induction opened with
  | same => rfl
  | front identity registry metrics after inside ih =>
    rw [List.flatMap_cons, List.flatMap_append, Agent.status_composite, ← ih]
    simp [status, members]

/-- Entries that answer a batch position by position pass through the first stage unchanged. -/
theorem firstEntries_of_sources (agentId : String) {records : List Handle} {answers : List Entry}
    (sources : answers.map Entry.source = records) :
    firstEntries agentId records (.ok answers) = answers := by
  rw [firstEntries, ← sources, Reconciled.ofAnswers, Reconciled.aligned_sources, if_pos rfl]

/-- A composite answers a batch with the entries of its processors. -/
theorem composite_effect (identity : Identity) (registry : RegistryKey)
    (processors : List (Agent σ)) (metrics : ChainMetrics) (records : List Handle) (world : ω) :
    (Behaviour.process records
      (Agent.composite identity registry { processors, metrics })).effect world =
      let ((processors, results), after) := (runStages processors records).effect world
      let counted := metrics.count records.length results (Clock.now after)
      (.ok (.composite identity registry { processors, metrics := counted }) results, after) := by
  rw [Agent.process_composite, Activity.effect_bind, process_effect]
  rfl

/-- Opening a composite at the front changes nothing about a batch. -/
theorem runStages_opened {nested flat : List (Agent σ)} (opened : Opened nested flat)
    (records : List Handle) (world : ω) :
    let one := (runStages nested records).effect world
    let other := (runStages flat records).effect world
    Opened one.1.1 other.1.1 ∧ one.1.2 = other.1.2 ∧ one.2 = other.2 := by
  induction opened with
  | same processors => exact ⟨.same _, rfl, rfl⟩
  | @front inner rest first identity registry metrics after inside ih =>
    obtain ⟨still, entries, left⟩ := ih
    have sources := runStages_sources inner records world
    obtain ⟨first', rest', shape⟩ := runStages_cons first rest records world
    -- The chain inside answers its batch position by position, failures included, so that the first
    -- stage of the chain around it has nothing left to line up.
    rw [runStages_append, runStages_effect, composite_effect]
    dsimp only [Reply.ok]
    rw [firstEntries_of_sources _ sources, entries, left]
    rw [shape] at still ⊢
    exact ⟨.front identity registry _ _ still, rfl, rfl⟩

/-- The chain with the processors of another that are opened, and the same ends and counts. -/
structure OpensTo (nested flat : Chain (Agent σ)) : Prop where
  source : nested.source? = flat.source?
  processors : Opened nested.processors flat.processors
  sink : nested.sink? = flat.sink?
  metrics : nested.metrics = flat.metrics

theorem process_opened {nested flat : Chain (Agent σ)} (opens : OpensTo nested flat)
    (records : List Handle) (world : ω) :
    let one := (nested.process records).effect world
    let other := (flat.process records).effect world
    OpensTo one.1.1 other.1.1 ∧ one.1.2 = other.1.2 ∧ one.2 = other.2 := by
  obtain ⟨still, entries, left⟩ := runStages_opened opens.processors records world
  rw [process_effect, process_effect]
  refine ⟨⟨opens.source, still, opens.sink, ?_⟩, entries, left⟩
  dsimp only
  rw [opens.metrics, entries, left]

/-- Opening a composite at the front changes nothing about any number of batches. -/
theorem processAll_opened {nested flat : Chain (Agent σ)} (opens : OpensTo nested flat)
    (batches : List (List Handle)) (world : ω) :
    let one := (nested.processAll batches).effect world
    let other := (flat.processAll batches).effect world
    OpensTo one.1.1 other.1.1 ∧ one.1.2 = other.1.2 ∧ one.2 = other.2 :=
  processAll_alike process_opened opens batches world

theorem status_opened {nested flat : Chain (Agent σ)} (opens : OpensTo nested flat) :
    nested.status = flat.status := by
  have processors := opened_status opens.processors
  simp only [status, members, List.flatMap_append, processors, opens.source, opens.sink]

end Chain

/-- Composites at the front of a chain, nested to any depth, stand for their processors: over any
batches, the chain and the one in which the processors are written out come to the same results, make
the same calls of the same agents in the same order, whatever these answer, and end with the same counts
and reports. -/
theorem nested_front_is_flat [Behaviour ω α] [Clock ω] (chain : Chain (Agent (Watched κ α)))
    (first : Agent (Watched κ α)) (rest : List (Agent (Watched κ α)))
    (layers : List (Layer (Watched κ α))) (batches : List (List Handle)) (watch : Watch κ ω) :
    let nested := { chain with processors := nest (first :: rest) layers }
    let flat := { chain with processors := first :: rest ++ layers.flatMap Layer.after }
    let one := (nested.processAll batches).run watch
    let other := (flat.processAll batches).run watch
    one.value.2 = other.value.2 ∧
      one.world.calls = other.world.calls ∧ one.world.world = other.world.world ∧
      one.value.1.metrics = other.value.1.metrics ∧
      one.value.1.status = other.value.1.status := by
  intro nested flat
  have opens : Chain.OpensTo nested flat := ⟨rfl, opened_nest (.same _) layers, rfl, rfl⟩
  obtain ⟨still, results, left⟩ := Chain.processAll_opened opens batches watch
  exact ⟨results, congrArg Watch.calls left, congrArg Watch.world left, still.metrics,
    Chain.status_opened still⟩

end Conveyor
