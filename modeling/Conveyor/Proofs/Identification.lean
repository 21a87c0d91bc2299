import Conveyor.Proofs.Acceptance
import Conveyor.Proofs.Declarations
import Conveyor.Proofs.RecordFunctions
import Conveyor.Proofs.Reports

/-! Which agents an id stands for, in chains of the types of the catalog. A layout is accepted by `build` if
no id is repeated at a level; the `status` of its chain runs through all levels, so an id stands for one
agent just when it is not repeated among the leaves of all of them. -/
namespace Conveyor

open Testing

namespace StockAgent

/-- The counters of an agent of a type of the catalog, from which it makes its one report. -/
def counters? : StockAgent → Option Counters
  | passThrough agent => some agent.counters
  | discard agent => some agent.counters
  | setHeader agent => some agent.counters
  | logSink agent => some agent.counters
  | echo agent => some agent.counters
  | duplicate agent => some agent.counters
  | failing agent => some agent.counters
  | panicking agent => some agent.counters
  | recordingSink agent => some agent.counters
  | staticSource agent => some agent.counters
  | _ => none

/-- Reports are made of the counters. -/
theorem report_of_counters {stock : StockAgent} {counters : Counters}
    (counted : stock.counters? = some counters) :
    Behaviour.agentId stock = counters.identity.agentId ∧
      (Behaviour.status stock).map AgentStatus.agentId = [counters.identity.agentId] := by
  cases stock <;> cases counted <;> exact ⟨rfl, rfl⟩

/-- No configuration changes the counters. -/
theorem init_counters {stock : StockAgent} {counters : Counters}
    (counted : stock.counters? = some counters) (configuration : Configuration) (world : Environment) :
    ((Configurable.init configuration stock).effect world).1.agent.counters? = some counters := by
  cases stock with
  | setHeader agent =>
    have kept := (SetHeader.configure_spec configuration agent).2
    have called : ((Configurable.init configuration (setHeader agent)).effect world).1 =
        ((Configurable.init configuration agent).effect world).1.mapAgent setHeader := rfl
    cases counted
    rw [called]
    simp only [Configurable.init]
    generalize SetHeader.configure configuration agent = taken at kept ⊢
    obtain ⟨after, _ | _⟩ := taken <;> exact congrArg some kept
  | failing agent =>
    have kept := (Failing.configure_spec configuration agent).2
    have called : ((Configurable.init configuration (failing agent)).effect world).1 =
        ((Configurable.init configuration agent).effect world).1.mapAgent failing := rfl
    cases counted
    rw [called]
    simp only [Configurable.init]
    generalize Failing.configure configuration agent = taken at kept ⊢
    obtain ⟨after, _ | _⟩ := taken <;> exact congrArg some kept
  | logSink agent =>
    have called : ((Configurable.init configuration (logSink agent)).effect world).1 =
        ((Configurable.init configuration agent).effect world).1.mapAgent logSink := rfl
    cases counted
    rw [called]
    simp only [Configurable.init]
    cases LogSink.levelOf configuration <;> rfl
  | staticSource agent =>
    have called : ((Configurable.init configuration (staticSource agent)).effect world).1 =
        ((Configurable.init configuration agent).effect world).1.mapAgent staticSource := rfl
    cases counted
    rw [called]
    simp only [Configurable.init]
    cases StaticSource.valuesOf configuration <;> rfl
  | passThrough agent | discard agent | echo agent | duplicate agent | panicking agent
    | recordingSink agent => exact counted
  | _ => cases counted

/-- A failing processor keeps its identity in a call, which fails or is answered record by record. -/
theorem process_failing (agent : Failing) (records : List Handle) (world : Environment) :
    let reply := ((Behaviour.process records (failing agent)).effect world).1
    (∃ after : Failing, reply.agent = failing after ∧
      after.counters.identity = agent.counters.identity) ∧
    ((∃ fault, reply.result = .error fault) ∨
      reply.result = .ok (records.map ({ agent with calls := agent.calls + 1 } : Failing).answer)) := by
  have called : ((Behaviour.process records (failing agent)).effect world).1 =
      ((Behaviour.process records agent).effect world).1.mapAgent failing := rfl
  dsimp only
  rw [called, Failing.process_effect]
  dsimp only
  split
  · exact ⟨⟨_, rfl, rfl⟩, .inl ⟨_, rfl⟩⟩
  · exact ⟨⟨_, rfl, rfl⟩, .inr rfl⟩

/-- A failing processor fails lineages in its own name. -/
theorem answer_blamed {agent : Failing} {record : Handle} {error : ProcessingError}
    (failed : (agent.answer record).outcome = .failed error) :
    error.agentId = agent.counters.identity.agentId := by
  unfold Failing.answer at failed
  split at failed
  · split at failed <;> cases failed
    rfl
  · cases failed

/-- Where every lineage is seen to have produced something nobody is blamed. -/
theorem blamedWithin_of_produced {ids : List String} {answers : List Entry} {records : List Handle}
    {produced : Record → List Record} (same : answers.map (Entry.seen Handle.record) =
      records.map fun record => (record, .ok (produced record.record))) :
    BlamedWithin ids answers := by
  intro entry member error failed
  have shown := List.mem_map_of_mem (f := Entry.seen Handle.record) member
  rw [same] at shown
  obtain ⟨record, -, alive⟩ := List.mem_map.mp shown
  rw [Entry.seen, failed] at alive
  cases (Prod.mk.inj alive).2

/-- A call keeps the identity of the counters. -/
theorem process_identity {stock : StockAgent} {counters : Counters}
    (counted : stock.counters? = some counters) (records : List Handle) (world : Environment) :
    ∃ later, ((Behaviour.process records stock).effect world).1.agent.counters? = some later ∧
      later.identity = counters.identity := by
  cases stock with
  | failing agent =>
    obtain ⟨⟨after, moved, kept⟩, -⟩ := process_failing agent records world
    cases counted
    exact ⟨after.counters, by rw [moved]; rfl, kept⟩
  | _ => cases counted <;> exact ⟨_, rfl, rfl⟩

/-- What is failed in an answer is failed by the agent itself. -/
theorem process_blamed {stock : StockAgent} {counters : Counters}
    (counted : stock.counters? = some counters) {records : List Handle} {world : Environment}
    {answers : List Entry}
    (answered : ((Behaviour.process records stock).effect world).1.result = .ok answers) :
    BlamedWithin [counters.identity.agentId] answers := by
  have byRecord {produced : Record → List Record}
      (known : stock.recordFunction? = some fun record => .ok (produced record)) :
      BlamedWithin [counters.identity.agentId] answers := by
    obtain ⟨-, others, replied, same⟩ := process_recordFunction known records world
    obtain rfl := Except.ok.inj (answered.symm.trans replied)
    exact blamedWithin_of_produced same
  cases stock with
  | passThrough | discard | setHeader | echo | duplicate => exact byRecord rfl
  | failing agent =>
    cases counted
    obtain ⟨-, ⟨fault, failed⟩ | replied⟩ := process_failing agent records world
    · cases failed.symm.trans answered
    · obtain rfl := Except.ok.inj (answered.symm.trans replied)
      intro entry member error failed
      obtain ⟨record, -, rfl⟩ := List.mem_map.mp member
      exact List.mem_singleton.mpr (answer_blamed failed)
  | panicking => cases answered
  | logSink | recordingSink | staticSource =>
    obtain rfl : [] = answers := Except.ok.inj answered
    exact List.forall_mem_nil _
  | _ => cases counted

/-- An agent of a type of the catalog reports and is blamed under its own id for good. -/
theorem ownReport {stock : StockAgent} {counters : Counters}
    (counted : stock.counters? = some counters) :
    Henceforth (OwnReport counters.identity.agentId) stock := by
  refine Henceforth.of_kept (fun stock => ∃ later, stock.counters? = some later ∧
    later.identity = counters.identity) ?_ ?_ ⟨counters, counted, rfl⟩
  · rintro stock records world ⟨later, counted, same⟩
    obtain ⟨last, still, kept⟩ := process_identity counted records world
    exact ⟨last, still, kept.trans same⟩
  · rintro stock ⟨later, counted, same⟩
    obtain ⟨id, status⟩ := report_of_counters counted
    rw [← same]
    exact ⟨id, status, fun _ _ _ answered => process_blamed counted answered⟩

end StockAgent

namespace Catalog

/-- Everything in the catalog makes composites, or agents with counters of the id that they are given. -/
theorem counted_types {name : String} {constructor : Constructor StockAgent}
    (member : (name, constructor) ∈ types) :
    name = "composite-agent" ∧ constructor = composites ∨
      name ≠ "composite-agent" ∧ ∀ key identity now, ∃ stock counters,
        constructor key identity now = .leaf stock ∧ stock.counters? = some counters ∧
          counters.identity.agentId = identity.agentId := by
  simp only [types, builtins, testAgents, List.cons_append, List.nil_append, List.mem_cons,
    List.not_mem_nil, or_false, Prod.mk.injEq] at member
  rcases member with ⟨rfl, rfl⟩ | ⟨rfl, rfl⟩ | ⟨rfl, rfl⟩ | ⟨rfl, rfl⟩ | ⟨rfl, rfl⟩ | ⟨rfl, rfl⟩ |
    ⟨rfl, rfl⟩ | ⟨rfl, rfl⟩ | ⟨rfl, rfl⟩ | ⟨rfl, rfl⟩ | ⟨rfl, rfl⟩
  all_goals first
    | exact .inl ⟨rfl, rfl⟩
    | exact .inr ⟨by decide, fun key identity now => ⟨_, _, rfl, rfl, rfl⟩⟩

theorem Open.mem_types {registries : Registries StockAgent} {key : RegistryKey}
    (opened : Open registries key) {name : String} {constructor : Constructor StockAgent}
    (found : (registries.table key).get? name = some constructor) : (name, constructor) ∈ types := by
  rw [opened] at found
  obtain ⟨front, back, place, -⟩ := List.lookup_eq_some_iff.mp found
  exact List.mem_reverse.mp (by rw [place]; simp)

end Catalog

section Construction

open Agent

variable {registries : Registries StockAgent} {key : RegistryKey}

/-- An agent that is constructed shows the ids of its definition, if the chains inside it do. -/
theorem constructAs_shows (opened : Catalog.Open registries key) {definition : AgentDefinition}
    (inside : ∀ layout startedAt (world : Environment) chain after,
      ChainLayout.ofConfiguration definition.configuration = .ok layout →
        (Chain.ofLayout registries key layout startedAt).outcome world = (.ok chain, after) →
          chain.ShowsLayout layout)
    {startedAt : Instant} {component : Component} {world after : Environment} {agent : Agent StockAgent}
    (done : (constructAs registries key startedAt component definition).outcome world =
      (.ok agent, after)) : Shows definition.shownIds agent := by
  obtain ⟨constructor, found, done⟩ := of_constructAs registries done
  rcases Catalog.counted_types (opened.mem_types found) with ⟨named, rfl⟩ | ⟨plain, makes⟩
  · rw [Catalog.composites, emptyComposite, init_composite_effect] at done
    cases read : ChainLayout.ofConfiguration definition.configuration with
    | error error =>
      rw [read] at done
      cases done
    | ok layout =>
      rw [read] at done
      cases built : (Chain.ofLayout registries key layout startedAt).outcome world with
      | mk result left =>
        simp only [built] at done
        cases result with
        | error fault => cases done
        | ok chain =>
          cases done
          rw [AgentDefinition.shownIds_composite named read]
          exact Shows.composite (inside layout startedAt world chain after read built) _ key
  · obtain ⟨stock, counters, made, counted, same⟩ :=
      makes key ⟨definition.agentId, definition.agentType, startedAt⟩ (Clock.now world)
    have still := StockAgent.init_counters counted definition.configuration world
    rw [made, init_leaf_effect] at done
    generalize (Configurable.init definition.configuration stock).effect world = called at done still
    obtain ⟨⟨moved, result⟩, left⟩ := called
    cases done
    have shows := Shows.leaf (StockAgent.ownReport still)
    rw [same] at shows
    rw [AgentDefinition.shownIds_leaf plain]
    exact shows

/-- The chain of a layout shows the ids of the layout. -/
theorem ofLayout_shows (opened : Catalog.Open registries key) (layout : ChainLayout)
    {startedAt : Instant} {world after : Environment} {chain : Chain (Agent StockAgent)}
    (done : (Chain.ofLayout registries key layout startedAt).outcome world = (.ok chain, after)) :
    chain.ShowsLayout layout := by
  induction layout using ChainLayout.inductionOn generalizing startedAt world chain after with
  | step layout inside =>
    rw [Chain.ofLayout, Chain.ofLayoutWith_outcome, Attempt.outcome_bind_ok_iff] at done
    obtain ⟨agents, between, constructed, assembled⟩ := done
    have each : List.Forall₂ (fun place => Shows (AgentDefinition.shownIds place.2)) layout.placed
        agents := by
      have placed : ∀ place ∈ layout.placed, place.2 ∈ layout.definitions := by
        intro place member
        rw [← layout.map_snd_placed]
        exact List.mem_map_of_mem member
      have made := (List.forall₂_and_left _ _).mpr ⟨placed, Attempt.outcome_mapM_ok constructed⟩
      refine made.imp fun place agent built => ?_
      obtain ⟨definition, before, later, done⟩ := built
      exact constructAs_shows opened (fun inner startedAt world chain after read built =>
        inside _ definition inner read built) done
    have related : Chain.Related (fun definition => Shows (AgentDefinition.shownIds definition))
        layout.shape (layout.filled agents) := ChainLayout.related_filled each
    rw [Chain.ofAgents] at assembled
    split at assembled
    · cases assembled
    · cases assembled
      exact ⟨related.source, related.processors, related.sink⟩

theorem accepted_of_wellFormed (opened : Catalog.Open registries key) {layout : ChainLayout}
    (wellFormed : WellFormed layout) (startedAt : Instant) (world : Environment) :
    ∃ chain after, (Chain.ofLayout registries key layout startedAt).outcome world = (.ok chain, after) := by
  have decides := ofLayout_decides opened layout startedAt
  cases outcome : (Chain.ofLayout registries key layout startedAt).outcome world with
  | mk result after =>
    cases result with
    | ok chain => exact ⟨chain, after, rfl⟩
    | error fault => exact absurd wellFormed (decides.error outcome).1

end Construction

/-- Among reports of different ids, the one that is found under an id is the one that has it. -/
theorem StatusSnapshot.agent?_of_nodup {snapshot : StatusSnapshot}
    (apart : (snapshot.agents.map AgentStatus.agentId).Nodup) {report : AgentStatus}
    (member : report ∈ snapshot.agents) : snapshot.agent? report.agentId = some report := by
  have there : (snapshot.agent? report.agentId).isSome :=
    List.find?_isSome.mpr ⟨report, member, by simp⟩
  obtain ⟨found, same⟩ := Option.isSome_iff_exists.mp there
  have listed := List.mem_of_find?_eq_some same
  have id : found.agentId = report.agentId := by simpa using List.find?_some same
  rw [same, List.inj_on_of_nodup_map apart listed member id]

/-- An echo, and beside it a composite of another echo, with ids for the two. -/
def echoBesideNested (beside nested : String) : ChainLayout :=
  let inner : ChainLayout := { processors := [{ agentId := nested, agentType := "echo" }] }
  { processors := [{ agentId := beside, agentType := "echo" },
      { agentId := "composite", agentType := "composite-agent",
        configuration := .ofJson (toDocument inner) }] }

/-- The id of the nested echo may be that of the one beside its composite. -/
theorem echoBesideNested_wellFormed {beside nested : String} (apart : beside ≠ "composite") :
    WellFormed (echoBesideNested beside nested) ∧
      (echoBesideNested beside nested).shownIds = [beside, nested] := by
  let echo (agentId : String) : AgentDefinition := { agentId, agentType := "echo" }
  let inner : ChainLayout := { processors := [echo nested] }
  let composite : AgentDefinition :=
    { agentId := "composite", agentType := "composite-agent",
      configuration := .ofJson (toDocument inner) }
  have read : ChainLayout.ofConfiguration composite.configuration = .ok inner :=
    inner.ofConfiguration_written
  have known : ({ name := "echo", component := .processor } : LeafType) ∈ Catalog.leafTypes := by
    simp [Catalog.leafTypes]
  have echoes (agentId : String) : Fits .processor (echo agentId) := Fits.leaf known rfl trivial
  have inside : WellFormed inner :=
    .intro (fun place member => List.mem_singleton.mp member ▸ echoes nested) (List.nodup_singleton _)
  have other : "echo" ≠ "composite-agent" := by decide
  have plain (agentId : String) : (echo agentId).shownIds = [agentId] :=
    AgentDefinition.shownIds_leaf other
  have within : composite.shownIds = inner.shownIds := AgentDefinition.shownIds_composite rfl read
  constructor
  · refine .intro (fun place member => ?_) (List.nodup_cons.mpr ⟨?_, List.nodup_singleton _⟩)
    · rcases List.mem_pair.mp member with rfl | rfl
      · exact echoes beside
      · exact .composite rfl read inside
    · exact fun same => apart (List.mem_singleton.mp same)
  · change [echo beside, composite].flatMap AgentDefinition.shownIds = _
    simp [plain, within, ChainLayout.shownIds, ChainLayout.definitions, inner]

theorem echoBesideNested_accepted {registries : Registries StockAgent} {key : RegistryKey}
    (opened : Catalog.Open registries key) {beside nested : String} (apart : beside ≠ "composite")
    (startedAt : Instant) (world : Environment) :
    let layout := echoBesideNested beside nested
    let result := ((Chain.ofLayout registries key layout startedAt).run.run world).value
    ∃ chain, result = .ok chain ∧ chain.status.map AgentStatus.agentId = [beside, nested] := by
  obtain ⟨wellFormed, shown⟩ := @echoBesideNested_wellFormed beside nested apart
  obtain ⟨chain, after, outcome⟩ := accepted_of_wellFormed opened wellFormed startedAt world
  have ids := (ofLayout_shows opened _ outcome).status
  exact ⟨chain, congrArg Prod.fst outcome, ids.trans shown⟩

/-- With the types of the catalog, the reports of a chain come under the ids of the definitions in its
layout that are not composites, at all levels in their order, whatever batches it has processed, and every
failure is blamed on one of these ids. If none of them is repeated then an id finds the one report that
has it, and so does the blame for a failure. -/
theorem leaf_ids_identify_reports (before : Registries StockAgent) (layout : ChainLayout)
    (startedAt : Instant) (world : Environment) :
    let key := before.create.2
    let registries := before.create.1.registerAll key (Catalog.builtins ++ Catalog.testAgents)
    let result := ((Chain.ofLayout registries key layout startedAt).run.run world).value
    ∀ chain, result = .ok chain → ∀ batches (later : Environment) now,
      let done := (chain.processAll batches).run later
      let snapshot := done.value.1.snapshot now
      snapshot.agents.map AgentStatus.agentId = layout.shownIds ∧
      (∀ results ∈ done.value.2, ∀ entry ∈ results, ∀ error, entry.outcome = .failed error →
        error.agentId ∈ layout.shownIds) ∧
      (layout.shownIds.Nodup →
        (∀ report ∈ snapshot.agents, snapshot.agent? report.agentId = some report) ∧
        ∀ agentId ∈ layout.shownIds, ∃! report, report ∈ snapshot.agents ∧ report.agentId = agentId) := by
  intro key registries result chain built batches later now done snapshot
  have outcome : (Chain.ofLayout registries key layout startedAt).outcome world =
      (.ok chain, ((Chain.ofLayout registries key layout startedAt).run.run world).world) :=
    Prod.ext built rfl
  have shows := ofLayout_shows (Catalog.open_create before) layout outcome
  obtain ⟨still, blamed⟩ := shows.processAll batches later
  have status : snapshot.agents.map AgentStatus.agentId = layout.shownIds := still.status
  refine ⟨status, blamed, fun apart => ?_⟩
  rw [← status] at apart ⊢
  refine ⟨fun report member => StatusSnapshot.agent?_of_nodup apart member, fun agentId shown => ?_⟩
  obtain ⟨report, member, rfl⟩ := List.mem_map.mp shown
  refine ⟨report, ⟨member, rfl⟩, fun other ⟨listed, same⟩ => ?_⟩
  exact List.inj_on_of_nodup_map apart listed member same

/-- Two echoes of different ids, one of them inside a composite, report under these, and each id finds one
report. -/
theorem leaf_ids_identify_nested_echo :
    let before : Registries StockAgent := {}
    let registries := before.create.1.registerAll before.create.2 (Catalog.builtins ++ Catalog.testAgents)
    let world : Environment := { clock := ⟨0, 0⟩ }
    let layout := echoBesideNested "a" "b"
    let result := ((Chain.ofLayout registries before.create.2 layout ⟨0, 0⟩).run.run world).value
    ∃ chain, result = .ok chain ∧ layout.shownIds.Nodup ∧
      let done := (chain.processAll [[⟨0, .ofText "r"⟩]]).run world
      let snapshot := done.value.1.snapshot ⟨0, 0⟩
      snapshot.agents.map AgentStatus.agentId = ["a", "b"] ∧
        ∃! report, report ∈ snapshot.agents ∧ report.agentId = "b" := by
  intro before registries world layout result
  have shown : layout.shownIds = ["a", "b"] := (echoBesideNested_wellFormed (by decide)).2
  have apart : layout.shownIds.Nodup := by
    rw [shown]
    decide
  obtain ⟨chain, accepted, -⟩ :=
    echoBesideNested_accepted (Catalog.open_create before) (by decide : "a" ≠ "composite") ⟨0, 0⟩ world
  obtain ⟨status, -, found⟩ := leaf_ids_identify_reports before layout ⟨0, 0⟩ world chain accepted
    [[⟨0, .ofText "r"⟩]] world ⟨0, 0⟩
  refine ⟨chain, accepted, apart, status.trans shown, (found apart).2 "b" ?_⟩
  rw [shown]
  decide

/-- That a layout is accepted does not keep the ids in the status of its chain apart: an id that is used
beside a composite and again inside it is not noticed, and two agents report under it. -/
theorem ids_repeat_across_levels :
    let before : Registries StockAgent := {}
    let registries := before.create.1.registerAll before.create.2 (Catalog.builtins ++ Catalog.testAgents)
    let world : Environment := { clock := ⟨0, 0⟩ }
    let layout := echoBesideNested "a" "a"
    let result := ((Chain.ofLayout registries before.create.2 layout ⟨0, 0⟩).run.run world).value
    ∃ chain, result = .ok chain ∧ ¬(chain.status.map AgentStatus.agentId).Nodup := by
  intro before registries world layout result
  obtain ⟨chain, accepted, ids⟩ :=
    echoBesideNested_accepted (Catalog.open_create before) (by decide : "a" ≠ "composite") ⟨0, 0⟩ world
  exact ⟨chain, accepted, by rw [ids]; decide⟩

end Conveyor
