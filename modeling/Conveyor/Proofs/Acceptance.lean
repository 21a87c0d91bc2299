import Conveyor.Proofs.Catalog
import Conveyor.Proofs.Imitation
import Mathlib.Data.List.Nodup

/-! Which layouts become chains. A layout is well-formed if every definition in it fits its place, down
through the layouts of composites, and no two definitions side by side have the same id. With the types of
the catalog, `from_configuration` accepts the well-formed layouts and refuses all others; and the chain of a
layout has an agent for each definition, in its place and with its id. -/
namespace Conveyor

variable {ω σ α β γ : Type}

mutual

/-- A definition describes an agent that can stand for a component. -/
inductive Fits : Component → AgentDefinition → Prop where
  /-- The type is for the component, and takes the configuration. -/
  | leaf {type definition} (known : type ∈ Catalog.leafTypes) (named : definition.agentType = type.name)
      (accepted : type.accepts definition.configuration) : Fits type.component definition
  /-- The configuration is a layout that is well-formed itself. -/
  | composite {definition layout} (named : definition.agentType = "composite-agent")
      (read : ChainLayout.ofConfiguration definition.configuration = .ok layout)
      (inside : WellFormed layout) : Fits .processor definition

/-- Every definition of a layout fits its place, and no id is repeated. -/
inductive WellFormed : ChainLayout → Prop where
  | intro {layout : ChainLayout} (fit : ∀ place ∈ layout.placed, Fits place.1 place.2)
      (apart : (layout.definitions.map AgentDefinition.agentId).Nodup) : WellFormed layout

end

theorem wellFormed_iff {layout : ChainLayout} :
    WellFormed layout ↔ (∀ place ∈ layout.placed, Fits place.1 place.2) ∧
      (layout.definitions.map AgentDefinition.agentId).Nodup :=
  ⟨fun | .intro fit apart => ⟨fit, apart⟩, fun ⟨fit, apart⟩ => .intro fit apart⟩

theorem fits_composite_iff {component : Component} {definition : AgentDefinition}
    (named : definition.agentType = "composite-agent") :
    Fits component definition ↔ component = .processor ∧
      ∃ layout, ChainLayout.ofConfiguration definition.configuration = .ok layout ∧ WellFormed layout := by
  constructor
  · intro fits
    cases fits with
    | leaf known same => exact absurd (same.symm.trans named) (Catalog.names_leafTypes.2 _ known)
    | composite _ read inside => exact ⟨rfl, _, read, inside⟩
  · rintro ⟨rfl, layout, read, inside⟩
    exact .composite named read inside

theorem fits_leaf_iff {type : LeafType} (known : type ∈ Catalog.leafTypes) {component : Component}
    {definition : AgentDefinition} (named : type.name = definition.agentType) :
    Fits component definition ↔ component = type.component ∧ type.accepts definition.configuration := by
  constructor
  · intro fits
    cases fits with
    | leaf known' named' accepted =>
      cases List.inj_on_of_nodup_map Catalog.names_leafTypes.1 known' known (named'.symm.trans named.symm)
      exact ⟨rfl, accepted⟩
    | composite named' => exact absurd (named.trans named') (Catalog.names_leafTypes.2 _ known)
  · rintro ⟨rfl, accepted⟩
    exact .leaf known named.symm accepted

/-- The layout as a chain of definitions. -/
def ChainLayout.shape (layout : ChainLayout) : Chain AgentDefinition where
  source? := layout.source?
  processors := layout.processors
  sink? := layout.sink?

/-- An agent is what a definition describes: it has the id and the type, and a composite has the chain of
its layout, whose agents are what the definitions there describe. -/
inductive Realizes : AgentDefinition → Agent StockAgent → Prop where
  | leaf {definition agent} (agentId : Behaviour.agentId agent = definition.agentId)
      (agentType : Behaviour.agentType agent = definition.agentType)
      (plain : definition.agentType ≠ "composite-agent") : Realizes definition (.leaf agent)
  | composite {definition identity registry layout chain} (agentId : identity.agentId = definition.agentId)
      (agentType : identity.agentType = definition.agentType)
      (read : ChainLayout.ofConfiguration definition.configuration = .ok layout)
      (source : Option.Rel Realizes layout.source? chain.source?)
      (processors : List.Forall₂ Realizes layout.processors chain.processors)
      (sink : Option.Rel Realizes layout.sink? chain.sink?) :
      Realizes definition (.composite identity registry chain)

theorem Realizes.id {definition : AgentDefinition} {agent : Agent StockAgent}
    (realizes : Realizes definition agent) : Behaviour.agentId agent = definition.agentId := by
  cases realizes <;> assumption

namespace Attempt

/-- An attempt succeeds just when it should, with a value as it should be, and otherwise ends in an error
that is raised. -/
structure Decides (attempt : Attempt ω β) (accepted : Prop) (made : β → Prop) : Prop where
  ok : ∀ {world value after}, attempt.outcome world = (.ok value, after) → accepted ∧ made value
  error : ∀ {world fault after}, attempt.outcome world = (.error fault, after) →
    ¬accepted ∧ ∃ error, fault = .raised error

variable {accepted accepted' : Prop} {made : β → Prop} {made' : γ → Prop}

theorem Decides.of_cases {attempt : Attempt ω β} (each : ∀ world,
      (∃ value after, attempt.outcome world = (.ok value, after) ∧ accepted ∧ made value) ∨
        ∃ error after, attempt.outcome world = (.error (.raised error), after) ∧ ¬accepted) :
    Decides attempt accepted made := by
  constructor
  · intro world value after done
    obtain ⟨_, _, same, good⟩ | ⟨_, _, same, -⟩ := each world <;> rw [done] at same <;> cases same
    exact good
  · intro world fault after done
    obtain ⟨_, _, same, -⟩ | ⟨error, _, same, refused⟩ := each world <;> rw [done] at same <;> cases same
    exact ⟨refused, error, rfl⟩

theorem Decides.pure {value : β} (good : made value) : Decides (pure value : Attempt ω β) True made where
  ok := by
    rintro world _ after ⟨⟩
    exact ⟨trivial, good⟩
  error := by
    rintro world fault after ⟨⟩

theorem Decides.congr {attempt : Attempt ω β} (decides : Decides attempt accepted made)
    (same : accepted ↔ accepted') : Decides attempt accepted' made :=
  propext same ▸ decides

theorem Decides.bind {first : Attempt ω β} {next : β → Attempt ω γ} (decides : Decides first accepted made)
    (rest : ∀ value, made value → Decides (next value) accepted' made') :
    Decides (first >>= next) (accepted ∧ accepted') made' where
  ok := by
    intro world value after done
    obtain ⟨middle, between, here, there⟩ := outcome_bind_ok_iff.mp done
    obtain ⟨mine, good⟩ := decides.ok here
    obtain ⟨yours, final⟩ := (rest middle good).ok there
    exact ⟨⟨mine, yours⟩, final⟩
  error := by
    intro world fault after failed
    obtain here | ⟨middle, between, here, there⟩ := outcome_bind_error_iff.mp failed
    · obtain ⟨refused, raised⟩ := decides.error here
      exact ⟨fun both => refused both.1, raised⟩
    · obtain ⟨refused, raised⟩ := (rest middle (decides.ok here).2).error there
      exact ⟨fun both => refused both.2, raised⟩

theorem Decides.mapM {attempt : α → Attempt ω β} {accepted : α → Prop} {made : α → β → Prop}
    {items : List α} (each : ∀ item ∈ items, Decides (attempt item) (accepted item) (made item)) :
    Decides (items.mapM attempt) (∀ item ∈ items, accepted item) (List.Forall₂ made items) := by
  induction items with
  | nil =>
    rw [List.mapM_nil]
    exact (Decides.pure .nil).congr (by simp)
  | cons item rest ih =>
    obtain ⟨first, others⟩ := List.forall_mem_cons.mp each
    rw [List.mapM_cons]
    refine (first.bind fun value good => (ih others).bind fun values goods =>
      Decides.pure (.cons good goods)).congr ?_
    simp

end Attempt

section Shape

variable {relation : α → β → Prop}

theorem forall₂_append_split {front back : List α} {items : List β}
    (related : List.Forall₂ relation (front ++ back) items) : ∃ mine yours, items = mine ++ yours ∧
      List.Forall₂ relation front mine ∧ List.Forall₂ relation back yours := by
  induction front generalizing items with
  | nil => exact ⟨[], items, rfl, .nil, related⟩
  | cons item front ih =>
    cases related with
    | cons first rest =>
      obtain ⟨mine, yours, rfl, here, there⟩ := ih rest
      exact ⟨_ :: mine, yours, rfl, .cons first here, there⟩

theorem rel_head? {side? : Option α} {items : List β}
    (related : List.Forall₂ relation side?.toList items) : Option.Rel relation side? items.head? := by
  cases side? with
  | none =>
    cases related
    exact .none
  | some item =>
    cases related with
    | cons first _ => exact .some first

/-- Agents that are constructed in the order of a layout stand in its shape. -/
theorem ChainLayout.related_filled {relation : AgentDefinition → α → Prop} {layout : ChainLayout}
    {agents : List α} (each : List.Forall₂ (fun place => relation place.2) layout.placed agents) :
    Chain.Related relation layout.shape (layout.filled agents) := by
  have definitions : List.Forall₂ relation layout.definitions agents := by
    rw [← layout.map_snd_placed, List.forall₂_map_left_iff]
    exact each
  obtain ⟨front, sinks, rfl, before, last⟩ := forall₂_append_split definitions
  obtain ⟨sources, processors, rfl, first, between⟩ := forall₂_append_split before
  rw [Chain.filled_append first.length_eq.symm last.length_eq.symm]
  exact ⟨rel_head? first, between, rel_head? last, rfl⟩

end Shape

section Catalog

open Agent Attempt

variable {registries : Registries StockAgent} {key : RegistryKey}

theorem leaf_decides {type : LeafType} (known : type ∈ Catalog.leafTypes) {definition : AgentDefinition}
    (named : type.name = definition.agentType) {constructor : Constructor StockAgent}
    (found : (registries.table key).get? definition.agentType = some constructor)
    (makes : type.MadeBy constructor) (startedAt : Instant) (component : Component) :
    Decides (constructAs registries key startedAt component definition) (Fits component definition)
      (Realizes definition) := by
  refine (Decides.of_cases fun world => ?_).congr (fits_leaf_iff known named).symm
  obtain ⟨agent, made, takes⟩ :=
    makes key ⟨definition.agentId, definition.agentType, startedAt⟩ (Clock.now world)
  have reply := takes definition.configuration world
  rw [constructAs_outcome, construct_outcome, made?, found, Option.map_some, made]
  dsimp only
  rw [init_leaf_effect]
  generalize (Configurable.init definition.configuration agent).effect world = called at reply
  obtain ⟨⟨agent, fault | _⟩, after⟩ := called
  · obtain ⟨error, rfl⟩ := reply.raised _ rfl
    refine .inr ⟨_, _, rfl, fun fits => ?_⟩
    cases reply.accepted.mpr fits.2
  · have accepted := reply.accepted.mp rfl
    have role : (Behaviour.capabilities (Agent.leaf agent)).allow component =
      decide (component = type.component) := reply.bears.fits component
    have plain : definition.agentType ≠ "composite-agent" := by
      rw [← named]
      exact Catalog.names_leafTypes.2 type known
    have realizes : Realizes definition (.leaf agent) :=
      .leaf reply.bears.agentId ((reply.bears.agentType named.symm).trans named) plain
    dsimp only [constructed, Reply.mapAgent]
    rw [role]
    by_cases fit : component = type.component
    · exact .inl ⟨_, after, by rw [if_pos (decide_eq_true fit)], ⟨fit, accepted⟩, realizes⟩
    · exact .inr ⟨_, after, by rw [if_neg (by simpa using fit)], fun fits => fit fits.1⟩

/-- When all agents of a layout are there, only a repeated id is in the way of the chain. -/
theorem ofAgents_decides {layout : ChainLayout} {agents : List (Agent StockAgent)}
    (made : List.Forall₂ (fun place => Realizes place.2) layout.placed agents) :
    Decides (Chain.ofAgents layout agents) (layout.definitions.map AgentDefinition.agentId).Nodup
      (Chain.Related Realizes layout.shape) := by
  have ids : agents.map Behaviour.agentId = layout.definitions.map AgentDefinition.agentId := by
    rw [← layout.map_snd_placed, List.map_map, ← List.forall₂_eq_eq_eq, List.forall₂_map_left_iff,
      List.forall₂_map_right_iff]
    exact made.flip.imp fun agent place realizes => realizes.id
  unfold Chain.ofAgents
  rw [ids]
  cases repeated : Chain.firstRepeated [] (layout.definitions.map AgentDefinition.agentId) with
  | none =>
    have apart := Chain.firstRepeated_eq_none_iff.mp repeated
    exact (Decides.pure (ChainLayout.related_filled made)).congr (by simpa using apart)
  | some agentId =>
    refine .of_cases fun world => .inr ⟨_, world, rfl, fun apart => ?_⟩
    rw [Chain.firstRepeated_eq_none_iff.mpr apart] at repeated
    cases repeated

section Definition

variable {definition : AgentDefinition} (inside : ∀ layout startedAt,
  ChainLayout.ofConfiguration definition.configuration = .ok layout →
    Decides (Chain.ofLayout registries key layout startedAt) (WellFormed layout)
      (Chain.Related Realizes layout.shape))

include inside

/-- A composite is as good as the layout that it is given, and stands for processors only. -/
theorem composite_decides (named : definition.agentType = "composite-agent")
    (found : (registries.table key).get? definition.agentType = some Catalog.composites)
    (startedAt : Instant) (component : Component) :
    Decides (constructAs registries key startedAt component definition) (Fits component definition)
      (Realizes definition) := by
  refine (Decides.of_cases fun world => ?_).congr (fits_composite_iff named).symm
  rw [constructAs_outcome, construct_outcome, made?, found]
  dsimp only [Option.map_some, Catalog.composites, emptyComposite]
  rw [init_composite_effect]
  cases read : ChainLayout.ofConfiguration definition.configuration with
  | error error =>
    refine .inr ⟨_, world, rfl, ?_⟩
    rintro ⟨-, _, impossible, -⟩
    cases impossible
  | ok layout =>
    dsimp only
    cases built : (Chain.ofLayout registries key layout startedAt).outcome world with
    | mk result after =>
      cases result with
      | error fault =>
        obtain ⟨refused, error, rfl⟩ := (inside layout startedAt read).error built
        refine .inr ⟨_, after, rfl, ?_⟩
        rintro ⟨-, _, same, wellFormed⟩
        cases same
        exact refused wellFormed
      | ok chain =>
        obtain ⟨wellFormed, shape⟩ := (inside layout startedAt read).ok built
        have realizes : Realizes definition
            (.composite ⟨definition.agentId, definition.agentType, startedAt⟩ key chain) :=
          .composite rfl rfl read shape.source shape.processors shape.sink
        cases component with
        | processor => exact .inl ⟨_, after, rfl, ⟨rfl, layout, rfl, wellFormed⟩, realizes⟩
        | source | sink =>
          refine .inr ⟨_, after, rfl, ?_⟩
          rintro ⟨impossible, -⟩
          cases impossible

theorem constructAs_decides (opened : Catalog.Open registries key) (startedAt : Instant)
    (component : Component) :
    Decides (constructAs registries key startedAt component definition) (Fits component definition)
      (Realizes definition) := by
  obtain ⟨named, found⟩ | ⟨type, known, named, constructor, found, made⟩ | ⟨notComposite, notLeaf, found⟩ :=
    opened.lookup definition.agentType
  · exact composite_decides inside named found startedAt component
  · exact leaf_decides known named found made startedAt component
  · refine .of_cases fun world => ?_
    rw [constructAs_outcome, construct_outcome, made?, found]
    refine .inr ⟨_, world, rfl, fun fits => ?_⟩
    cases fits with
    | leaf known named => exact notLeaf _ known named.symm
    | composite named => exact notComposite named

end Definition

/-- Construction accepts the well-formed layouts, and the chain has the shape of the layout. -/
theorem ofLayout_decides (opened : Catalog.Open registries key) (layout : ChainLayout)
    (startedAt : Instant) :
    Decides (Chain.ofLayout registries key layout startedAt) (WellFormed layout)
      (Chain.Related Realizes layout.shape) := by
  induction layout using ChainLayout.inductionOn generalizing startedAt with
  | step layout inside =>
    have each : Decides (Chain.constructEach (constructAs registries key startedAt) layout.placed)
        (∀ place ∈ layout.placed, Fits place.1 place.2)
        (List.Forall₂ (fun place => Realizes place.2) layout.placed) := by
      refine Decides.mapM fun place member => ?_
      have definition : place.2 ∈ layout.definitions := by
        rw [← layout.map_snd_placed]
        exact List.mem_map_of_mem member
      exact constructAs_decides (fun inner startedAt read => inside _ definition inner read startedAt)
        opened startedAt place.1
    have whole := (each.bind fun agents made => ofAgents_decides made).congr wellFormed_iff.symm
    constructor
    · intro world chain after done
      rw [Chain.ofLayout, Chain.ofLayoutWith_outcome] at done
      exact whole.ok done
    · intro world fault after done
      rw [Chain.ofLayout, Chain.ofLayoutWith_outcome] at done
      exact whole.error done

end Catalog

/-- With the types of the catalog in a new registry, a layout becomes a chain exactly if it is well-formed,
and the chain has an agent for each definition, in its place and with its id, also inside composites. A
layout that is not well-formed is refused with an error, and no construction is ever torn down. -/
theorem well_formed_layouts_are_accepted (before : Registries StockAgent) (layout : ChainLayout)
    (startedAt : Instant) (world : Environment) :
    let key := before.create.2
    let registries := before.create.1.registerAll key (Catalog.builtins ++ Catalog.testAgents)
    let result := ((Chain.ofLayout registries key layout startedAt).run.run world).value
    ((∃ chain, result = .ok chain) ↔ WellFormed layout) ∧
      (∀ chain, result = .ok chain → Chain.Related Realizes layout.shape chain) ∧
      ∀ fault, result = .error fault → ∃ error, fault = .raised error := by
  intro key registries result
  have decides := ofLayout_decides (Catalog.open_create before) layout startedAt
  have ended {value} (same : result = value) :
      (Chain.ofLayout registries key layout startedAt).outcome world =
        (value, ((Chain.ofLayout registries key layout startedAt).run.run world).world) :=
    Prod.ext same rfl
  refine ⟨⟨?_, fun wellFormed => ?_⟩, fun chain done => ?_, fun fault failed => ?_⟩
  · rintro ⟨chain, done⟩
    exact (decides.ok (ended done)).1
  · cases done : result with
    | ok chain => exact ⟨chain, rfl⟩
    | error fault => exact absurd wellFormed (decides.error (ended done)).1
  · exact (decides.ok (ended done)).2
  · exact (decides.error (ended failed)).2

end Conveyor
