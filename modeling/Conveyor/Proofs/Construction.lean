import Conveyor.Proofs.NestedLayouts
import Conveyor.Proofs.Stages
import Conveyor.Registry
import Mathlib.Data.List.Forall2

/-! How construction goes (`construct`, and `from_configuration` for a chain). A configuration is given at a
level above its depth, and since layouts get less deep towards the inside the level never runs out: a
composite simply builds the chain of its layout. The agents of a layout are constructed one after the other,
up to the first that fails, and their ids are compared when all of them are there. What an attempt comes to
is its value or fault, with the world that it leaves. -/
namespace Conveyor

variable {ω σ α β γ : Type}

section Levels

variable [Behaviour ω α]

theorem Chain.ofLayoutWith_congr {construct other : Component → AgentDefinition → Attempt ω α}
    {layout : ChainLayout} (same : ∀ definition ∈ layout.definitions, ∀ component,
      construct component definition = other component definition) :
    Chain.ofLayoutWith construct layout = Chain.ofLayoutWith other layout := by
  obtain ⟨source?, processors, sink?⟩ := layout
  have inside : ∀ definitions : List AgentDefinition, (∀ definition ∈ definitions,
      construct .processor definition = other .processor definition) →
        definitions.mapM (construct .processor) = definitions.mapM (other .processor) := by
    intro definitions same
    induction definitions with
    | nil => rfl
    | cons definition rest ih =>
      obtain ⟨first, others⟩ := List.forall_mem_cons.mp same
      rw [List.mapM_cons, List.mapM_cons, first, ih others]
  simp only [ChainLayout.definitions, List.forall_mem_append] at same
  obtain ⟨⟨source, processor⟩, sink⟩ := same
  have sources : source?.mapM (construct .source) = source?.mapM (other .source) := by
    cases source? with
    | none => rfl
    | some definition => simp only [Option.mapM_some, source definition (by simp) .source]
  have sinks : sink?.mapM (construct .sink) = sink?.mapM (other .sink) := by
    cases sink? with
    | none => rfl
    | some definition => simp only [Option.mapM_some, sink definition (by simp) .sink]
  unfold Chain.ofLayoutWith
  rw [sources, sinks, inside processors fun definition member => processor definition member .processor]

end Levels

namespace Agent

variable [Behaviour ω σ] [Clock ω] (registries : Registries σ)

theorem initComposite_congr {configure other : Configurer ω σ} {configuration : Configuration}
    (same : ∀ inner : Configuration, inner.depth < configuration.depth → configure inner = other inner)
    (identity : Identity) (registry : RegistryKey) (chain : Chain (Agent σ)) :
    initComposite configure registries configuration identity registry chain =
      initComposite other registries configuration identity registry chain := by
  unfold initComposite
  cases read : ChainLayout.ofConfiguration configuration with
  | error error => rfl
  | ok layout =>
    have built : Chain.ofLayoutWith (constructFor configure registries registry identity.startedAt) layout =
        Chain.ofLayoutWith (constructFor other registries registry identity.startedAt) layout :=
      Chain.ofLayoutWith_congr fun definition member component => by
        unfold constructFor constructBy
        rw [same _ (depth_of_layout read member)]
    simp only [built]

variable [Configurable ω σ]

theorem initWithin_leaf (level : Nat) (configuration : Configuration) (agent : σ) :
    initWithin registries level configuration (.leaf agent) =
      (do return (← Configurable.init configuration agent).mapAgent .leaf :
        Activity ω (Reply (Agent σ) Unit)) := by
  cases level <;> rfl

/-- All levels above the depth of a configuration do the same. -/
theorem initWithin_enough {configuration : Configuration} {level other : Nat}
    (enough : configuration.depth < level) (enough' : configuration.depth < other) :
    (initWithin registries level configuration : Agent σ → Activity ω _) =
      initWithin registries other configuration := by
  induction level generalizing other configuration with
  | zero => cases enough
  | succ level ih =>
    cases other with
    | zero => cases enough'
    | succ other =>
      funext agent
      cases agent with
      | leaf agent => rw [initWithin_leaf, initWithin_leaf]
      | composite identity registry chain =>
        refine initComposite_congr registries (fun inner less => ?_) identity registry chain
        exact ih (by omega) (by omega)

/-- A leaf takes its configuration itself. -/
theorem init_leaf (configuration : Configuration) (agent : σ) :
    init registries configuration (.leaf agent) =
      (do return (← Configurable.init configuration agent).mapAgent .leaf :
        Activity ω (Reply (Agent σ) Unit)) :=
  initWithin_leaf ..

/-- A composite takes its configuration by constructing agents like itself. -/
theorem init_composite (configuration : Configuration) (identity : Identity) (registry : RegistryKey)
    (chain : Chain (Agent σ)) :
    init registries configuration (.composite identity registry chain) =
      (initComposite (init registries) registries configuration identity registry chain :
        Activity ω (Reply (Agent σ) Unit)) := by
  refine initComposite_congr registries (fun inner less => ?_) identity registry chain
  exact initWithin_enough registries less (Nat.lt_succ_self _)

end Agent

namespace Attempt

/-- How an attempt ends that is made in a world, with the world that it leaves. -/
def outcome (attempt : Attempt ω β) (world : ω) : Except (Fault FlowError) β × ω :=
  attempt.run.effect world

@[simp] theorem outcome_pure (value : β) (world : ω) :
    outcome (pure value) world = (.ok value, world) := rfl

@[simp] theorem outcome_of (activity : Activity ω β) (world : ω) :
    outcome (of activity) world = (.ok (activity.effect world).1, (activity.effect world).2) := rfl

@[simp] theorem outcome_bind (first : Attempt ω β) (next : β → Attempt ω γ) (world : ω) :
    outcome (first >>= next) world =
      match first.outcome world with
      | (.ok value, after) => (next value).outcome after
      | (.error fault, after) => (.error fault, after) := by
  simp only [outcome, ExceptT.run_bind, Activity.effect_bind]
  generalize (ExceptT.run first).effect world = done
  obtain ⟨_ | _, after⟩ := done <;> rfl

theorem outcome_bind_ok_iff {first : Attempt ω β} {next : β → Attempt ω γ} {world after : ω} {value : γ} :
    outcome (first >>= next) world = (.ok value, after) ↔ ∃ middle between,
      first.outcome world = (.ok middle, between) ∧ (next middle).outcome between = (.ok value, after) := by
  rw [outcome_bind]
  generalize first.outcome world = done
  obtain ⟨_ | _, between⟩ := done <;> simp [and_assoc]

theorem outcome_bind_error_iff {first : Attempt ω β} {next : β → Attempt ω γ} {world after : ω}
    {fault : Fault FlowError} :
    outcome (first >>= next) world = (.error fault, after) ↔
      first.outcome world = (.error fault, after) ∨ ∃ middle between,
        first.outcome world = (.ok middle, between) ∧
          (next middle).outcome between = (.error fault, after) := by
  rw [outcome_bind]
  generalize first.outcome world = done
  obtain ⟨_ | _, between⟩ := done <;> simp [and_assoc]

theorem outcome_bind_congr {first : Attempt ω β} {next other : β → Attempt ω γ} {world : ω}
    (same : ∀ value between, first.outcome world = (.ok value, between) →
      (next value).outcome between = (other value).outcome between) :
    outcome (first >>= next) world = outcome (first >>= other) world := by
  rw [outcome_bind, outcome_bind]
  split
  · next value between done => exact same value between done
  · rfl

/-- Attempts in order that succeed end in one value each. -/
theorem outcome_mapM_ok {attempt : α → Attempt ω β} {items : List α} {world after : ω} {values : List β}
    (done : outcome (items.mapM attempt) world = (.ok values, after)) :
    List.Forall₂ (fun item value => ∃ before between, (attempt item).outcome before = (.ok value, between))
      items values := by
  induction items generalizing world values with
  | nil =>
    cases done
    exact .nil
  | cons item rest ih =>
    rw [List.mapM_cons, outcome_bind_ok_iff] at done
    obtain ⟨value, between, first, done⟩ := done
    rw [outcome_bind_ok_iff] at done
    obtain ⟨others, _, more, done⟩ := done
    cases done
    exact .cons ⟨world, between, first⟩ (ih more)

/-- Attempts in order fail where the first of them does, after those in front of it. -/
theorem outcome_mapM_error_iff {attempt : α → Attempt ω β} {items : List α} {world after : ω}
    {fault : Fault FlowError} :
    outcome (items.mapM attempt) world = (.error fault, after) ↔ ∃ front item back values between,
      items = front ++ item :: back ∧ outcome (front.mapM attempt) world = (.ok values, between) ∧
        (attempt item).outcome between = (.error fault, after) := by
  induction items generalizing world with
  | nil => simp
  | cons item rest ih =>
    rw [List.mapM_cons, outcome_bind_error_iff]
    constructor
    · rintro (failed | ⟨value, between, done, failed⟩)
      · exact ⟨[], item, rest, [], world, rfl, rfl, failed⟩
      · rw [outcome_bind_error_iff] at failed
        rcases failed with failed | ⟨_, _, _, impossible⟩
        · obtain ⟨front, other, back, values, later, rfl, before, there⟩ := ih.mp failed
          refine ⟨item :: front, other, back, value :: values, later, rfl, ?_, there⟩
          rw [List.mapM_cons, outcome_bind_ok_iff]
          refine ⟨value, between, done, ?_⟩
          rw [outcome_bind_ok_iff]
          exact ⟨values, later, before, rfl⟩
        · cases impossible
    · rintro ⟨front, other, back, values, later, same, before, there⟩
      cases front with
      | nil =>
        cases same
        cases before
        exact .inl there
      | cons first front =>
        cases same
        rw [List.mapM_cons, outcome_bind_ok_iff] at before
        obtain ⟨value, between, done, before⟩ := before
        rw [outcome_bind_ok_iff] at before
        obtain ⟨others, _, before, done'⟩ := before
        cases done'
        refine .inr ⟨value, between, done, ?_⟩
        rw [outcome_bind_error_iff]
        exact .inl (ih.mpr ⟨front, other, back, others, _, rfl, before, there⟩)

end Attempt

namespace ChainLayout

/-- The definitions of a layout in order, each with the component that it describes. -/
def placed (layout : ChainLayout) : List (Component × AgentDefinition) :=
  layout.source?.toList.map (.source, ·) ++ layout.processors.map (.processor, ·) ++
    layout.sink?.toList.map (.sink, ·)

/-- The chain in which agents stand as their definitions stand in the layout. -/
def filled (layout : ChainLayout) (agents : List α) : Chain α :=
  let behind := if layout.source?.isSome then agents.tail else agents
  { source? := if layout.source?.isSome then agents.head? else none
    processors := if layout.sink?.isSome then behind.dropLast else behind
    sink? := if layout.sink?.isSome then behind.getLast? else none }

theorem map_snd_placed (layout : ChainLayout) : layout.placed.map Prod.snd = layout.definitions := by
  simp [placed, definitions, Function.comp_def]

theorem mem_definitions_of_placed {layout : ChainLayout} {front back : List (Component × AgentDefinition)}
    {component : Component} {definition : AgentDefinition}
    (place : layout.placed = front ++ (component, definition) :: back) :
    definition ∈ layout.definitions := by
  rw [← map_snd_placed, place, List.map_append]
  exact List.mem_append_right _ List.mem_cons_self

end ChainLayout

namespace Chain

/-- The repeated text that is found is the first that stands behind another of itself. -/
theorem firstRepeated_eq_some_iff {seen texts : List String} {text : String} :
    firstRepeated seen texts = some text ↔ ∃ front back, texts = front ++ text :: back ∧
      (text ∈ seen ∨ text ∈ front) ∧ front.Nodup ∧ ∀ other ∈ front, other ∉ seen := by
  induction texts generalizing seen with
  | nil => simp [firstRepeated]
  | cons first rest ih =>
    rw [firstRepeated]
    by_cases repeats : first ∈ seen
    · rw [if_pos (List.contains_iff_mem.mpr repeats)]
      constructor
      · rintro ⟨⟩
        exact ⟨[], rest, rfl, .inl repeats, .nil, by simp⟩
      · rintro ⟨front, back, same, -, -, new⟩
        cases front with
        | nil =>
          cases same
          rfl
        | cons other front =>
          cases same
          exact absurd repeats (new _ List.mem_cons_self)
    · rw [if_neg (by simpa using repeats), ih]
      constructor
      · rintro ⟨front, back, rfl, repeated, apart, new⟩
        exact ⟨first :: front, back, rfl, by grind, by grind, by grind⟩
      · rintro ⟨front, back, same, repeated, apart, new⟩
        cases front with
        | nil =>
          cases same
          simp [repeats] at repeated
        | cons other front =>
          cases same
          exact ⟨front, back, rfl, by grind, by grind, by grind⟩

theorem firstRepeated_eq_none_iff {texts : List String} : firstRepeated [] texts = none ↔ texts.Nodup := by
  have general : ∀ (texts seen : List String),
      firstRepeated seen texts = none ↔ texts.Nodup ∧ ∀ text ∈ texts, text ∉ seen := by
    intro texts
    induction texts with
    | nil => simp [firstRepeated]
    | cons first rest ih =>
      intro seen
      rw [firstRepeated]
      split <;> grind
  simpa using general texts []

/-- Constructs agents in order, each for its component. -/
def constructEach (construct : Component → AgentDefinition → Attempt ω α)
    (places : List (Component × AgentDefinition)) : Attempt ω (List α) :=
  places.mapM fun place => construct place.1 place.2

/-- The chain of the agents of a layout, unless an id is repeated. -/
def ofAgents [Behaviour ω α] (layout : ChainLayout) (agents : List α) : Attempt ω (Chain α) :=
  match firstRepeated [] (agents.map Behaviour.agentId) with
  | some agentId => Attempt.refuse (duplicateId agentId)
  | none => return layout.filled agents

section Layouts

variable (construct : Component → AgentDefinition → Attempt ω α)

/-- Agents in their three groups stand in the chain as in the layout. -/
theorem filled_append {layout : ChainLayout} {sources processors sinks : List α}
    (source : sources.length = layout.source?.toList.length)
    (sink : sinks.length = layout.sink?.toList.length) :
    layout.filled (sources ++ processors ++ sinks) =
      { source? := sources.head?, processors, sink? := sinks.head? } := by
  obtain ⟨source?, _, sink?⟩ := layout
  cases source? <;> cases sink? <;>
    simp_all [ChainLayout.filled, List.length_eq_one_iff] <;> grind

theorem mapM_end (component : Component) (side? : Option AgentDefinition) :
    side?.mapM (construct component) = (do
      return (← constructEach construct (side?.toList.map (component, ·))).head? :
        Attempt ω (Option α)) := by
  cases side? <;> simp [constructEach]

theorem constructEach_length {component : Component} {definitions : List AgentDefinition}
    {world after : ω} {agents : List α}
    (done : (constructEach construct (definitions.map (component, ·))).outcome world =
      (.ok agents, after)) : agents.length = definitions.length := by
  rw [← (Attempt.outcome_mapM_ok done).length_eq, List.length_map]

variable [Behaviour ω α]

/-- The agents of a layout are constructed one after the other, and only then compared. -/
theorem ofLayoutWith_outcome (layout : ChainLayout) (world : ω) :
    (ofLayoutWith construct layout).outcome world =
      Attempt.outcome (constructEach construct layout.placed >>= ofAgents layout) world := by
  have processors : layout.processors.mapM (construct .processor) =
      constructEach construct (layout.processors.map (.processor, ·)) := by
    rw [constructEach, List.mapM_map]
    rfl
  have groups : constructEach construct layout.placed = (do
      let sources ← constructEach construct (layout.source?.toList.map (.source, ·))
      let processors ← constructEach construct (layout.processors.map (.processor, ·))
      let sinks ← constructEach construct (layout.sink?.toList.map (.sink, ·))
      return sources ++ processors ++ sinks) := by
    simp only [constructEach, ChainLayout.placed, List.mapM_append, bind_assoc, pure_bind]
  rw [groups, ofLayoutWith, mapM_end, mapM_end, processors]
  simp only [bind_assoc, pure_bind]
  refine Attempt.outcome_bind_congr fun sources _ first => ?_
  refine Attempt.outcome_bind_congr fun processors _ _ => ?_
  refine Attempt.outcome_bind_congr fun sinks _ last => ?_
  -- As many agents stand at each end as there are definitions, at most one.
  have source := constructEach_length construct first
  have sink := constructEach_length construct last
  have atMost (side? : Option AgentDefinition) : side?.toList.length ≤ 1 := by cases side? <;> simp
  have members : sources.head?.toList ++ processors ++ sinks.head?.toList =
      sources ++ processors ++ sinks := by
    rw [toList_head? (source ▸ atMost _), toList_head? (sink ▸ atMost _)]
  rw [ofAgents, filled_append source sink, ← members, assemble, Chain.members]
  cases firstRepeated [] _ <;> rfl

end Layouts

end Chain

namespace Agent

/-- The agent of a definition before it has its configuration, if the type is registered. -/
def made? [Clock ω] (registries : Registries σ) (key : RegistryKey) (startedAt : Instant)
    (definition : AgentDefinition) (world : ω) : Option (Agent σ) :=
  ((registries.table key).get? definition.agentType).map fun constructor =>
    constructor key ⟨definition.agentId, definition.agentType, startedAt⟩ (Clock.now world)

/-- How construction ends for an agent that has replied to its configuration. -/
def constructed (definition : AgentDefinition) (reply : Reply (Agent σ) Unit) :
    Except (Fault FlowError) (Agent σ) :=
  match reply.result with
  | .ok () => .ok reply.agent
  | .error (.raised error) =>
    .error (.raised (.configuration { message := error.message, agentId? := some definition.agentId }))
  | .error (.panicked message?) => .error (.panicked message?)

variable [Behaviour ω σ] [Configurable ω σ] [Clock ω] (registries : Registries σ)

theorem init_leaf_effect (configuration : Configuration) (agent : σ) (world : ω) :
    (init registries configuration (.leaf agent)).effect world =
      let (reply, after) := (Configurable.init configuration agent).effect world
      (reply.mapAgent .leaf, after) := by
  rw [init_leaf]
  rfl

theorem init_composite_effect (configuration : Configuration) (identity : Identity)
    (registry : RegistryKey) (chain : Chain (Agent σ)) (world : ω) :
    (init registries configuration (.composite identity registry chain)).effect world =
      match ChainLayout.ofConfiguration configuration with
      | .error error =>
        (⟨.composite identity registry chain, .error (.raised (.ofConfiguration error))⟩, world)
      | .ok layout =>
        match (Chain.ofLayout registries registry layout identity.startedAt).outcome world with
        | (.ok inner, after) => (⟨.composite identity registry inner, .ok ()⟩, after)
        | (.error fault, after) =>
          (⟨.composite identity registry chain, .error (buildFault fault)⟩, after) := by
  rw [init_composite, initComposite]
  cases ChainLayout.ofConfiguration configuration with
  | error error => rfl
  | ok layout =>
    have built : (ExceptT.run (Chain.ofLayoutWith (constructFor (init registries) registries registry
        identity.startedAt) layout)).effect world =
          (Chain.ofLayout registries registry layout identity.startedAt).outcome world := rfl
    simp only [Activity.effect_bind, built]
    generalize (Chain.ofLayout registries registry layout identity.startedAt).outcome world = built
    obtain ⟨_ | _, after⟩ := built <;> rfl

theorem construct_outcome (key : RegistryKey) (startedAt : Instant) (definition : AgentDefinition)
    (world : ω) :
    (construct registries key startedAt definition).outcome world =
      match made? registries key startedAt definition world with
      | none => (.error (.raised (.configuration
          ((ConfigurationError.unknownAgentType definition.agentType).forAgent definition.agentId))), world)
      | some agent =>
        let (reply, after) := (init registries definition.configuration agent).effect world
        (constructed definition reply, after) := by
  unfold construct constructBy made?
  cases (registries.table key).get? definition.agentType with
  | none => rfl
  | some constructor =>
    simp only [Option.map_some, Attempt.outcome_bind, Attempt.outcome_of, Activity.effect_look]
    generalize (init registries definition.configuration
      (constructor key ⟨definition.agentId, definition.agentType, startedAt⟩ (Clock.now world))).effect
        world = done
    obtain ⟨⟨agent, result⟩, after⟩ := done
    rcases result with (error | message?) | _ <;> rfl

theorem constructAs_outcome (key : RegistryKey) (startedAt : Instant) (component : Component)
    (definition : AgentDefinition) (world : ω) :
    (constructAs registries key startedAt component definition).outcome world =
      match (construct registries key startedAt definition).outcome world with
      | (.ok agent, after) =>
        (if (Behaviour.capabilities agent).allow component then .ok agent
          else .error (.raised (.configuration (missingCapability definition component))), after)
      | (.error fault, after) => (.error fault, after) := by
  change Attempt.outcome (construct registries key startedAt definition >>= fun agent =>
    if (Behaviour.capabilities agent).allow component then return agent
    else Attempt.refuse (missingCapability definition component)) world = _
  rw [Attempt.outcome_bind]
  generalize (construct registries key startedAt definition).outcome world = done
  obtain ⟨fault | agent, after⟩ := done
  · rfl
  · dsimp only
    split <;> rfl

/-- An agent that is constructed was made by the constructor of its type and took its configuration. -/
theorem of_constructAs {key : RegistryKey} {startedAt : Instant} {component : Component}
    {definition : AgentDefinition} {world after : ω} {agent : Agent σ}
    (done : (constructAs registries key startedAt component definition).outcome world =
      (.ok agent, after)) :
    ∃ constructor, (registries.table key).get? definition.agentType = some constructor ∧
      (init registries definition.configuration (constructor key
        ⟨definition.agentId, definition.agentType, startedAt⟩ (Clock.now world))).effect world =
          (.ok agent (), after) := by
  rw [constructAs_outcome, construct_outcome, made?] at done
  cases found : (registries.table key).get? definition.agentType with
  | none =>
    rw [found] at done
    cases done
  | some constructor =>
    refine ⟨constructor, rfl, ?_⟩
    rw [found, Option.map_some] at done
    dsimp only at done
    generalize (init registries definition.configuration (constructor key
      ⟨definition.agentId, definition.agentType, startedAt⟩ (Clock.now world))).effect world =
        called at done
    obtain ⟨⟨made, (error | message?) | _⟩, later⟩ := called
    · cases done
    · cases done
    · dsimp only [constructed] at done
      split at done
      · cases done
        rfl
      · cases done

end Agent

end Conveyor
