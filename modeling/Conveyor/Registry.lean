import Conveyor.Agent.Tree
import Conveyor.Chain.Layout

/-!
Registries of agent types (`AgentRegistry`), and the construction of agents from definitions
(`construct`). A registry maps the names of types to constructors; registering a type again replaces its
constructor. Registries are kept in one store and used through their keys, so all holders of a key see
what any of them registers, also a composite agent that constructs the agents of its chain much later.

A constructor is a function of the key, the identity and the time. It gets the key of the registry and
not what is registered, so it can hand the key on to the agent that it makes, but while it is called it
cannot look a type up, register one or construct another agent, as `construct` would let it. Of the
agents only composites do so, when they take their configuration.

A constructed agent gets its configuration before anyone sees it. An error it raises is turned into a
configuration error about that agent. The configuration of a composite agent is a layout, from which it
builds its chain with the registry whose key it holds; the configurations inside a layout are less deep
than the layout, so construction ends.
-/

namespace Conveyor

/-- Makes an agent that has no configuration yet, from the key of the registry, the identity and the
time. -/
abbrev Constructor (σ : Type) := RegistryKey → Identity → Instant → Agent σ

/-- All registries, each under its key. -/
structure Registries (σ : Type) where
  tables : List (Table (Constructor σ)) := []

namespace Registries

variable {ω σ : Type}

/-- The constructors of a registry by type. -/
def table (registries : Registries σ) (key : RegistryKey) : Table (Constructor σ) :=
  registries.tables[key.index]?.getD Table.empty

/-- A new registry without types, and its key. -/
def create (registries : Registries σ) : Registries σ × RegistryKey :=
  (⟨registries.tables ++ [Table.empty]⟩, ⟨registries.tables.length⟩)

/-- Registers a constructor for a type, over an earlier one. -/
def register (registries : Registries σ) (key : RegistryKey) (agentType : String)
    (constructor : Constructor σ) : Registries σ :=
  ⟨registries.tables.set key.index ((registries.table key).insert agentType constructor)⟩

/-- Registers constructors for several types in order. -/
def registerAll (registries : Registries σ) (key : RegistryKey)
    (constructors : List (String × Constructor σ)) : Registries σ :=
  constructors.foldl (fun registries entry => registries.register key entry.1 entry.2) registries

/-- Whether a type is registered. -/
def contains (registries : Registries σ) (key : RegistryKey) (agentType : String) : Bool :=
  (registries.table key).contains agentType

/-- The registered types, in increasing order. -/
def agentTypes (registries : Registries σ) (key : RegistryKey) : List String :=
  (registries.table key).keys

/-- A registry as messages show it. -/
def shown (registries : Registries σ) (key : RegistryKey) : String :=
  "AgentRegistry \x7b agent_types: " ++ Text.shownList (registries.agentTypes key) ++ " \x7d"

end Registries

/-- An activity that may be given up with an error, or be torn down. -/
abbrev Attempt (ω β : Type) := ExceptT (Fault FlowError) (Activity ω) β

namespace Attempt

variable {ω β : Type}

/-- An activity that is not given up. -/
def of (activity : Activity ω β) : Attempt ω β := ExceptT.lift activity

/-- Gives up with a configuration error. -/
def refuse (error : ConfigurationError) : Attempt ω β :=
  throw (.raised (.configuration error))

end Attempt

/-- The error of an agent whose type does not fit its place. -/
def missingCapability (definition : AgentDefinition) (component : Component) : ConfigurationError :=
  ConfigurationError.forAgent
    { message := "agent type '" ++ definition.agentType ++ "' cannot be used as a " ++ component.name }
    definition.agentId

namespace Chain

variable {ω α : Type} [Behaviour ω α]

/-- Constructs the agents of a layout in order and assembles them. The ids are compared only when all
agents are there. -/
def ofLayoutWith (construct : Component → AgentDefinition → Attempt ω α) (layout : ChainLayout) :
    Attempt ω (Chain α) := do
  let source? ← layout.source?.mapM (construct .source)
  let processors ← layout.processors.mapM (construct .processor)
  let sink? ← layout.sink?.mapM (construct .sink)
  match assemble source? processors sink? with
  | .ok chain => return chain
  | .error error => throw (.raised error)

end Chain

namespace Agent

variable {ω σ : Type} [Behaviour ω σ] [Configurable ω σ] [Clock ω]

/-- Gives an agent its configuration. -/
abbrev Configurer (ω σ : Type) := Configuration → Agent σ → Activity ω (Reply (Agent σ) Unit)

/-- Constructs an agent and gives it its configuration. -/
def constructBy (configure : Configurer ω σ) (registries : Registries σ) (key : RegistryKey)
    (startedAt : Instant) (definition : AgentDefinition) : Attempt ω (Agent σ) := do
  match (registries.table key).get? definition.agentType with
  | none =>
    Attempt.refuse
      ((ConfigurationError.unknownAgentType definition.agentType).forAgent definition.agentId)
  | some constructor =>
    let world ← Attempt.of Activity.look
    let agent :=
      constructor key ⟨definition.agentId, definition.agentType, startedAt⟩ (Clock.now world)
    let reply ← Attempt.of (configure definition.configuration agent)
    match reply.result with
    | .error (.raised error) =>
      Attempt.refuse (ConfigurationError.forAgent { message := error.message } definition.agentId)
    | .error (.panicked message?) => throw (.panicked message?)
    | .ok () =>
      Attempt.of (Activity.log (.agentInitialized definition.agentId definition.agentType))
      return reply.agent

/-- Constructs an agent for a place that only some agents fit. -/
def constructFor (configure : Configurer ω σ) (registries : Registries σ) (key : RegistryKey)
    (startedAt : Instant) (component : Component) (definition : AgentDefinition) :
    Attempt ω (Agent σ) := do
  let agent ← constructBy configure registries key startedAt definition
  if (Behaviour.capabilities agent).allow component then return agent
  else Attempt.refuse (missingCapability definition component)

/-- The error that a composite raises when its chain cannot be built. -/
def buildFault : Fault FlowError → Fault AgentError
  | .raised error => .raised (.ofFlow error)
  | .panicked message? => .panicked message?

/-- Gives a composite the chain of a layout. A chain it had before stays if that fails. -/
def initComposite (configure : Configurer ω σ) (registries : Registries σ)
    (configuration : Configuration) (identity : Identity) (registry : RegistryKey)
    (chain : Chain (Agent σ)) : Activity ω (Reply (Agent σ) Unit) := do
  let before : Agent σ := .composite identity registry chain
  match ChainLayout.ofConfiguration configuration with
  | .error error => return .raise before (.ofConfiguration error)
  | .ok layout =>
    let built ← (Chain.ofLayoutWith
      (constructFor configure registries registry identity.startedAt) layout).run
    match built with
    | .error fault => return ⟨before, .error (buildFault fault)⟩
    | .ok chain =>
      Activity.log (.compositeBuilt identity.agentId layout.processors.length)
      return .ok (.composite identity registry chain) ()

/-- Gives an agent a configuration that is at most so deep. -/
def initWithin (registries : Registries σ) : Nat → Configurer ω σ
  | _, configuration, .leaf agent => do
    return (← Configurable.init configuration agent).mapAgent .leaf
  | 0, _, agent => return ⟨agent, .error (.panicked none)⟩
  | level + 1, configuration, .composite identity registry chain =>
    initComposite (initWithin registries level) registries configuration identity registry chain

/-- Gives an agent a configuration. -/
def init (registries : Registries σ) : Configurer ω σ := fun configuration agent =>
  initWithin registries (configuration.depth + 1) configuration agent

/-- Constructs an agent from its definition. -/
def construct (registries : Registries σ) (key : RegistryKey) (startedAt : Instant)
    (definition : AgentDefinition) : Attempt ω (Agent σ) :=
  constructBy (init registries) registries key startedAt definition

/-- Constructs an agent from its definition for a place in a chain. -/
def constructAs (registries : Registries σ) (key : RegistryKey) (startedAt : Instant)
    (component : Component) (definition : AgentDefinition) : Attempt ω (Agent σ) :=
  constructFor (init registries) registries key startedAt component definition

/-- An empty composite, as it is before it has a configuration. -/
def emptyComposite (identity : Identity) (registry : RegistryKey) : Agent σ :=
  .composite identity registry {}

end Agent

/-- Constructs the chain of a layout. -/
def Chain.ofLayout {ω σ : Type} [Behaviour ω σ] [Configurable ω σ] [Clock ω]
    (registries : Registries σ) (key : RegistryKey) (layout : ChainLayout) (startedAt : Instant) :
    Attempt ω (Chain (Agent σ)) :=
  ofLayoutWith (Agent.constructAs registries key startedAt) layout

end Conveyor
