import Conveyor.Proofs.ByteOrder
import Conveyor.Proofs.Catalog

/-! A registry in many hands (`AgentRegistry`, whose clones share one table). Whoever holds the key of a
registry uses the same table: the handles that were cloned from one another and the composites that were
handed one. So the register calls made through any of them form a single sequence, and the registry is what
this sequence makes of an empty table, in which the last call for a type decides. A composite looks its
children up when it takes its configuration, however long before it was handed its key. -/
namespace Conveyor

variable {ω σ : Type}

theorem Table.mem_keys_iff {α : Type} {table : Table α} {key : String} :
    key ∈ table.keys ↔ table.get? key ≠ none := by
  rw [Ne, get?, find_eq_none_iff, not_not]
  rfl

/-- The register calls that were made on a registry, in order. -/
abbrev Registrations (σ : Type) := List (String × Constructor σ)

namespace Registrations

/-- The types that were registered. -/
def types (calls : Registrations σ) : List String := calls.map Prod.fst

/-- The last call for a type gave it this constructor. -/
def Latest (calls : Registrations σ) (agentType : String) (constructor : Constructor σ) : Prop :=
  ∃ earlier later : Registrations σ, calls = earlier ++ (agentType, constructor) :: later ∧
    agentType ∉ later.types

variable {calls : Registrations σ} {agentType : String}

theorem lookup_reverse_eq_some_iff {constructor : Constructor σ} :
    calls.reverse.lookup agentType = some constructor ↔ calls.Latest agentType constructor := by
  rw [List.lookup_eq_some_iff]
  constructor
  · rintro ⟨later, earlier, place, none⟩
    refine ⟨earlier.reverse, later.reverse, ?_, ?_⟩
    · simpa using congrArg List.reverse place
    · simpa [types] using fun other member => by simpa [eq_comm] using none _ member
  · rintro ⟨earlier, later, rfl, none⟩
    refine ⟨later.reverse, earlier.reverse, by simp, fun call member => bne_iff_ne.mpr fun same => ?_⟩
    exact none (same ▸ List.mem_map_of_mem (List.mem_reverse.mp member))

theorem lookup_reverse_eq_none_iff :
    calls.reverse.lookup agentType = none ↔ agentType ∉ calls.types := by
  rw [List.lookup_eq_none_iff]
  simp only [List.mem_reverse, bne_iff_ne, types, List.mem_map]
  grind

end Registrations

/-- The error over a definition whose type is not registered. -/
def AgentDefinition.unknown (definition : AgentDefinition) : ConfigurationError where
  message := "unknown agent type '" ++ definition.agentType ++ "'"
  agentId? := some definition.agentId

/-- A registry is what register calls made of an empty one. -/
structure Registries.Follows (registries : Registries σ) (key : RegistryKey) (calls : Registrations σ) :
    Prop where
  opened : key.index < registries.tables.length
  table : ∀ agentType, (registries.table key).get? agentType = calls.reverse.lookup agentType

namespace Registries.Follows

variable {registries : Registries σ} {key : RegistryKey} {calls : Registrations σ}

theorem create (before : Registries σ) : before.create.1.Follows before.create.2 [] where
  opened := by simp [Registries.create]
  table agentType := by simp [Registries.create, Registries.table]

theorem createOther (follows : registries.Follows key calls) : registries.create.1.Follows key calls where
  opened := by simpa [Registries.create] using Nat.lt_succ_of_lt follows.opened
  table agentType := by
    rw [← follows.table]
    simp [Registries.create, Registries.table, List.getElem?_append_left follows.opened]

theorem register (follows : registries.Follows key calls) (agentType : String)
    (constructor : Constructor σ) :
    (registries.register key agentType constructor).Follows key (calls ++ [(agentType, constructor)]) where
  opened := by simpa [Registries.register] using follows.opened
  table other := by
    have added := get?_registerAll follows.opened [(agentType, constructor)] other
    rw [follows.table, List.reverse_singleton] at added
    rw [List.reverse_append, List.lookup_append, List.reverse_singleton]
    exact added

theorem registerOther (follows : registries.Follows key calls) {other : RegistryKey} (differ : other ≠ key)
    (agentType : String) (constructor : Constructor σ) :
    (registries.register other agentType constructor).Follows key calls where
  opened := by simpa [Registries.register] using follows.opened
  table name := by
    rw [← follows.table]
    have same := registries.table_registerAll_of_ne differ.symm [(agentType, constructor)]
    exact congrArg (fun table => table.get? name) same

theorem get?_eq_none_iff (follows : registries.Follows key calls) {agentType : String} :
    (registries.table key).get? agentType = none ↔ agentType ∉ calls.types := by
  rw [follows.table, Registrations.lookup_reverse_eq_none_iff]

theorem get?_eq_some_iff (follows : registries.Follows key calls) {agentType : String}
    {constructor : Constructor σ} :
    (registries.table key).get? agentType = some constructor ↔ calls.Latest agentType constructor := by
  rw [follows.table, Registrations.lookup_reverse_eq_some_iff]

theorem ordered (registries : Registries σ) (key : RegistryKey) :
    ((registries.agentTypes key).map textBytes).Pairwise (· < ·) := by
  rw [List.pairwise_map, agentTypes, Table.keys, List.pairwise_map]
  exact (registries.table key).ascending.imp textBytes_lt

theorem listed (follows : registries.Follows key calls) (agentType : String) :
    agentType ∈ registries.agentTypes key ↔ agentType ∈ calls.types := by
  rw [agentTypes, Table.mem_keys_iff, Ne, follows.get?_eq_none_iff, not_not]

theorem contained (follows : registries.Follows key calls) (agentType : String) :
    registries.contains key agentType = true ↔ agentType ∈ calls.types := by
  rw [contains, Table.contains, Option.isSome_iff_ne_none, Ne, follows.get?_eq_none_iff, not_not]

variable [Clock ω]

theorem constructBy_unknown (follows : registries.Follows key calls) {definition : AgentDefinition}
    (new : definition.agentType ∉ calls.types) (configure : Agent.Configurer ω σ) (startedAt : Instant)
    (world : ω) :
    (Agent.constructBy configure registries key startedAt definition).run.run world =
      ⟨.error (.raised (.configuration definition.unknown)), world, []⟩ := by
  rw [Agent.constructBy, follows.get?_eq_none_iff.mpr new]
  rfl

/-- An agent of a registered type is constructed if it takes its configuration. -/
theorem constructBy_known (follows : registries.Follows key calls) {definition : AgentDefinition}
    (known : definition.agentType ∈ calls.types) (startedAt : Instant) (world : ω) :
    ∃ agent, ((Agent.constructBy (fun _ agent => pure (.ok agent ())) registries key startedAt
      definition).run.run world).value = .ok agent := by
  cases found : (registries.table key).get? definition.agentType with
  | none => exact absurd known (follows.get?_eq_none_iff.mp found)
  | some constructor =>
    rw [Agent.constructBy, found]
    exact ⟨_, rfl⟩

theorem refused (follows : registries.Follows key calls) (startedAt : Instant)
    (definition : AgentDefinition) (world : ω) :
    (∀ configure : Agent.Configurer ω σ,
      (Agent.constructBy configure registries key startedAt definition).run.run world =
        ⟨.error (.raised (.configuration definition.unknown)), world, []⟩) ↔
      definition.agentType ∉ calls.types := by
  refine ⟨fun always known => ?_,
    fun new configure => follows.constructBy_unknown new configure startedAt world⟩
  obtain ⟨agent, done⟩ := follows.constructBy_known known startedAt world
  rw [always] at done
  cases done

end Registries.Follows

section Answers

variable [Behaviour ω σ] [Configurable ω σ] [Clock ω]

/-- A registry answers as register calls demand. -/
structure Registries.Serves (ω : Type) [Behaviour ω σ] [Configurable ω σ] [Clock ω]
    (registries : Registries σ) (key : RegistryKey) (calls : Registrations σ) : Prop where
  /-- The types are listed in strictly increasing order of their bytes. -/
  ordered : ((registries.agentTypes key).map textBytes).Pairwise (· < ·)
  /-- The types that are listed are those that were registered. -/
  listed : ∀ agentType, agentType ∈ registries.agentTypes key ↔ agentType ∈ calls.types
  /-- The registry contains the types that were registered. -/
  contained : ∀ agentType, registries.contains key agentType = true ↔ agentType ∈ calls.types
  /-- Construction is refused over the type, whatever agents make of their configurations and with nothing
  done or logged, if and only if the type was not registered. -/
  refused : ∀ startedAt definition (world : ω),
    (∀ configure : Agent.Configurer ω σ,
      (Agent.constructBy configure registries key startedAt definition).run.run world =
        ⟨.error (.raised (.configuration definition.unknown)), world, []⟩) ↔
      definition.agentType ∉ calls.types
  /-- So an agent is refused as of an unknown type only if its type was not registered, unless the agent that
  is made raises this very text over its configuration. -/
  unknown : ∀ startedAt definition (world : ω),
    ((Agent.construct registries key startedAt definition).outcome world).1 =
        .error (.raised (.configuration definition.unknown)) ↔
      definition.agentType ∉ calls.types ∨
        ∃ constructor error, calls.Latest definition.agentType constructor ∧
          ((Agent.init registries definition.configuration (constructor key
            ⟨definition.agentId, definition.agentType, startedAt⟩ (Clock.now world))).effect
              world).1.result = .error (.raised error) ∧ error.message = definition.unknown.message
  /-- An agent of a type that was registered is made by the latest constructor and given its configuration. -/
  made : ∀ startedAt definition constructor, calls.Latest definition.agentType constructor →
    ∀ world : ω, (Agent.construct registries key startedAt definition).outcome world =
      let (reply, after) := (Agent.init registries definition.configuration (constructor key
        ⟨definition.agentId, definition.agentType, startedAt⟩ (Clock.now world))).effect world
      (Agent.constructed definition reply, after)
  /-- The children that a composite builds from a layout are made by the latest constructors. -/
  children : ∀ identity chain configuration agent (world after : ω),
    (Agent.init registries configuration (.composite identity key chain)).effect world =
        (.ok agent (), after) →
      ∃ layout members, ChainLayout.ofConfiguration configuration = .ok layout ∧
        agent = .composite identity key (layout.filled members) ∧
        List.Forall₂ (fun place child => ∃ (constructor : Constructor σ) (before between : ω),
          calls.Latest place.2.agentType constructor ∧
            (Agent.init registries place.2.configuration (constructor key
              ⟨place.2.agentId, place.2.agentType, identity.startedAt⟩ (Clock.now before))).effect before =
                (.ok child (), between)) layout.placed members
  /-- A composite fails over the first child whose type was not registered, if it gets there, and keeps the
  chain it had. -/
  orphans : ∀ identity chain configuration layout front component definition back members
      (world between : ω), ChainLayout.ofConfiguration configuration = .ok layout →
    layout.placed = front ++ (component, definition) :: back → definition.agentType ∉ calls.types →
    (Chain.constructEach (Agent.constructAs registries key identity.startedAt) front).outcome world =
        (.ok members, between) →
      (Agent.init registries configuration (.composite identity key chain)).effect world =
        (.raise (.composite identity key chain) (.ofFlow (.configuration definition.unknown)), between)

namespace Registries.Follows

variable {registries : Registries σ} {key : RegistryKey} {calls : Registrations σ}

theorem made (follows : registries.Follows key calls) (startedAt : Instant)
    (definition : AgentDefinition) (constructor : Constructor σ)
    (latest : calls.Latest definition.agentType constructor) (world : ω) :
    (Agent.construct registries key startedAt definition).outcome world =
      let (reply, after) := (Agent.init registries definition.configuration (constructor key
        ⟨definition.agentId, definition.agentType, startedAt⟩ (Clock.now world))).effect world
      (Agent.constructed definition reply, after) := by
  rw [Agent.construct_outcome, Agent.made?, follows.get?_eq_some_iff.mpr latest]
  rfl

theorem constructed_eq_unknown_iff {definition : AgentDefinition} {reply : Reply (Agent σ) Unit} :
    Agent.constructed definition reply = .error (.raised (.configuration definition.unknown)) ↔
      ∃ error, reply.result = .error (.raised error) ∧ error.message = definition.unknown.message := by
  obtain ⟨agent, (error | message?) | _⟩ := reply
  · constructor
    · intro same
      injection same with same
      injection same with same
      injection same with same
      exact ⟨error, rfl, congrArg ConfigurationError.message same⟩
    · rintro ⟨_, ⟨⟩, text⟩
      simp only [Agent.constructed, text]
      rfl
  · exact ⟨nofun, nofun⟩
  · exact ⟨nofun, nofun⟩

theorem unknown (follows : registries.Follows key calls) (startedAt : Instant)
    (definition : AgentDefinition) (world : ω) :
    ((Agent.construct registries key startedAt definition).outcome world).1 =
        .error (.raised (.configuration definition.unknown)) ↔
      definition.agentType ∉ calls.types ∨
        ∃ constructor error, calls.Latest definition.agentType constructor ∧
          ((Agent.init registries definition.configuration (constructor key
            ⟨definition.agentId, definition.agentType, startedAt⟩ (Clock.now world))).effect
              world).1.result = .error (.raised error) ∧ error.message = definition.unknown.message := by
  rw [Agent.construct_outcome, Agent.made?]
  cases found : (registries.table key).get? definition.agentType with
  | none => exact ⟨fun _ => .inl (follows.get?_eq_none_iff.mp found), fun _ => rfl⟩
  | some constructor =>
    have latest := follows.get?_eq_some_iff.mp found
    rw [Option.map_some]
    refine constructed_eq_unknown_iff.trans ⟨?_, ?_⟩
    · rintro ⟨error, raised⟩
      exact .inr ⟨_, error, latest, raised⟩
    · rintro (new | ⟨other, error, latest', raised⟩)
      · rw [follows.get?_eq_none_iff.mpr new] at found
        cases found
      · rw [follows.get?_eq_some_iff.mpr latest'] at found
        cases found
        exact ⟨error, raised⟩

theorem children (follows : registries.Follows key calls) (identity : Identity)
    (chain : Chain (Agent σ)) (configuration : Configuration) (agent : Agent σ) (world after : ω)
    (done : (Agent.init registries configuration (.composite identity key chain)).effect world =
      (.ok agent (), after)) :
    ∃ layout members, ChainLayout.ofConfiguration configuration = .ok layout ∧
      agent = .composite identity key (layout.filled members) ∧
      List.Forall₂ (fun place child => ∃ (constructor : Constructor σ) (before between : ω),
        calls.Latest place.2.agentType constructor ∧
          (Agent.init registries place.2.configuration (constructor key
            ⟨place.2.agentId, place.2.agentType, identity.startedAt⟩ (Clock.now before))).effect before =
              (.ok child (), between)) layout.placed members := by
  rw [Agent.init_composite_effect] at done
  cases read : ChainLayout.ofConfiguration configuration with
  | error error =>
    rw [read] at done
    cases done
  | ok layout =>
    rw [read] at done
    dsimp only at done
    cases built : (Chain.ofLayout registries key layout identity.startedAt).outcome world with
    | mk result between =>
      rw [built] at done
      cases result with
      | error fault => cases done
      | ok inner =>
        cases done
        rw [Chain.ofLayout, Chain.ofLayoutWith_outcome, Attempt.outcome_bind_ok_iff] at built
        obtain ⟨members, later, each, together⟩ := built
        refine ⟨layout, members, rfl, ?_, ?_⟩
        · rw [Chain.ofAgents] at together
          split at together
          · cases together
          · cases together
            rfl
        · refine (Attempt.outcome_mapM_ok each).imp fun place child made => ?_
          obtain ⟨before, between, made⟩ := made
          obtain ⟨constructor, found, taken⟩ := Agent.of_constructAs registries made
          exact ⟨constructor, before, between, follows.get?_eq_some_iff.mp found, taken⟩

/-- A child whose type is not registered ends the construction of its chain. -/
theorem orphaned (follows : registries.Follows key calls) {startedAt : Instant} {layout : ChainLayout}
    {front back : List (Component × AgentDefinition)} {component : Component}
    {definition : AgentDefinition} {members : List (Agent σ)} {world between : ω}
    (place : layout.placed = front ++ (component, definition) :: back)
    (new : definition.agentType ∉ calls.types)
    (before : (Chain.constructEach (Agent.constructAs registries key startedAt) front).outcome world =
      (.ok members, between)) :
    (Chain.ofLayout registries key layout startedAt).outcome world =
      (.error (.raised (.configuration definition.unknown)), between) := by
  rw [Chain.ofLayout, Chain.ofLayoutWith_outcome, Attempt.outcome_bind_error_iff]
  refine .inl (Attempt.outcome_mapM_error_iff.mpr
    ⟨front, (component, definition), back, members, between, place, before, ?_⟩)
  rw [Agent.constructAs_outcome, Agent.construct_outcome, Agent.made?, follows.get?_eq_none_iff.mpr new]
  rfl

theorem orphans (follows : registries.Follows key calls) (identity : Identity) (chain : Chain (Agent σ))
    (configuration : Configuration) (layout : ChainLayout) (front : List (Component × AgentDefinition))
    (component : Component) (definition : AgentDefinition) (back : List (Component × AgentDefinition))
    (members : List (Agent σ)) (world between : ω)
    (read : ChainLayout.ofConfiguration configuration = .ok layout)
    (place : layout.placed = front ++ (component, definition) :: back)
    (new : definition.agentType ∉ calls.types)
    (before : (Chain.constructEach (Agent.constructAs registries key identity.startedAt) front).outcome
      world = (.ok members, between)) :
    (Agent.init registries configuration (.composite identity key chain)).effect world =
      (.raise (.composite identity key chain) (.ofFlow (.configuration definition.unknown)), between) := by
  rw [Agent.init_composite_effect, read]
  simp only [follows.orphaned place new before]
  rfl

/-- A registry that is what register calls made of it answers as they demand. -/
theorem serves (follows : registries.Follows key calls) : registries.Serves ω key calls where
  ordered := ordered registries key
  listed := follows.listed
  contained := follows.contained
  refused := follows.refused
  unknown := follows.unknown
  made := follows.made
  children := follows.children
  orphans := follows.orphans

end Registries.Follows

end Answers

/-- What is held of a registry: all registries, the handles of it, and the composites that were handed one. -/
structure Holding (σ : Type) where
  registries : Registries σ
  handles : List RegistryKey
  composites : List (Agent σ) := []

/-- A key is that of a handle, or of a composite. -/
def Holding.Holds (holding : Holding σ) (key : RegistryKey) : Prop :=
  key ∈ holding.handles ∨ ∃ identity chain, .composite identity key chain ∈ holding.composites

section Sharing

variable [Behaviour ω σ] [Configurable ω σ] [Clock ω]

/-- What comes to be held of a new registry, and the register calls that were made on it through anything
that holds its key. -/
inductive Shares (ω : Type) [Behaviour ω σ] [Configurable ω σ] [Clock ω] (before : Registries σ) :
    Holding σ → Registrations σ → Prop
  | opened : Shares ω before { registries := before.create.1, handles := [before.create.2] } []
  | cloned {holding : Holding σ} {calls : Registrations σ} {key : RegistryKey}
      (shares : Shares ω before holding calls) (held : holding.Holds key) :
      Shares ω before { holding with handles := holding.handles ++ [key] } calls
  | registered {holding : Holding σ} {calls : Registrations σ} {key : RegistryKey}
      (shares : Shares ω before holding calls) (held : holding.Holds key) (agentType : String)
      (constructor : Constructor σ) :
      Shares ω before
        { holding with registries := holding.registries.register key agentType constructor }
        (calls ++ [(agentType, constructor)])
  /-- A composite is made with the key and has no chain yet. -/
  | handed {holding : Holding σ} {calls : Registrations σ} {key : RegistryKey}
      (shares : Shares ω before holding calls) (held : holding.Holds key) (identity : Identity) :
      Shares ω before
        { holding with composites := holding.composites ++ [Agent.emptyComposite identity key] } calls
  /-- A composite is given a configuration, from which it builds its chain anew. -/
  | configured {holding : Holding σ} {calls : Registrations σ} {front back : List (Agent σ)}
      {agent : Agent σ} (shares : Shares ω before holding calls)
      (kept : holding.composites = front ++ agent :: back) (configuration : Configuration) (world : ω) :
      Shares ω before
        { holding with composites := front ++
            ((Agent.init holding.registries configuration agent).effect world).1.agent :: back } calls
  /-- Another registry is opened. -/
  | openedElsewhere {holding : Holding σ} {calls : Registrations σ}
      (shares : Shares ω before holding calls) :
      Shares ω before { holding with registries := holding.registries.create.1 } calls
  /-- A type is registered in another registry. -/
  | registeredElsewhere {holding : Holding σ} {calls : Registrations σ} {other : RegistryKey}
      (shares : Shares ω before holding calls) (apart : other ≠ before.create.2) (agentType : String)
      (constructor : Constructor σ) :
      Shares ω before
        { holding with registries := holding.registries.register other agentType constructor } calls

namespace Agent

/-- A composite keeps its identity and its registry when it is given a configuration. -/
theorem init_composite_agent (registries : Registries σ) (configuration : Configuration)
    (identity : Identity) (key : RegistryKey) (chain : Chain (Agent σ)) (world : ω) :
    ∃ after, ((init registries configuration (.composite identity key chain)).effect world).1.agent =
      .composite identity key after := by
  rw [init_composite_effect]
  split
  · exact ⟨_, rfl⟩
  · split <;> exact ⟨_, rfl⟩

theorem composite_of_init {registries : Registries σ} {configuration : Configuration} {agent : Agent σ}
    {world : ω} {identity : Identity} {key : RegistryKey} {chain : Chain (Agent σ)}
    (same : .composite identity key chain = ((init registries configuration agent).effect world).1.agent) :
    ∃ before, agent = .composite identity key before := by
  cases agent with
  | leaf agent =>
    rw [init_leaf_effect] at same
    cases same
  | composite identity' key' before =>
    obtain ⟨after, kept⟩ := init_composite_agent registries configuration identity' key' before world
    rw [kept] at same
    cases same
    exact ⟨before, rfl⟩

end Agent

namespace Shares

variable {before : Registries σ} {holding : Holding σ} {calls : Registrations σ}

/-- All keys that are held are that of the registry, which is what the register calls made of it. -/
theorem sound (shares : Shares ω before holding calls) :
    (∀ key, holding.Holds key → key = before.create.2) ∧
      holding.registries.Follows before.create.2 calls := by
  induction shares with
  | opened => exact ⟨fun key => by simp [Holding.Holds], .create before⟩
  | cloned _ held ih =>
    refine ⟨fun key => ?_, ih.2⟩
    rintro (member | composite)
    · rcases List.mem_append.mp member with old | new
      · exact ih.1 key (.inl old)
      · cases List.mem_singleton.mp new
        exact ih.1 _ held
    · exact ih.1 key (.inr composite)
  | registered _ held agentType constructor ih =>
    cases ih.1 _ held
    exact ⟨ih.1, ih.2.register agentType constructor⟩
  | handed _ held identity ih =>
    refine ⟨fun key => ?_, ih.2⟩
    rintro (member | ⟨identity', chain, member⟩)
    · exact ih.1 key (.inl member)
    · rcases List.mem_append.mp member with old | new
      · exact ih.1 key (.inr ⟨identity', chain, old⟩)
      · cases List.mem_singleton.mp new
        exact ih.1 _ held
  | @configured holding _ front back agent _ kept configuration world ih =>
    refine ⟨fun key => ?_, ih.2⟩
    rintro (member | ⟨identity, chain, member⟩)
    · exact ih.1 key (.inl member)
    · have old : ∃ chain, .composite identity key chain ∈ holding.composites := by
        rw [kept]
        rcases List.mem_append.mp member with front | member
        · exact ⟨chain, List.mem_append_left _ front⟩
        · rcases List.mem_cons.mp member with same | back
          · obtain ⟨chain', rfl⟩ := Agent.composite_of_init same
            exact ⟨chain', List.mem_append_right _ List.mem_cons_self⟩
          · exact ⟨chain, List.mem_append_right _ (List.mem_cons_of_mem _ back)⟩
      obtain ⟨chain', old⟩ := old
      exact ih.1 key (.inr ⟨identity, chain', old⟩)
  | openedElsewhere _ ih => exact ⟨ih.1, ih.2.createOther⟩
  | registeredElsewhere _ apart agentType constructor ih =>
    exact ⟨ih.1, ih.2.registerOther apart agentType constructor⟩

/-- Whatever was cloned, handed out, registered and configured, a registry answers through each handle and
each composite as the register calls demand that were made through any of them: its types are listed in
strictly increasing order of their bytes, exactly those that were registered are listed and contained, and an
agent is refused as of an unknown type if and only if its type is not among them. Otherwise the latest
constructor makes it, also where a composite builds its children when it is configured. -/
theorem last_registration_wins (shares : Shares ω before holding calls) {key : RegistryKey}
    (held : holding.Holds key) :
    holding.registries.Serves ω key calls := by
  obtain ⟨only, follows⟩ := shares.sound
  cases only key held
  exact follows.serves

/-- Two calls for one type: the first is for agents that pass records on, the second for agents that drop
them. -/
def lateCalls : Registrations StockAgent := [
  ("late", Catalog.leaf fun identity => .passThrough (.ofIdentity identity)),
  ("late", Catalog.leaf fun identity => .discard (.ofIdentity identity))]

/-- A registry with both calls, after it was cloned and a composite was handed the clone. -/
def lateHolding : Holding StockAgent where
  registries := (Registries.create ⟨[]⟩).1.registerAll ⟨0⟩ lateCalls
  handles := [⟨0⟩, ⟨0⟩]
  composites := [Agent.emptyComposite ⟨"c", "composite-agent", ⟨0, 0⟩⟩ ⟨0⟩]

/-- The layout of a chain with one processor, of the type that both calls are for. -/
def lateLayout : Configuration := .ofList [("processors", .array [.array [.string "x", .string "late"]])]

/-- The last call decides, for a child as well. -/
theorem latest_lateCalls {constructor : Constructor StockAgent}
    (latest : lateCalls.Latest "late" constructor) :
    constructor = Catalog.leaf fun identity => .discard (.ofIdentity identity) := by
  have found : lateCalls.reverse.lookup "late" = some constructor :=
    Registrations.lookup_reverse_eq_some_iff.mpr latest
  exact (Option.some.inj found).symm

/-- A type that is registered through the registry and again through the handle of a composite is there once
and has the second constructor. The composite was handed its key before, and it builds its child with that
constructor when it takes a configuration. -/
theorem lateHolding_serves :
    let identity : Identity := ⟨"c", "composite-agent", ⟨0, 0⟩⟩
    Shares Environment ⟨[]⟩ lateHolding lateCalls ∧ lateHolding.Holds ⟨0⟩ ∧
      lateHolding.registries.Serves Environment ⟨0⟩ lateCalls ∧
      lateHolding.registries.agentTypes ⟨0⟩ = ["late"] ∧
      ∀ world : Environment, ∃ agent after child,
        (Agent.init lateHolding.registries lateLayout (Agent.emptyComposite identity ⟨0⟩)).effect world =
          (.ok agent (), after) ∧
        agent = .composite identity ⟨0⟩ { processors := [child] } ∧
        child = .leaf (.discard (.ofIdentity ⟨"x", "late", ⟨0, 0⟩⟩)) := by
  intro identity
  have first : Shares Environment ⟨[]⟩ { lateHolding with
      registries := (Registries.create ⟨[]⟩).1.registerAll ⟨0⟩ (lateCalls.take 1) } (lateCalls.take 1) :=
    .handed (.cloned (.registered .opened (.inl List.mem_cons_self) "late" _) (.inl List.mem_cons_self))
      (.inl List.mem_cons_self) identity
  have both : Shares Environment ⟨[]⟩ lateHolding lateCalls :=
    .registered first (.inr ⟨_, _, List.mem_cons_self⟩) "late" _
  have held : lateHolding.Holds ⟨0⟩ := .inl List.mem_cons_self
  have serves := both.last_registration_wins held
  refine ⟨both, held, serves, by decide, fun world => ?_⟩
  obtain ⟨agent, after, done⟩ : ∃ agent after, (Agent.init lateHolding.registries lateLayout
      (Agent.emptyComposite identity ⟨0⟩)).effect world = (.ok agent (), after) := ⟨_, _, rfl⟩
  obtain ⟨layout, members, read, built, made⟩ := serves.children identity {} lateLayout agent world after done
  have processors : ChainLayout.ofConfiguration lateLayout =
      .ok { processors := [⟨"x", "late", Table.empty⟩] } := by decide +kernel
  cases processors.symm.trans read
  cases made with
  | cons child rest =>
    cases rest
    obtain ⟨constructor, before, between, latest, taken⟩ := child
    rw [latest_lateCalls latest] at taken
    cases taken
    exact ⟨agent, after, _, done, built, rfl⟩

end Shares

end Sharing

end Conveyor
