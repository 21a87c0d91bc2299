import Conveyor.Proofs.Acceptance

/-! Who is blamed when a chain cannot be built, by `construct` and the `init` of composites. Definitions are
constructed in the order of the layout, the definitions inside a composite before the next one beside it,
and the first that fails ends construction. The ids at a level are compared when all its agents are there.
Whatever the cause, what is raised is a configuration error of the definition at the top, and its text leads
through the composites to the definition that failed, one step for each. -/
namespace Conveyor

variable {ω σ α : Type}

/-- The text of a failure behind the definitions that lead to it. -/
def locate (path : List String) (message : String) : String :=
  path.foldr (fun agentId text => "Invalid configuration for agent '" ++ agentId ++ "': " ++ text) message

/-- The error of a failure at the end of a path of definitions: it is attributed to the first of them, and
leads to the others. -/
def blame (path : List String) (message : String) : ConfigurationError where
  message := locate path.tail message
  agentId? := path.head?

theorem display_blame {path : List String} (some : path ≠ []) (message : String) :
    (blame path message).display = locate path message := by
  cases path with
  | nil => contradiction
  | cons agentId path => rfl

/-- A composite around the failure raises its text. -/
theorem ofFlow_blame {path : List String} (some : path ≠ []) (message : String) :
    (AgentError.ofFlow (.configuration (blame path message))).message = locate path message :=
  display_blame some message

/-- Every agent that one registry can construct for a place in a chain reports the id of its definition. -/
def Registries.HonestAt (ω : Type) {σ : Type} [Behaviour ω σ] [Configurable ω σ] [Clock ω]
    (registries : Registries σ) (key : RegistryKey) : Prop :=
  ∀ startedAt component definition (world after : ω) agent,
    (Agent.constructAs registries key startedAt component definition).outcome world = (.ok agent, after) →
      Behaviour.agentId agent = definition.agentId

/-- Every agent that can be constructed for a place in a chain reports the id of its definition. -/
def Registries.Honest [Behaviour ω σ] [Configurable ω σ] [Clock ω] (registries : Registries σ) : Prop :=
  ∀ key startedAt component definition (world after : ω) agent,
    (Agent.constructAs registries key startedAt component definition).outcome world = (.ok agent, after) →
      Behaviour.agentId agent = definition.agentId

section Failures

variable [Behaviour ω σ] [Configurable ω σ] [Clock ω]

open Agent

mutual

/-- The construction of a definition as a component fails in a world: behind a path of definitions that
begins with its own, with a message, and leaving a world. -/
inductive Refused (registries : Registries σ) : RegistryKey → Instant → Component → AgentDefinition → ω →
    List String → String → ω → Prop where
  /-- Nothing constructs the type. -/
  | unknownType {key startedAt component definition world}
      (unknown : (registries.table key).get? definition.agentType = none) :
    Refused registries key startedAt component definition world [definition.agentId]
      ("unknown agent type '" ++ definition.agentType ++ "'") world
  /-- The agent raises an error, of any kind, over its configuration. -/
  | settings {key startedAt component definition world agent reply after error}
      (made : made? registries key startedAt definition world = some (.leaf agent))
      (init : (Configurable.init definition.configuration agent).effect world = (reply, after))
      (raised : reply.result = .error (.raised error)) :
    Refused registries key startedAt component definition world [definition.agentId] error.message after
  /-- The configuration of a composite is no layout. -/
  | malformed {key startedAt component definition world identity registry chain error}
      (made : made? registries key startedAt definition world = some (.composite identity registry chain))
      (malformed : ChainLayout.ofConfiguration definition.configuration = .error error) :
    Refused registries key startedAt component definition world [definition.agentId] error.message world
  /-- The chain of a composite cannot be built. -/
  | inside {key startedAt component definition world identity registry chain layout path message after}
      (made : made? registries key startedAt definition world = some (.composite identity registry chain))
      (read : ChainLayout.ofConfiguration definition.configuration = .ok layout)
      (unbuilt : Unbuilt registries registry identity.startedAt layout world path message after) :
    Refused registries key startedAt component definition world (definition.agentId :: path) message after
  /-- The agent is there, but cannot play the role of the component. -/
  | unfit {key startedAt component definition world agent after}
      (done : (construct registries key startedAt definition).outcome world = (.ok agent, after))
      (unfit : (Behaviour.capabilities agent).allow component = false) :
    Refused registries key startedAt component definition world [definition.agentId]
      ("agent type '" ++ definition.agentType ++ "' cannot be used as a " ++ component.name) after

/-- The construction of a layout fails in a world: at a definition or at an id, behind the path that leads
there, with a message, and leaving a world. -/
inductive Unbuilt (registries : Registries σ) : RegistryKey → Instant → ChainLayout → ω → List String →
    String → ω → Prop where
  /-- All definitions in front of one are constructed, and that one fails. -/
  | definition
      {key startedAt layout world front component definition back agents between path message after}
      (place : layout.placed = front ++ (component, definition) :: back)
      (before : (Chain.constructEach (constructAs registries key startedAt) front).outcome world =
        (.ok agents, between))
      (refused : Refused registries key startedAt component definition between path message after) :
    Unbuilt registries key startedAt layout world path message after
  /-- All definitions are constructed, and an id stands behind another of itself. -/
  | repeated {key startedAt layout world front agentId back agents after}
      (all : (Chain.constructEach (constructAs registries key startedAt) layout.placed).outcome world =
        (.ok agents, after))
      (place : layout.definitions.map AgentDefinition.agentId = front ++ agentId :: back)
      (before : agentId ∈ front) (first : front.Nodup) :
    Unbuilt registries key startedAt layout world [agentId]
      ("duplicate agent id '" ++ agentId ++ "' in chain") after

end

variable {registries : Registries σ}

theorem Refused.path_ne_nil {key startedAt component definition} {world after : ω} {path message}
    (refused : Refused registries key startedAt component definition world path message after) :
    path ≠ [] := by
  cases refused <;> exact List.cons_ne_nil _ _

theorem Unbuilt.path_ne_nil {key startedAt layout} {world after : ω} {path message}
    (unbuilt : Unbuilt registries key startedAt layout world path message after) : path ≠ [] := by
  cases unbuilt with
  | definition place before refused => exact refused.path_ne_nil
  | repeated => exact List.cons_ne_nil _ _

/-- The layout fails exactly as it should, with the error that is due. -/
def Attributed (registries : Registries σ) (layout : ChainLayout) : Prop :=
  ∀ key startedAt (world : ω) error after,
    (Chain.ofLayout registries key layout startedAt).outcome world = (.error (.raised error), after) ↔
      ∃ path message, Unbuilt registries key startedAt layout world path message after ∧
        error = .configuration (blame path message)

section Definition

variable {key : RegistryKey} {startedAt : Instant} {component : Component} {definition : AgentDefinition}
  {world after : ω} {error : FlowError}
  (inside : ∀ layout, ChainLayout.ofConfiguration definition.configuration = .ok layout →
    Attributed (ω := ω) registries layout)

include inside

/-- Whatever the place it is for, a definition that fails in construction is refused. -/
theorem refused_of_construct
    (failed : (construct registries key startedAt definition).outcome world =
      (.error (.raised error), after)) :
    ∃ path message, Refused registries key startedAt component definition world path message after ∧
      error = .configuration (blame path message) := by
  rw [construct_outcome] at failed
  cases made : made? registries key startedAt definition world with
  | none =>
    rw [made] at failed
    cases failed
    exact ⟨_, _, .unknownType (Option.map_eq_none_iff.mp made), rfl⟩
  | some agent =>
    rw [made] at failed
    cases agent with
    | leaf agent =>
      dsimp only at failed
      rw [init_leaf_effect] at failed
      cases called : (Configurable.init definition.configuration agent).effect world with
      | mk reply later =>
        rw [called] at failed
        obtain ⟨agent', (raised | message?) | _⟩ := reply <;> cases failed
        exact ⟨_, _, .settings made called rfl, rfl⟩
    | composite identity registry chain =>
      dsimp only at failed
      rw [init_composite_effect] at failed
      cases read : ChainLayout.ofConfiguration definition.configuration with
      | error malformed =>
        rw [read] at failed
        cases failed
        exact ⟨_, _, .malformed made read, rfl⟩
      | ok layout =>
        rw [read] at failed
        cases built : (Chain.ofLayout registries registry layout identity.startedAt).outcome world with
        | mk result later =>
          dsimp only at failed
          rw [built] at failed
          rcases result with (raised | message?) | inner <;> cases failed
          obtain ⟨path, message, unbuilt, rfl⟩ := (inside layout read _ _ _ _ _).mp built
          refine ⟨_, _, .inside made read unbuilt, ?_⟩
          rw [ofFlow_blame unbuilt.path_ne_nil]
          rfl

theorem refused_of_outcome
    (failed : (constructAs registries key startedAt component definition).outcome world =
      (.error (.raised error), after)) :
    ∃ path message, Refused registries key startedAt component definition world path message after ∧
      error = .configuration (blame path message) := by
  rw [constructAs_outcome] at failed
  cases done : (construct registries key startedAt definition).outcome world with
  | mk result between =>
    rw [done] at failed
    cases result with
    | error fault =>
      cases failed
      exact refused_of_construct inside done
    | ok agent =>
      dsimp only at failed
      by_cases fits : (Behaviour.capabilities agent).allow component = true
      · rw [if_pos fits] at failed
        cases failed
      · rw [if_neg fits] at failed
        cases failed
        exact ⟨_, _, .unfit done (Bool.eq_false_iff.mpr fits), rfl⟩

theorem outcome_of_refused {path : List String} {message : String}
    (refused : Refused registries key startedAt component definition world path message after) :
    (constructAs registries key startedAt component definition).outcome world =
      (.error (.raised (.configuration (blame path message))), after) := by
  rw [constructAs_outcome]
  cases refused with
  | unknownType unknown =>
    rw [construct_outcome, made?, unknown]
    rfl
  | settings made init raised =>
    rw [construct_outcome, made]
    dsimp only
    rw [init_leaf_effect, init]
    simp only [Reply.mapAgent, constructed, raised]
    rfl
  | malformed made malformed =>
    rw [construct_outcome, made]
    dsimp only
    rw [init_composite_effect, malformed]
    rfl
  | inside made read unbuilt =>
    have built := (inside _ read _ _ _ _ _).mpr ⟨_, _, unbuilt, rfl⟩
    rw [construct_outcome, made]
    dsimp only
    rw [init_composite_effect, read]
    dsimp only
    rw [built]
    dsimp only [constructed, buildFault]
    rw [ofFlow_blame unbuilt.path_ne_nil]
    rfl
  | unfit done unfit =>
    rw [done]
    simp only [unfit]
    rfl

end Definition

theorem ids_of_constructEach {key : RegistryKey} (honest : registries.HonestAt ω key)
    {startedAt : Instant} {places : List (Component × AgentDefinition)} {world after : ω}
    {agents : List (Agent σ)}
    (done : (Chain.constructEach (constructAs registries key startedAt) places).outcome world =
      (.ok agents, after)) :
    agents.map Behaviour.agentId = (places.map Prod.snd).map AgentDefinition.agentId := by
  have each := Attempt.outcome_mapM_ok done
  clear done
  induction each with
  | nil => rfl
  | cons first _ ih =>
    obtain ⟨before, between, first⟩ := first
    rw [List.map_cons, List.map_cons, List.map_cons, honest _ _ _ _ _ _ first, ih]

/-- With agents that report their ids, every layout fails as it should. -/
theorem attributed (honest : registries.Honest (ω := ω)) (layout : ChainLayout) :
    Attributed (ω := ω) registries layout := by
  induction layout using ChainLayout.inductionOn with
  | step layout inside =>
    intro key startedAt world error after
    rw [Chain.ofLayout, Chain.ofLayoutWith_outcome, Attempt.outcome_bind_error_iff]
    constructor
    · rintro (failed | ⟨agents, between, all, failed⟩)
      · -- Some definition fails, and those in front of it are constructed.
        obtain ⟨front, ⟨component, definition⟩, back, agents, between, place, before, failed⟩ :=
          Attempt.outcome_mapM_error_iff.mp failed
        have member := ChainLayout.mem_definitions_of_placed place
        obtain ⟨path, message, refused, rfl⟩ := refused_of_outcome (inside definition member) failed
        exact ⟨path, message, .definition place before refused, rfl⟩
      · -- All are constructed, and an id is repeated.
        rw [Chain.ofAgents, ids_of_constructEach (honest key) all, layout.map_snd_placed] at failed
        split at failed
        · next agentId repeated =>
          cases failed
          obtain ⟨front, back, place, before, first, -⟩ := Chain.firstRepeated_eq_some_iff.mp repeated
          exact ⟨[agentId], _, .repeated all place (before.resolve_left List.not_mem_nil) first, rfl⟩
        · cases failed
    · rintro ⟨path, message, unbuilt, rfl⟩
      cases unbuilt with
      | definition place before refused =>
        have member := ChainLayout.mem_definitions_of_placed place
        exact .inl (Attempt.outcome_mapM_error_iff.mpr ⟨_, _, _, _, _, place, before,
          outcome_of_refused (inside _ member) refused⟩)
      | repeated all place before first =>
        refine .inr ⟨_, _, all, ?_⟩
        rw [Chain.ofAgents, ids_of_constructEach (honest key) all, ChainLayout.map_snd_placed, place,
          Chain.firstRepeated_eq_some_iff.mpr
          ⟨_, _, rfl, .inr before, first, fun _ _ => List.not_mem_nil⟩]
        rfl

/-- If all agents report the ids they were given, what construction raises is a configuration error of the
definition at the top that failed, or of the id that is repeated there, and its text has one prefix for each
definition from there down to the one that failed, in front of the message. Definitions are tried in the
order of the layout, those inside a composite in its turn, and nothing is constructed behind a failure; ids
are compared at the end of each level. -/
theorem construction_errors_are_attributed (honest : registries.Honest (ω := ω)) (key : RegistryKey)
    (layout : ChainLayout) (startedAt : Instant) (world after : ω) (error : FlowError) :
    (Chain.ofLayout registries key layout startedAt).outcome world = (.error (.raised error), after) ↔
      ∃ agentId path message,
        Unbuilt registries key startedAt layout world (agentId :: path) message after ∧
          error = .configuration { message := locate path message, agentId? := some agentId } ∧
            error.display = locate (agentId :: path) message := by
  rw [attributed honest layout]
  constructor
  · rintro ⟨path, message, unbuilt, rfl⟩
    cases path with
    | nil => exact absurd rfl unbuilt.path_ne_nil
    | cons agentId path => exact ⟨agentId, path, message, unbuilt, rfl, rfl⟩
  · rintro ⟨agentId, path, message, unbuilt, same, -⟩
    exact ⟨agentId :: path, message, unbuilt, same⟩

end Failures

section Catalog

open Agent

/-- The types of the catalog in the only registry. -/
def onlyCatalog : Registries StockAgent :=
  ({} : Registries StockAgent).create.1.registerAll ⟨0⟩ Catalog.types

theorem onlyCatalog_honest : onlyCatalog.Honest := by
  intro key startedAt component definition world after agent done
  by_cases here : key = ⟨0⟩
  · subst here
    have opened := Catalog.open_create {}
    have inside (layout startedAt) (_ : ChainLayout.ofConfiguration definition.configuration = .ok layout) :=
      ofLayout_decides opened layout startedAt
    exact ((constructAs_decides inside opened startedAt component).ok done).2.id
  · have unknown : (onlyCatalog.table key).get? definition.agentType = none := by
      have empty : ({} : Registries StockAgent).create.1.table key = Table.empty := by
        cases key with
        | mk index => cases index <;> rfl
      rw [onlyCatalog, Registries.table_registerAll_of_ne here, empty]
      rfl
    rw [constructAs_outcome, construct_outcome, made?, unknown] at done
    cases done

/-- A definition of a type that nothing constructs. -/
def unknownLeaf : AgentDefinition := { agentId := "leaf", agentType := "nothing" }

/-- A composite around it. -/
def innerComposite : AgentDefinition where
  agentId := "inner"
  agentType := "composite-agent"
  configuration := Table.ofList [("processors", .array [toDocument unknownLeaf])]

/-- A composite around the composite. -/
def outerComposite : AgentDefinition where
  agentId := "outer"
  agentType := "composite-agent"
  configuration := Table.ofList [("processors", .array [toDocument innerComposite])]

/-- The failure is two composites down, behind an agent that is constructed. -/
theorem construction_errors_are_attributed_downwards :
    let layout : ChainLayout :=
      { processors := [{ agentId := "first", agentType := "echo" }, outerComposite] }
    let world : Environment := { clock := ⟨0, 0⟩ }
    onlyCatalog.Honest ∧
      (Chain.ofLayout onlyCatalog ⟨0⟩ layout ⟨0, 0⟩).outcome world =
        (.error (.raised (.configuration {
          message := "Invalid configuration for agent 'inner': Invalid configuration for agent 'leaf': " ++
            "unknown agent type 'nothing'"
          agentId? := some "outer" })), world) := by
  intro layout world
  refine ⟨onlyCatalog_honest, (construction_errors_are_attributed onlyCatalog_honest ..).mpr
    ⟨"outer", ["inner", "leaf"], "unknown agent type 'nothing'", ?_, ?_, ?_⟩⟩
  · have leaf : Unbuilt onlyCatalog ⟨0⟩ ⟨0, 0⟩ { processors := [unknownLeaf] } world ["leaf"]
        "unknown agent type 'nothing'" world :=
      .definition (rfl : _ = [] ++ (Component.processor, unknownLeaf) :: []) rfl (.unknownType rfl)
    have inner : Unbuilt onlyCatalog ⟨0⟩ ⟨0, 0⟩ { processors := [innerComposite] } world ["inner", "leaf"]
        "unknown agent type 'nothing'" world :=
      .definition (rfl : _ = [] ++ (Component.processor, innerComposite) :: []) rfl (.inside rfl rfl leaf)
    exact .definition (rfl : _ = [(Component.processor, _)] ++ (Component.processor, outerComposite) :: [])
      rfl (.inside rfl rfl inner)
  · rfl
  · rfl

end Catalog

end Conveyor
