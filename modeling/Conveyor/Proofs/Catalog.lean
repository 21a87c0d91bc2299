import Conveyor.Proofs.Construction
import Conveyor.Stock.Catalog

/-! The types of the catalog: which component each is for, and which configurations it takes (`init`). An
agent of a type that is not made of other agents takes exactly these configurations and raises an error over
any other, and in either case reports the id that it was given. -/
namespace Conveyor

open Testing

/-- The settings of a header to put on records: a name that is a text and not empty, and a value. -/
def headerSettings (configuration : Configuration) : Prop :=
  (∃ name, configuration.get? "name" = some (.string name) ∧ name ≠ "") ∧
    ∃ value, configuration.get? "value" = some value ∧ value ≠ .null

/-- The settings of a log: a level, which may be left out. -/
def levelSettings (configuration : Configuration) : Prop :=
  configuration.get? "level" ∈
    [none, some .null, some (.string "debug"), some (.string "info"), some (.string "warn")]

/-- A setting that is a text or left out. -/
def optionalTextSetting (configuration : Configuration) (field : String) : Prop :=
  configuration.get? field ∈ [none, some .null] ∨ ∃ text, configuration.get? field = some (.string text)

/-- The settings of a failure: a message and the payload to fail on, both texts and both optional. -/
def failureSettings (configuration : Configuration) : Prop :=
  optionalTextSetting configuration "message" ∧ optionalTextSetting configuration "onValue"

/-- A type of agents that are not made of others: its name, the component that they are for, and the
configurations that they take. -/
structure LeafType where
  name : String
  component : Component
  accepts : Configuration → Prop := fun _ => True

namespace Catalog

/-- The types for use and for tests of chains, without that of composites. -/
def leafTypes : List LeafType := [
  { name := "identity", component := .processor },
  { name := "drop", component := .processor },
  { name := "set-header", component := .processor, accepts := headerSettings },
  { name := "log-event", component := .sink, accepts := levelSettings },
  { name := "echo", component := .processor },
  { name := "duplicate", component := .processor },
  { name := "failing", component := .processor, accepts := failureSettings },
  { name := "panicking", component := .processor },
  { name := "recording-sink", component := .sink },
  { name := "static-source", component := .source }]

end Catalog

namespace LeafType

/-- An agent bears an identity as an agent of a type: it reports the id, and the type if that is the one it
was given, and plays the one role of the type. -/
structure Bears (type : LeafType) (identity : Identity) (agent : StockAgent) : Prop where
  agentId : Behaviour.agentId agent = identity.agentId
  agentType : identity.agentType = type.name → Behaviour.agentType agent = type.name
  fits : ∀ component, (Behaviour.capabilities agent).allow component = decide (component = type.component)

/-- An agent of a type replies to a configuration as it should. -/
structure Takes (type : LeafType) (identity : Identity) (configuration : Configuration)
    (reply : Reply StockAgent Unit) : Prop where
  accepted : reply.result = .ok () ↔ type.accepts configuration
  raised : ∀ fault, reply.result = .error fault → ∃ error, fault = .raised error
  bears : type.Bears identity reply.agent

/-- A constructor makes agents of a type. -/
def MadeBy (type : LeafType) (constructor : Constructor StockAgent) : Prop :=
  ∀ key identity now, ∃ agent, constructor key identity now = .leaf agent ∧
    ∀ configuration (world : Environment),
      type.Takes identity configuration ((Configurable.init configuration agent).effect world).1

section Replies

variable {type : LeafType} {identity : Identity} {configuration : Configuration} {agent : StockAgent}

theorem Bears.takes (bears : type.Bears identity agent) (accepted : type.accepts configuration) :
    type.Takes identity configuration (.ok agent ()) :=
  ⟨⟨fun _ => accepted, fun _ => rfl⟩, nofun, bears⟩

theorem Bears.refuses (bears : type.Bears identity agent) (refused : ¬type.accepts configuration)
    (error : AgentError) : type.Takes identity configuration (.raise agent error) :=
  ⟨⟨nofun, fun accepted => absurd accepted refused⟩,
    fun _ failed => ⟨error, (Except.error.inj failed).symm⟩, bears⟩

end Replies

end LeafType

section Settings

variable {configuration : Configuration}

theorem present?_eq_some_iff {field : String} {value : Json} :
    configuration.present? field = some value ↔ configuration.get? field = some value ∧ value ≠ .null := by
  unfold Configuration.present?
  split <;> grind

theorem present?_eq_none_iff {field : String} :
    configuration.present? field = none ↔ configuration.get? field ∈ [none, some .null] := by
  unfold Configuration.present?
  split <;> grind

/-- A field is left out, or it is a text, or it is refused. -/
theorem optionalText_cases (configuration : Configuration) (field : String) :
    (configuration.optionalText field = .ok none ∧ configuration.get? field ∈ [none, some .null]) ∨
    (∃ text, configuration.optionalText field = .ok (some text) ∧
      configuration.get? field = some (.string text)) ∨
    ∃ error value, configuration.optionalText field = .error error ∧
      configuration.get? field = some value ∧ value ≠ .null ∧ ∀ text, value ≠ .string text := by
  unfold Configuration.optionalText Configuration.refuse
  cases present : configuration.present? field with
  | none => exact .inl ⟨rfl, present?_eq_none_iff.mp present⟩
  | some value =>
    obtain ⟨found, some⟩ := present?_eq_some_iff.mp present
    cases value with
    | string text => exact .inr (.inl ⟨text, rfl, found⟩)
    | null => contradiction
    | _ => exact .inr (.inr ⟨_, _, rfl, found, some, nofun⟩)

/-- A header is taken with its settings, and the identity of the agent stays. -/
theorem SetHeader.configure_spec (configuration : Configuration) (agent : SetHeader) :
    ((SetHeader.configure configuration agent).2 = .ok () ↔ headerSettings configuration) ∧
      (SetHeader.configure configuration agent).1.counters = agent.counters := by
  unfold headerSettings
  rcases optionalText_cases configuration "name" with ⟨read, found⟩ | ⟨name, read, found⟩ |
    ⟨error, value, read, found, -, other⟩
  · have required : configuration.requiredText "name" = .error (.missingField "name") := by
      rw [Configuration.requiredText, read]
      rfl
    rw [SetHeader.configure, required]
    exact ⟨⟨nofun, by grind⟩, rfl⟩
  · have required : configuration.requiredText "name" = .ok name := by
      rw [Configuration.requiredText, read]
      rfl
    rw [SetHeader.configure, required]
    by_cases empty : name.isEmpty
    · simp only [if_pos empty]
      rw [String.isEmpty_iff] at empty
      exact ⟨⟨nofun, by grind⟩, trivial⟩
    · simp only [if_neg empty]
      rw [String.isEmpty_iff] at empty
      cases present : configuration.present? "value" with
      | none =>
        rw [present?_eq_none_iff] at present
        exact ⟨⟨nofun, by grind⟩, rfl⟩
      | some value =>
        rw [present?_eq_some_iff] at present
        exact ⟨⟨fun _ => ⟨⟨name, found, empty⟩, value, present⟩, fun _ => rfl⟩, rfl⟩
  · have required : configuration.requiredText "name" = .error error := by
      rw [Configuration.requiredText, read]
      rfl
    rw [SetHeader.configure, required]
    exact ⟨⟨nofun, by grind⟩, rfl⟩

theorem levelOf_ok_iff (configuration : Configuration) :
    (∃ level, LogSink.levelOf configuration = .ok level) ↔ levelSettings configuration := by
  unfold LogSink.levelOf levelSettings
  rcases optionalText_cases configuration "level" with ⟨read, found⟩ | ⟨text, read, found⟩ |
    ⟨error, value, read, found, some, other⟩
  · rw [read]
    exact ⟨fun _ => by grind, fun _ => ⟨.info, rfl⟩⟩
  · rw [read]
    simp only [bind, Except.bind]
    split
    · grind
    · exact ⟨fun _ => by grind, fun _ => ⟨_, rfl⟩⟩
    · exact ⟨fun _ => by grind, fun _ => ⟨_, rfl⟩⟩
    · exact ⟨fun _ => by grind, fun _ => ⟨_, rfl⟩⟩
    · exact ⟨nofun, by grind⟩
  · rw [read]
    exact ⟨nofun, by grind⟩

/-- A failure is taken with its settings, and the identity of the agent stays. -/
theorem Failing.configure_spec (configuration : Configuration) (agent : Failing) :
    ((Failing.configure configuration agent).2 = .ok () ↔ failureSettings configuration) ∧
      (Failing.configure configuration agent).1.counters = agent.counters := by
  have setting (field : String) : (∃ text?, configuration.optionalText field = .ok text?) ↔
      optionalTextSetting configuration field := by
    unfold optionalTextSetting
    rcases optionalText_cases configuration field with ⟨read, found⟩ | ⟨text, read, found⟩ |
      ⟨error, value, read, found, some, other⟩
    · exact ⟨fun _ => .inl found, fun _ => ⟨_, read⟩⟩
    · exact ⟨fun _ => .inr ⟨text, found⟩, fun _ => ⟨_, read⟩⟩
    · exact ⟨fun ⟨text?, same⟩ => by grind, by grind⟩
  rw [failureSettings, ← setting, ← setting, Failing.configure]
  cases message : configuration.optionalText "message" with
  | error error => exact ⟨⟨nofun, by grind⟩, rfl⟩
  | ok message? =>
    cases value : configuration.optionalText "onValue" with
    | error error => exact ⟨⟨nofun, by grind⟩, rfl⟩
    | ok value? => cases value? <;> exact ⟨⟨fun _ => ⟨⟨_, rfl⟩, _, rfl⟩, fun _ => rfl⟩, rfl⟩

end Settings

namespace Catalog

/-- Agents that no configuration changes are of a type that takes every configuration. -/
theorem madeBy_unchanged {name : String} (component : Component)
    {create : Identity → Instant → StockAgent}
    (bears : ∀ identity now, LeafType.Bears { name, component } identity (create identity now))
    (unchanged : ∀ identity now configuration, Configurable.init configuration (create identity now) =
      pure (.ok (create identity now) ())) :
    LeafType.MadeBy { name, component } fun _ identity now => .leaf (create identity now) := by
  refine fun _ identity now => ⟨create identity now, rfl, fun configuration world => ?_⟩
  rw [unchanged]
  exact (bears identity now).takes trivial

theorem madeBy_staticSource : LeafType.MadeBy { name := "static-source", component := .source }
    (leaf fun identity => .staticSource (.ofIdentity identity [])) := by
  refine fun _ identity _ => ⟨.staticSource (.ofIdentity identity []), rfl, fun configuration world => ?_⟩
  have called : ((Configurable.init configuration
      (StockAgent.staticSource (.ofIdentity identity []))).effect world).1 =
        ((Configurable.init configuration (StaticSource.ofIdentity identity [])).effect world).1.mapAgent
          .staticSource := rfl
  rw [called]
  simp only [Configurable.init]
  -- Values that are listed make a batch, and anything else is passed over.
  cases StaticSource.valuesOf configuration with
  | none => exact LeafType.Bears.takes ⟨rfl, id, fun other => by cases other <;> rfl⟩ trivial
  | some values => exact LeafType.Bears.takes ⟨rfl, id, fun other => by cases other <;> rfl⟩ trivial

theorem madeBy_setHeader :
    LeafType.MadeBy { name := "set-header", component := .processor, accepts := headerSettings }
      (leaf fun identity => .setHeader (.ofIdentity identity)) := by
  refine fun _ identity _ => ⟨.setHeader (.ofIdentity identity), rfl, fun configuration world => ?_⟩
  obtain ⟨accepted, kept⟩ := SetHeader.configure_spec configuration (.ofIdentity identity)
  have called : ((Configurable.init configuration (StockAgent.setHeader (.ofIdentity identity))).effect
      world).1 = ((Configurable.init configuration (SetHeader.ofIdentity identity)).effect
        world).1.mapAgent .setHeader := rfl
  rw [called]
  simp only [Configurable.init]
  generalize SetHeader.configure configuration (.ofIdentity identity) = taken at accepted kept
  obtain ⟨⟨_, name, value⟩, result⟩ := taken
  cases kept
  have bears : LeafType.Bears { name := "set-header", component := .processor, accepts := headerSettings }
      identity (.setHeader ⟨(SetHeader.ofIdentity identity).counters, name, value⟩) :=
    ⟨rfl, id, fun other => by cases other <;> rfl⟩
  cases result with
  | error error => exact bears.refuses (fun fine => nomatch accepted.mpr fine) _
  | ok => exact bears.takes (accepted.mp rfl)

theorem madeBy_failing :
    LeafType.MadeBy { name := "failing", component := .processor, accepts := failureSettings }
      (leafNow fun agentId now => .failing (.create agentId .always "failed" now)) := by
  refine fun _ identity now =>
    ⟨.failing (.create identity.agentId .always "failed" now), rfl, fun configuration world => ?_⟩
  obtain ⟨accepted, kept⟩ :=
    Failing.configure_spec configuration (.create identity.agentId .always "failed" now)
  have called : ((Configurable.init configuration
      (StockAgent.failing (.create identity.agentId .always "failed" now))).effect world).1 =
      ((Configurable.init configuration
        (Failing.create identity.agentId .always "failed" now)).effect world).1.mapAgent .failing := rfl
  rw [called]
  simp only [Configurable.init]
  generalize Failing.configure configuration (.create identity.agentId .always "failed" now) = taken
    at accepted kept
  obtain ⟨⟨_, policy, message, calls⟩, result⟩ := taken
  cases kept
  have bears : LeafType.Bears { name := "failing", component := .processor, accepts := failureSettings }
      identity (.failing ⟨(Failing.create identity.agentId .always "failed" now).counters, policy, message,
        calls⟩) :=
    ⟨rfl, fun _ => rfl, fun other => by cases other <;> rfl⟩
  cases result with
  | error error => exact bears.refuses (fun fine => nomatch accepted.mpr fine) _
  | ok => exact bears.takes (accepted.mp rfl)

theorem madeBy_logSink :
    LeafType.MadeBy { name := "log-event", component := .sink, accepts := levelSettings }
      (leaf fun identity => .logSink (.ofIdentity identity)) := by
  refine fun _ identity _ => ⟨.logSink (.ofIdentity identity), rfl, fun configuration world => ?_⟩
  have accepted := levelOf_ok_iff configuration
  have called : ((Configurable.init configuration (StockAgent.logSink (.ofIdentity identity))).effect
      world).1 = ((Configurable.init configuration (LogSink.ofIdentity identity)).effect
        world).1.mapAgent .logSink := rfl
  rw [called]
  simp only [Configurable.init]
  cases level : LogSink.levelOf configuration with
  | error error =>
    rw [level] at accepted
    exact LeafType.Bears.refuses ⟨rfl, id, fun other => by cases other <;> rfl⟩
      (fun fine => nomatch accepted.mpr fine) _
  | ok level' =>
    exact LeafType.Bears.takes ⟨rfl, id, fun other => by cases other <;> rfl⟩ (accepted.mp ⟨level', level⟩)

/-- The constructor of composites. -/
def composites : Constructor StockAgent := fun registry identity _ => Agent.emptyComposite identity registry

/-- The types for use and for tests of chains. -/
def types : List (String × Constructor StockAgent) := builtins ++ testAgents

/-- Everything in the catalog makes composites or is a type of leaves under its name. -/
theorem mem_types {name : String} {constructor : Constructor StockAgent}
    (member : (name, constructor) ∈ types) :
    name = "composite-agent" ∧ constructor = composites ∨
      ∃ type ∈ leafTypes, type.name = name ∧ type.MadeBy constructor := by
  simp only [types, builtins, testAgents, List.cons_append, List.nil_append, List.mem_cons,
    List.not_mem_nil, or_false, Prod.mk.injEq] at member
  rcases member with ⟨rfl, rfl⟩ | ⟨rfl, rfl⟩ | ⟨rfl, rfl⟩ | ⟨rfl, rfl⟩ | ⟨rfl, rfl⟩ | ⟨rfl, rfl⟩ |
    ⟨rfl, rfl⟩ | ⟨rfl, rfl⟩ | ⟨rfl, rfl⟩ | ⟨rfl, rfl⟩ | ⟨rfl, rfl⟩
  · exact .inr ⟨_, by simp [leafTypes], rfl, madeBy_unchanged .processor
      (fun _ _ => ⟨rfl, id, fun other => by cases other <;> rfl⟩) fun _ _ _ => rfl⟩
  · exact .inr ⟨_, by simp [leafTypes], rfl, madeBy_unchanged .processor
      (fun _ _ => ⟨rfl, id, fun other => by cases other <;> rfl⟩) fun _ _ _ => rfl⟩
  · exact .inr ⟨_, by simp [leafTypes], rfl, madeBy_setHeader⟩
  · exact .inr ⟨_, by simp [leafTypes], rfl, madeBy_logSink⟩
  · exact .inl ⟨rfl, rfl⟩
  · exact .inr ⟨_, by simp [leafTypes], rfl, madeBy_unchanged .processor
      (fun _ _ => ⟨rfl, id, fun other => by cases other <;> rfl⟩) fun _ _ _ => rfl⟩
  · exact .inr ⟨_, by simp [leafTypes], rfl, madeBy_unchanged .processor
      (fun _ _ => ⟨rfl, id, fun other => by cases other <;> rfl⟩) fun _ _ _ => rfl⟩
  · exact .inr ⟨_, by simp [leafTypes], rfl, madeBy_failing⟩
  · exact .inr ⟨_, by simp [leafTypes], rfl, madeBy_unchanged .processor
      (fun _ _ => ⟨rfl, fun _ => rfl, fun other => by cases other <;> rfl⟩) fun _ _ _ => rfl⟩
  · exact .inr ⟨_, by simp [leafTypes], rfl, madeBy_unchanged .sink
      (fun _ _ => ⟨rfl, id, fun other => by cases other <;> rfl⟩) fun _ _ _ => rfl⟩
  · exact .inr ⟨_, by simp [leafTypes], rfl, madeBy_staticSource⟩

theorem names_types : types.map Prod.fst = ["identity", "drop", "set-header", "log-event",
    "composite-agent", "echo", "duplicate", "failing", "panicking", "recording-sink",
    "static-source"] := rfl

end Catalog

namespace Registries

variable {σ : Type} {registries : Registries σ} {key : RegistryKey}

theorem table_register (exists_ : key.index < registries.tables.length) (agentType : String)
    (constructor : Constructor σ) :
    (registries.register key agentType constructor).table key =
      (registries.table key).insert agentType constructor := by
  simp [register, table, exists_]

/-- Registering changes no other registry. -/
theorem table_registerAll_of_ne {other : RegistryKey} (differ : other ≠ key)
    (constructors : List (String × Constructor σ)) :
    (registries.registerAll key constructors).table other = registries.table other := by
  induction constructors generalizing registries with
  | nil => rfl
  | cons entry rest ih =>
    have rest' : registries.registerAll key (entry :: rest) =
        (registries.register key entry.1 entry.2).registerAll key rest := rfl
    have index : key.index ≠ other.index := fun same => differ (congrArg RegistryKey.mk same.symm)
    rw [rest', ih]
    simp [register, table, List.getElem?_set_ne index]

/-- The constructor of a type is the last that was registered for it. -/
theorem get?_registerAll (exists_ : key.index < registries.tables.length)
    (constructors : List (String × Constructor σ)) (agentType : String) :
    ((registries.registerAll key constructors).table key).get? agentType =
      (constructors.reverse.lookup agentType).or ((registries.table key).get? agentType) := by
  induction constructors generalizing registries with
  | nil => rfl
  | cons entry rest ih =>
    have still : key.index < (registries.register key entry.1 entry.2).tables.length := by
      simpa [register] using exists_
    have rest' : registries.registerAll key (entry :: rest) =
        (registries.register key entry.1 entry.2).registerAll key rest := rfl
    rw [rest', ih still, table_register exists_, List.reverse_cons, List.lookup_append, Option.or_assoc]
    congr 1
    by_cases same : agentType = entry.1
    · subst same
      rw [Table.get?_insert_self, List.lookup_cons_self]
      rfl
    · rw [Table.get?_insert_of_ne _ same, List.lookup_cons, beq_eq_false_iff_ne.mpr same]
      rfl

/-- A new registry has what was registered in it and nothing else. -/
theorem get?_opened (before : Registries σ) (constructors : List (String × Constructor σ))
    (agentType : String) :
    ((before.create.1.registerAll before.create.2 constructors).table before.create.2).get? agentType =
      constructors.reverse.lookup agentType := by
  have exists_ : before.create.2.index < before.create.1.tables.length := by simp [create]
  have new : before.create.1.table before.create.2 = Table.empty := by simp [create, table]
  rw [get?_registerAll exists_, new, Table.get?_empty, Option.or_none]

end Registries

namespace Catalog

/-- The registry under a key has the types of the catalog and no others. -/
def Open (registries : Registries StockAgent) (key : RegistryKey) : Prop :=
  ∀ agentType, (registries.table key).get? agentType = types.reverse.lookup agentType

/-- A new registry in which the types are registered has just these. -/
theorem open_create (before : Registries StockAgent) :
    Open (before.create.1.registerAll before.create.2 types) before.create.2 :=
  Registries.get?_opened before types

/-- A name is that of composites, or of a type of leaves, or not known. -/
theorem Open.lookup {registries : Registries StockAgent} {key : RegistryKey} (opened : Open registries key)
    (name : String) :
    (name = "composite-agent" ∧ (registries.table key).get? name = some composites) ∨
    (∃ type ∈ leafTypes, type.name = name ∧ ∃ constructor,
      (registries.table key).get? name = some constructor ∧ type.MadeBy constructor) ∨
    (name ≠ "composite-agent" ∧ (∀ type ∈ leafTypes, type.name ≠ name) ∧
      (registries.table key).get? name = none) := by
  rw [opened]
  cases found : types.reverse.lookup name with
  | some constructor =>
    obtain ⟨front, back, place, -⟩ := List.lookup_eq_some_iff.mp found
    have member : (name, constructor) ∈ types := List.mem_reverse.mp (by rw [place]; simp)
    obtain ⟨named, rfl⟩ | ⟨type, known, named, made⟩ := mem_types member
    · exact .inl ⟨named, rfl⟩
    · exact .inr (.inl ⟨type, known, named, constructor, rfl, made⟩)
  | none =>
    rw [List.lookup_eq_none_iff] at found
    have unknown : ∀ other ∈ types.map Prod.fst, name ≠ other := by
      intro other member
      obtain ⟨entry, here, rfl⟩ := List.mem_map.mp member
      simpa using found entry (List.mem_reverse.mpr here)
    have leaves : ∀ type ∈ leafTypes, type.name ∈ types.map Prod.fst := by
      rw [names_types]
      simp [leafTypes]
    refine .inr (.inr ⟨unknown _ ?_, fun type known => (unknown _ (leaves type known)).symm, rfl⟩)
    rw [names_types]
    simp

/-- A name is that of one type of leaves at most, and never that of composites. -/
theorem names_leafTypes : (leafTypes.map LeafType.name).Nodup ∧
    ∀ type ∈ leafTypes, type.name ≠ "composite-agent" := by
  simp [leafTypes]

end Catalog

end Conveyor
