import Conveyor.Proofs.Catalog
import Conveyor.Proofs.LayoutChanges

/-! Nulls in configurations. A setting that is null counts as one that is left out, for every agent: the
typed reads (`required_str`, `optional_str`) pass nulls over, and so do the agents that look their settings
up themselves and the reader of layouts. So the nulls of a configuration can be left out before an agent is
constructed from it, and with them the nulls in the configurations of the definitions that a layout lists,
and so on inwards. The agent, or the error, is the same. -/
namespace Conveyor

variable {α : Type}

namespace Table

/-- The table without the entries whose values fail a test. -/
def filterValues (test : α → Bool) (table : Table α) : Table α where
  entries := table.entries.filter (test ·.2)
  ascending := table.ascending.filter _

theorem get?_filterValues (test : α → Bool) (table : Table α) (key : String) :
    (table.filterValues test).get? key = (table.get? key).filter test := by
  obtain ⟨entries, ascending⟩ := table
  change find key (entries.filter (test ·.2)) = (find key entries).filter test
  induction entries with
  | nil => rfl
  | cons entry rest ih =>
    obtain ⟨first, others⟩ := List.pairwise_cons.mp ascending
    have later := ih others
    rw [find, List.filter_cons]
    by_cases same : entry.1 = key
    · -- No later entry has this key, so if this one goes there is none.
      subst same
      have last : find entry.1 rest = none := find_eq_none_iff.mpr fun member => by
        obtain ⟨other, there, again⟩ := List.mem_map.mp member
        exact absurd (again ▸ first other there) (String.lt_irrefl _)
      by_cases kept : test entry.2
      · rw [if_pos kept, if_pos rfl, find, if_pos rfl, Option.filter_some, if_pos kept]
      · rw [if_neg kept, later, last, if_pos rfl, Option.filter_some, if_neg kept]
        rfl
    · rw [if_neg same, ← later]
      split
      · rw [find, if_neg same]
      · rfl

end Table

namespace Configuration

/-- The configuration without the settings that are null. -/
def withoutNulls (configuration : Configuration) : Configuration :=
  configuration.filterValues (· ≠ .null)

theorem get?_withoutNulls (configuration : Configuration) (field : String) :
    configuration.withoutNulls.get? field = configuration.present? field := by
  rw [withoutNulls, Table.get?_filterValues, present?]
  cases configuration.get? field with
  | none => rfl
  | some value => cases value <;> rfl

theorem present?_withoutNulls (configuration : Configuration) (field : String) :
    configuration.withoutNulls.present? field = configuration.present? field := by
  rw [present?, get?_withoutNulls, present?]
  cases configuration.get? field with
  | none => rfl
  | some value => cases value <;> rfl

/-- The configuration of an agent of some type without its nulls, down to a level. -/
def prunedWithin : Nat → String → Configuration → Configuration
  | 0, _, configuration => configuration.withoutNulls
  | level + 1, agentType, configuration =>
    if agentType = "composite-agent" then
      configuration.withoutNulls.mapValues (Json.changePlace (prunedWithin level))
    else configuration.withoutNulls

/-- The configuration of an agent of some type without its nulls. If that is the type of composites, the
configurations of the definitions in its layout are without theirs, too. -/
def pruned (agentType : String) (configuration : Configuration) : Configuration :=
  prunedWithin (configuration.depth + 1) agentType configuration

theorem mapValues_withoutNulls_congr {one other : String → Configuration → Configuration}
    {configuration : Configuration} (agree : AgreeBelow configuration.depth one other) :
    configuration.withoutNulls.mapValues (Json.changePlace one) =
      configuration.withoutNulls.mapValues (Json.changePlace other) := by
  refine Table.ext (List.map_congr_left fun entry member => ?_)
  have within := depth_le_fieldsDepth (List.mem_of_mem_filter member)
  rw [changePlace_congr (agree.mono within)]

theorem prunedWithin_enough {level other : Nat} (agentType : String) {configuration : Configuration}
    (enough : configuration.depth < level) (enough' : configuration.depth < other) :
    prunedWithin level agentType configuration = prunedWithin other agentType configuration := by
  induction level generalizing other agentType configuration with
  | zero => cases enough
  | succ level ih =>
    cases other with
    | zero => cases enough'
    | succ other =>
      rw [prunedWithin, prunedWithin]
      split
      · exact mapValues_withoutNulls_congr fun agentType inner below =>
          ih agentType (Nat.lt_of_lt_of_le below (Nat.le_of_lt_succ enough))
            (Nat.lt_of_lt_of_le below (Nat.le_of_lt_succ enough'))
      · rfl

/-- The configuration of a composite is pruned by pruning those in its layout. -/
theorem pruned_composite (configuration : Configuration) :
    configuration.pruned "composite-agent" =
      configuration.withoutNulls.mapValues (Json.changePlace pruned) := by
  rw [pruned, prunedWithin, if_pos rfl]
  exact mapValues_withoutNulls_congr fun agentType inner below =>
    prunedWithin_enough agentType below (Nat.lt_succ_self _)

theorem pruned_other {agentType : String} (differ : agentType ≠ "composite-agent")
    (configuration : Configuration) : configuration.pruned agentType = configuration.withoutNulls := by
  rw [pruned, prunedWithin, if_neg differ]

theorem pruned_empty (agentType : String) : pruned agentType Table.empty = Table.empty := by
  rw [pruned, prunedWithin]
  split <;> rfl

end Configuration

section Leaves

open Testing

/-- Two configurations have the same settings that are not null. -/
def SameSettings (one other : Configuration) : Prop :=
  ∀ field, one.present? field = other.present? field

variable {one other : Configuration} (same : SameSettings one other)

include same

theorem optionalText_congr (field : String) : one.optionalText field = other.optionalText field := by
  rw [Configuration.optionalText, Configuration.optionalText, same]

theorem requiredText_congr (field : String) : one.requiredText field = other.requiredText field := by
  rw [Configuration.requiredText, Configuration.requiredText, optionalText_congr same]

/-- What is made of a setting is made of it as it is present, if nothing is made of null. -/
theorem setting_congr (read : Option Json → α) (null : read (some .null) = read none) (field : String) :
    read (one.get? field) = read (other.get? field) := by
  have passed (configuration : Configuration) :
      read (configuration.get? field) = read (configuration.present? field) := by
    rw [Configuration.present?]
    split
    · next found => rw [found, null]
    · rfl
  rw [passed, passed, same]

theorem Testing.Scripted.init_congr (agent : Scripted) :
    (Configurable.init one agent : Activity Environment _) = Configurable.init other agent := by
  have setting (key : String) : Script.ofConfiguration.setting one key =
      Script.ofConfiguration.setting other key :=
    setting_congr same (fun value? => value?.getD .null) rfl key
  have entries : (one.get? "statusEntries").bind natOf? = (other.get? "statusEntries").bind natOf? :=
    setting_congr same (fun value? => value?.bind natOf?) rfl "statusEntries"
  simp only [Configurable.init, Script.ofConfiguration, setting, entries]

theorem Testing.StaticSource.init_congr (agent : StaticSource) :
    (Configurable.init one agent : Activity Environment _) = Configurable.init other agent := by
  have values : StaticSource.valuesOf one = StaticSource.valuesOf other := by
    have filled := setting_congr same (·.getD .null) rfl "values"
    rw [StaticSource.valuesOf, StaticSource.valuesOf]
    generalize one.get? "values" = first, other.get? "values" = second at filled
    cases first <;> cases second <;> cases filled <;> rfl
  simp only [Configurable.init, values]

theorem Testing.Failing.init_congr (agent : Failing) :
    (Configurable.init one agent : Activity Environment _) = Configurable.init other agent := by
  simp only [Configurable.init, Failing.configure, optionalText_congr same]

theorem SetHeader.init_congr (agent : SetHeader) :
    (Configurable.init one agent : Activity Environment _) = Configurable.init other agent := by
  simp only [Configurable.init, SetHeader.configure, requiredText_congr same, same "value"]

theorem LogSink.init_congr (agent : LogSink) :
    (Configurable.init one agent : Activity Environment _) = Configurable.init other agent := by
  simp only [Configurable.init, LogSink.levelOf, optionalText_congr same]

/-- No agent that is not made of others tells a null from a setting that is left out. -/
theorem StockAgent.init_congr (agent : StockAgent) :
    (Configurable.init one agent : Activity Environment _) = Configurable.init other agent := by
  have called {agent : StockAgent} (same : (Configurable.init one agent.facet.agent :
      Activity Environment _) = Configurable.init other agent.facet.agent) :
      (Configurable.init one agent : Activity Environment _) = Configurable.init other agent :=
    congrArg (fun activity => (do return (← activity).mapAgent agent.facet.wrap)) same
  cases agent with
  | setHeader agent => exact called (agent.init_congr same)
  | failing agent => exact called (agent.init_congr same)
  | logSink agent => exact called (agent.init_congr same)
  | staticSource agent => exact called (agent.init_congr same)
  | scripted agent => exact called (agent.init_congr same)
  | _ => rfl

end Leaves

namespace ChainLayout

/-- Nulls among the fields of a layout make no difference. -/
theorem ofConfiguration_withoutNulls (configuration : Configuration) :
    ofConfiguration configuration.withoutNulls = ofConfiguration configuration := by
  have field (name : String) : configuration.withoutNulls.get? name = configuration.get? name ∨
      configuration.withoutNulls.get? name = none ∧ configuration.get? name = some .null := by
    rw [configuration.get?_withoutNulls, Configuration.present?]
    split
    · next found => exact .inr ⟨rfl, found⟩
    · exact .inl rfl
  refine ofConfiguration_congr ⟨?_, ?_, ?_⟩
  · exact (field "source").imp_right fun open' => by simp [open', OpenEnd]
  · exact (field "processors").imp_right fun open' => by simp [open', OpenProcessors]
  · exact (field "sink").imp_right fun open' => by simp [open', OpenEnd]

/-- The layout of a pruned configuration is the layout of the configuration with all definitions pruned. -/
theorem ofConfiguration_pruned (configuration : Configuration) :
    ofConfiguration (configuration.pruned "composite-agent") =
      (ofConfiguration configuration).map (map (AgentDefinition.change Configuration.pruned)) := by
  rw [Configuration.pruned_composite, ofConfiguration_changed Configuration.pruned_empty,
    ofConfiguration_withoutNulls]

end ChainLayout

namespace Catalog

/-- A type with its constructor: that of composites, or another one whose agents are not made of others. -/
def InStock (agentType : String) (constructor : Constructor StockAgent) : Prop :=
  (agentType = "composite-agent" ∧ constructor = composites) ∨
    agentType ≠ "composite-agent" ∧ ∀ key identity now, ∃ stock, constructor key identity now = .leaf stock

theorem inStock_leaf {agentType : String} (differ : agentType ≠ "composite-agent")
    (create : Identity → StockAgent) : InStock agentType (leaf create) :=
  .inr ⟨differ, fun _ _ _ => ⟨_, rfl⟩⟩

theorem inStock_leafNow {agentType : String} (differ : agentType ≠ "composite-agent")
    (create : String → Instant → StockAgent) : InStock agentType (leafNow create) :=
  .inr ⟨differ, fun _ _ _ => ⟨_, rfl⟩⟩

theorem all_inStock (pool : List Handle) : ∀ entry ∈ all pool, InStock entry.1 entry.2 := by
  simp only [all, builtins, testAgents, scriptedAgents, List.cons_append, List.nil_append,
    List.forall_mem_cons]
  refine ⟨inStock_leaf ?_ _, inStock_leaf ?_ _, inStock_leaf ?_ _, inStock_leaf ?_ _, .inl ⟨rfl, rfl⟩,
    inStock_leaf ?_ _, inStock_leaf ?_ _, inStock_leafNow ?_ _, inStock_leafNow ?_ _, inStock_leaf ?_ _,
    inStock_leaf ?_ _, inStock_leafNow ?_ _, inStock_leafNow ?_ _, inStock_leafNow ?_ _,
    inStock_leaf ?_ _, inStock_leaf ?_ _, inStock_leaf ?_ _, inStock_leaf ?_ _, inStock_leaf ?_ _,
    List.forall_mem_nil _⟩
  all_goals decide

end Catalog

namespace Agent

/-- A registry has nothing but types that are in stock. -/
def Stocked (registries : Registries StockAgent) (key : RegistryKey) : Prop :=
  ∀ agentType constructor, (registries.table key).get? agentType = some constructor →
    Catalog.InStock agentType constructor

variable {registries : Registries StockAgent} {key : RegistryKey}

/-- A composite takes its configuration as it takes the pruned one, if that is so for those inside. -/
theorem init_composite_pruned {configuration : Configuration} {identity : Identity}
    (inside : ∀ definition : AgentDefinition, definition.configuration.depth < configuration.depth →
      construct registries key identity.startedAt (definition.change Configuration.pruned) =
        (construct registries key identity.startedAt definition : Attempt Environment _))
    (chain : Chain (Agent StockAgent)) :
    init registries (configuration.pruned "composite-agent") (.composite identity key chain) =
      (init registries configuration (.composite identity key chain) : Activity Environment _) := by
  rw [init_composite, init_composite, initComposite, initComposite, ChainLayout.ofConfiguration_pruned]
  cases read : ChainLayout.ofConfiguration configuration with
  | error error => rfl
  | ok layout =>
    have built : Chain.ofLayoutWith (constructFor (init registries) registries key identity.startedAt)
          (layout.map (AgentDefinition.change Configuration.pruned)) =
        (Chain.ofLayoutWith (constructFor (init registries) registries key identity.startedAt)
          layout : Attempt Environment _) := by
      rw [Chain.ofLayoutWith_map]
      refine Chain.ofLayoutWith_congr fun definition member component => ?_
      have same := inside definition (depth_of_layout read member)
      exact congrArg (fun attempt => attempt >>= fun agent =>
        if (Behaviour.capabilities agent).allow component then return agent
        else Attempt.refuse (missingCapability definition component)) same
    have count : (layout.map (AgentDefinition.change Configuration.pruned)).processors.length =
        layout.processors.length := List.length_map _
    simp only [Except.map, built, count]

theorem construct_congr {startedAt : Instant} {agentId agentType : String} {one other : Configuration}
    (same : ∀ constructor, (registries.table key).get? agentType = some constructor → ∀ now,
      init registries one (constructor key ⟨agentId, agentType, startedAt⟩ now) =
        (init registries other (constructor key ⟨agentId, agentType, startedAt⟩ now) :
          Activity Environment _)) :
    construct registries key startedAt ⟨agentId, agentType, one⟩ =
      (construct registries key startedAt ⟨agentId, agentType, other⟩ : Attempt Environment _) := by
  unfold construct constructBy
  cases found : (registries.table key).get? agentType with
  | none => rfl
  | some constructor => simp only [same constructor found]

/-- An agent is constructed from its definition as from the pruned one. -/
theorem construct_pruned (stocked : Stocked registries key) (startedAt : Instant)
    (definition : AgentDefinition) :
    construct registries key startedAt (definition.change Configuration.pruned) =
      (construct registries key startedAt definition : Attempt Environment _) := by
  induction bound : definition.configuration.depth using Nat.strongRecOn
    generalizing definition startedAt with
  | ind depth ih =>
    obtain ⟨agentId, agentType, configuration⟩ := definition
    subst bound
    refine construct_congr fun constructor found now => ?_
    obtain ⟨rfl, rfl⟩ | ⟨differ, leaf⟩ := stocked agentType constructor found
    · exact init_composite_pruned (fun inner less => ih _ less _ inner rfl) {}
    · obtain ⟨stock, made⟩ := leaf key ⟨agentId, agentType, startedAt⟩ now
      rw [made, Configuration.pruned_other differ, init_leaf, init_leaf,
        stock.init_congr configuration.present?_withoutNulls]

end Agent

namespace Catalog

/-- A new registry in which some types of this library are registered is stocked. -/
theorem stocked_opened (before : Registries StockAgent) {pool : List Handle}
    {constructors : List (String × Constructor StockAgent)} (known : constructors ⊆ all pool) :
    Agent.Stocked (before.create.1.registerAll before.create.2 constructors) before.create.2 := by
  intro agentType constructor found
  rw [Registries.get?_opened] at found
  obtain ⟨front, back, place, -⟩ := List.lookup_eq_some_iff.mp found
  have member : (agentType, constructor) ∈ constructors := List.mem_reverse.mp (by rw [place]; simp)
  exact all_inStock pool _ (known member)

end Catalog

/-- A null counts as absent. Whichever types of this library are registered, constructing an agent of any type
from any configuration is the same as constructing it from the configuration without its nulls, and without
those in the definitions of the layout if the agent is a composite, and so on inwards: in every world there
comes the same agent or the same error, the same world is left and the same events are logged. -/
theorem null_counts_as_absent (before : Registries StockAgent) {pool : List Handle}
    {constructors : List (String × Constructor StockAgent)} (known : constructors ⊆ Catalog.all pool)
    (startedAt : Instant) (agentId agentType : String) (configuration : Configuration)
    (world : Environment) :
    let registries := before.create.1.registerAll before.create.2 constructors
    let key := before.create.2
    (Agent.construct registries key startedAt
        { agentId, agentType, configuration := configuration.pruned agentType }).run.run world =
      (Agent.construct registries key startedAt { agentId, agentType, configuration }).run.run world :=
  congrArg (fun attempt => attempt.run.run world)
    (Agent.construct_pruned (Catalog.stocked_opened before known) startedAt
      { agentId, agentType, configuration })

/-- A layout whose ends are null, of a header with a setting that is null. -/
def nullLayout : Configuration := .ofList [
  ("source", .null), ("sink", .null),
  ("processors", .array [.array [.string "h", .string "set-header",
    .object [("name", .string "lang"), ("note", .null), ("value", .string "en")]]])]

/-- The ends and the setting go, and the composite that is constructed is the same. -/
theorem nullLayout_without_nulls :
    let registries := (Registries.create ⟨[]⟩).1.registerAll ⟨0⟩ Catalog.types
    let world : Environment := { clock := ⟨0, 0⟩ }
    Catalog.types ⊆ Catalog.all [] ∧
      nullLayout.pruned "composite-agent" = .ofList [
        ("processors", .array [.array [.string "h", .string "set-header",
          .object [("name", .string "lang"), ("value", .string "en")]]])] ∧
      (Agent.construct registries ⟨0⟩ ⟨0, 0⟩
          ⟨"c", "composite-agent", nullLayout.pruned "composite-agent"⟩).run.run world =
        (Agent.construct registries ⟨0⟩ ⟨0, 0⟩ ⟨"c", "composite-agent", nullLayout⟩).run.run world := by
  intro registries world
  have known : Catalog.types ⊆ Catalog.all [] := List.subset_append_left _ _
  exact ⟨known, by decide +kernel,
    null_counts_as_absent ⟨[]⟩ known ⟨0, 0⟩ "c" "composite-agent" nullLayout world⟩

end Conveyor
