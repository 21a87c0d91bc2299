import Conveyor.Pipeline.Definition
import Conveyor.Proofs.Construction
import Conveyor.Proofs.Documents

/-! Layouts and pipelines (`ChainConfiguration`, `PipelineDefinition`) are read back as they were written.
Nothing in them is written in two ways or in none: what is absent is left out, an empty request for
resources is an empty object and not an absent one, and a configuration is a table, so its entries are
written in the one order in which they are read. A layout therefore also survives as the configuration of a
composite, which builds the chain that is built from the layout itself, or fails as that does. -/
namespace Conveyor

open Decoding

theorem Configuration.read_written (configuration : Configuration) :
    fields configuration.toJson = .ok configuration :=
  congrArg Except.ok configuration.ofList_entries

/-- An object whose fields stand in order is the document of the configuration made of it. -/
theorem Configuration.toJson_ofJson {entries : List (String × Json)} (sorted : Ascending entries) :
    (ofJson (.object entries)).toJson = .object entries :=
  congrArg Json.object (Table.entries_ofList sorted)

/-- The fields of an object that are present stand in the order in which all of them are listed. -/
theorem ascending_ofFields {fields : List (String × Option Json)} (sorted : Ascending fields) :
    Ascending (fields.filterMap fun field => field.2.map (field.1, ·)) := by
  refine List.Pairwise.filterMap _ (fun one other less first here second there => ?_) sorted
  obtain ⟨_, _, rfl⟩ := Option.map_eq_some_iff.mp here
  obtain ⟨_, _, rfl⟩ := Option.map_eq_some_iff.mp there
  exact less

theorem AgentDefinition.read_written (definition : AgentDefinition) :
    ofDocument (toDocument definition) = .ok definition := by
  let entries := [("agentId", .string definition.agentId), ("agentType", .string definition.agentType),
    ("configuration", definition.configuration.toJson)]
  have agentId : field? entries "agentId" text = .ok (some definition.agentId) := rfl
  have agentType : field? entries "agentType" text = .ok (some definition.agentType) := rfl
  have configuration : field? entries "configuration" fields = .ok (some definition.configuration) :=
    congrArg (Except.map some) definition.configuration.read_written
  change ofObject entries = _
  rw [ofObject, agentId, agentType, configuration]
  rfl

namespace ChainLayout

/-- The fields of a layout, with the document of each that is written. -/
def fields (layout : ChainLayout) : List (String × Option Json) := [
  ("processors", some (.array (layout.processors.map toDocument))),
  ("sink", layout.sink?.map toDocument),
  ("source", layout.source?.map toDocument)]

theorem find_fields (layout : ChainLayout) (name : String) :
    Table.find name (layout.fields.filterMap fun field => field.2.map (field.1, ·)) =
      (layout.fields.lookup name).join :=
  find_ofFields (by simp [fields]) name

theorem ascending_fields (layout : ChainLayout) : Ascending layout.fields := by
  have names : ["processors", "sink", "source"].Pairwise (· < ·) := by decide
  exact (List.pairwise_map (f := Prod.fst) (l := layout.fields)).mp names

/-- An end that is there is not taken for one that is left empty. -/
theorem readEnd_written (definition : AgentDefinition) :
    readEnd (toDocument definition) = .ok (some definition) := by
  change (ofDocument (toDocument definition) : Result AgentDefinition).map some = _
  rw [definition.read_written]
  rfl

theorem readProcessors_written (processors : List AgentDefinition) :
    readProcessors (.array (processors.map toDocument)) = .ok processors := by
  have read : Decoding.list ofDocument (.array (processors.map toDocument)) = .ok processors :=
    list_ok AgentDefinition.read_written processors
  change ((Decoding.list ofDocument _).map some).map (·.getD []) = _
  rw [read]
  rfl

theorem read_written (layout : ChainLayout) : ofDocument (toDocument layout) = .ok layout := by
  let entries := layout.fields.filterMap fun field => field.2.map (field.1, ·)
  have processors : field? entries "processors" readProcessors = .ok (some layout.processors) := by
    rw [field?, layout.find_fields "processors"]
    exact congrArg (Except.map some) (readProcessors_written layout.processors)
  have sink : field? entries "sink" readEnd = .ok (layout.sink?.map some) :=
    field?_maybe toDocument readEnd_written (layout.find_fields "sink")
  have source : field? entries "source" readEnd = .ok (layout.source?.map some) :=
    field?_maybe toDocument readEnd_written (layout.find_fields "source")
  change ofObject entries = _
  rw [ofObject, processors, sink, source]
  obtain ⟨source?, processors, sink?⟩ := layout
  cases source? <;> cases sink? <;> rfl

/-- A layout survives as a configuration. -/
theorem ofConfiguration_written (layout : ChainLayout) :
    ofConfiguration (Configuration.ofJson (toDocument layout)) = .ok layout := by
  have document : (Configuration.ofJson (toDocument layout)).toJson = toDocument layout :=
    Configuration.toJson_ofJson (ascending_ofFields layout.ascending_fields)
  rw [ofConfiguration, document, layout.read_written]

end ChainLayout

/-- A request is read back as it was made, also one that asks for nothing. -/
theorem ResourcesSpec.read_written (spec : ResourcesSpec) : ofDocument (toDocument spec) = .ok spec := by
  let listed : List (String × Option Json) := [
    ("parallelism", spec.parallelism?.map fun value => .int value.toNat),
    ("size", spec.size?.map fun value => .int value.toNat)]
  let entries := listed.filterMap fun field => field.2.map (field.1, ·)
  have found (name : String) : Table.find name entries = (listed.lookup name).join :=
    find_ofFields (by simp [listed]) name
  have parallelism : field? entries "parallelism" (Decoding.optional uint32) =
      .ok (spec.parallelism?.map some) :=
    field?_optional_ok (fun value : UInt32 => .int value.toNat) (by simp) uint32_toNat
      (found "parallelism")
  have size : field? entries "size" (Decoding.optional uint32) = .ok (spec.size?.map some) :=
    field?_optional_ok (fun value : UInt32 => .int value.toNat) (by simp) uint32_toNat (found "size")
  change ofObject entries = _
  rw [ofObject, parallelism, size]
  obtain ⟨parallelism?, size?⟩ := spec
  cases parallelism? <;> cases size? <;> rfl

theorem ResourcesSpec.toDocument_ne_null (spec : ResourcesSpec) : toDocument spec ≠ Json.null :=
  Json.noConfusion

/-- A step is written with the first of the two names of its type only. -/
theorem StepDefinition.read_written (step : StepDefinition) : ofDocument (toDocument step) = .ok step := by
  let listed : List (String × Option Json) := [
    ("configuration", some step.configuration.toJson), ("id", step.id?.map .string),
    ("resources", step.resources?.map toDocument), ("type", some (.string step.agentType))]
  let entries := listed.filterMap fun field => field.2.map (field.1, ·)
  have found (name : String) : Table.find name entries = (listed.lookup name).join :=
    find_ofFields (by simp [listed]) name
  have otherName : field? entries "agentType" text = .ok none := by
    rw [field?, found "agentType"]
    rfl
  have configuration : field? entries "configuration" fields = .ok (some step.configuration) := by
    rw [field?, found "configuration"]
    exact congrArg (Except.map some) step.configuration.read_written
  have id : field? entries "id" (Decoding.optional text) = .ok (step.id?.map some) :=
    field?_optional_ok .string (by simp) (fun _ => rfl) (found "id")
  have resources : field? entries "resources" (Decoding.optional ofDocument) =
      .ok (step.resources?.map some) :=
    field?_optional_ok toDocument ResourcesSpec.toDocument_ne_null ResourcesSpec.read_written
      (found "resources")
  have agentType : pickType entries none = .ok (some step.agentType) := by
    rw [pickType, field?, found "type"]
    rfl
  change ofObject entries = _
  refine bind_eq_ok_iff.mpr ⟨_, otherName, bind_eq_ok_iff.mpr ⟨_, configuration, ?_⟩⟩
  refine bind_eq_ok_iff.mpr ⟨_, id, bind_eq_ok_iff.mpr ⟨_, resources, ?_⟩⟩
  refine bind_eq_ok_iff.mpr ⟨_, agentType, ?_⟩
  obtain ⟨agentType, id?, configuration, resources?⟩ := step
  cases id? <;> cases resources? <;> rfl

/-- Default resources that ask for nothing are not taken for resources that are absent. -/
theorem PipelineDefinition.read_written (pipeline : PipelineDefinition) :
    ofDocument (toDocument pipeline) = .ok pipeline := by
  let listed : List (String × Option Json) := [
    ("id", some (.string pipeline.id)), ("resources", pipeline.resources?.map toDocument),
    ("steps", some (.array (pipeline.steps.map toDocument)))]
  let entries := listed.filterMap fun field => field.2.map (field.1, ·)
  have found (name : String) : Table.find name entries = (listed.lookup name).join :=
    find_ofFields (by simp [listed]) name
  have id : field? entries "id" text = .ok (some pipeline.id) := by
    rw [field?, found "id"]
    rfl
  have resources : field? entries "resources" (Decoding.optional ofDocument) =
      .ok (pipeline.resources?.map some) :=
    field?_optional_ok toDocument ResourcesSpec.toDocument_ne_null ResourcesSpec.read_written
      (found "resources")
  have steps : field? entries "steps" (Decoding.list ofDocument) = .ok (some pipeline.steps) := by
    rw [field?, found "steps"]
    exact congrArg (Except.map some) (list_ok StepDefinition.read_written pipeline.steps)
  change ofObject entries = _
  rw [ofObject, id, resources, steps]
  obtain ⟨id, resources?, steps⟩ := pipeline
  cases resources? <;> rfl

/-- Resources that ask for nothing are written, absent ones are left out. -/
example : toDocument ({ id := "p", resources? := some {}, steps := [] } : PipelineDefinition) =
      .object [("id", .string "p"), ("resources", .object []), ("steps", .array [])] ∧
    toDocument ({ id := "p", steps := [] } : PipelineDefinition) =
      .object [("id", .string "p"), ("steps", .array [])] :=
  ⟨rfl, rfl⟩

/-- Layouts and pipelines are read back as they were written, so a pipeline that was written resolves as
before. A layout that was written is also a configuration: a composite that is given it ends with the
chain that is built from the layout in its registry and with its time of start, or stays as it was and
raises the error of that chain, and does nothing else but to log that it has been built. -/
theorem declarations_survive_writing {ω σ : Type} [Behaviour ω σ] [Configurable ω σ] [Clock ω]
    (layout : ChainLayout) (pipeline : PipelineDefinition) :
    ofDocument (toDocument layout) = .ok layout ∧
    ChainLayout.ofConfiguration (Configuration.ofJson (toDocument layout)) = .ok layout ∧
    (∀ (registries : Registries σ) (identity : Identity) (registry : RegistryKey)
        (before : Chain (Agent σ)),
      Agent.init registries (Configuration.ofJson (toDocument layout))
        (.composite identity registry before) =
      (do
        match ← (Chain.ofLayout registries registry layout identity.startedAt).run with
        | .ok chain =>
          Activity.log (.compositeBuilt identity.agentId layout.processors.length)
          return .ok (.composite identity registry chain) ()
        | .error fault =>
          return ⟨.composite identity registry before, .error (Agent.buildFault fault)⟩ :
        Activity ω (Reply (Agent σ) Unit))) ∧
    ofDocument (toDocument pipeline) = .ok pipeline ∧
    (ofDocument (toDocument pipeline)).map PipelineDefinition.resolve = .ok pipeline.resolve ∧
    (ofDocument (toDocument pipeline)).map PipelineDefinition.toLayout = .ok pipeline.toLayout := by
  refine ⟨layout.read_written, layout.ofConfiguration_written, ?_, pipeline.read_written, ?_, ?_⟩
  · intro registries identity registry before
    rw [Agent.init_composite, Agent.initComposite, layout.ofConfiguration_written]
    refine congrArg (_ >>= ·) (funext fun built => ?_)
    cases built <;> rfl
  · rw [pipeline.read_written]
    rfl
  · rw [pipeline.read_written]
    rfl

end Conveyor
