import Conveyor.Proofs.Construction
import Conveyor.Proofs.LayoutGrammar

/-! Changes to the configurations inside a layout. A layout lists definitions, and each may have a
configuration that is itself the layout of a composite. A change to these configurations is made where they
stand in the document, and leaves all else in it alone. Reading the layout afterwards (`from_configuration`)
comes to the same as changing the definitions that were read, errors included, as long as a definition
without a configuration stays one. -/
namespace Conveyor

open Decoding

variable {α β γ : Type}

namespace Table

/-- Entries with their values changed. -/
def mapEntries (change : String → α → β) (entries : List (String × α)) : List (String × β) :=
  entries.map fun entry => (entry.1, change entry.1 entry.2)

theorem find_mapEntries (change : String → α → β) (entries : List (String × α)) (key : String) :
    find key (mapEntries change entries) = (find key entries).map (change key) := by
  induction entries with
  | nil => rfl
  | cons entry rest ih =>
    change (if entry.1 = key then some (change entry.1 entry.2) else find key (mapEntries change rest)) = _
    rw [ih, find]
    split
    · next same =>
      rw [same]
      rfl
    · rfl

/-- The table with its values changed. -/
def mapValues (change : String → α → β) (table : Table α) : Table β where
  entries := mapEntries change table.entries
  ascending := List.pairwise_map.mpr table.ascending

end Table

/-- The document of a configuration, with the configuration changed. -/
def Json.changeSettings (change : Configuration → Configuration) : Json → Json
  | .object fields => .object (change (.ofList fields)).entries
  | other => other

/-- The document of a definition, with the configuration changed by the type of the definition. -/
def Json.changeDefinition (change : String → Configuration → Configuration) : Json → Json
  | .object fields =>
    match Table.find "agentType" fields with
    | some (.string agentType) => .object <| Table.mapEntries (fun key value =>
        if key = "configuration" then value.changeSettings (change agentType) else value) fields
    | _ => .object fields
  | .array (agentId :: .string agentType :: settings :: rest) =>
    .array (agentId :: .string agentType :: settings.changeSettings (change agentType) :: rest)
  | other => other

/-- The document of a list, with the items changed. -/
def Json.changeItems (change : Json → Json) : Json → Json
  | .array items => .array (items.map change)
  | other => other

/-- The value of a field of a layout, with the configurations of the definitions in it changed. -/
def Json.changePlace (change : String → Configuration → Configuration) (field : String)
    (document : Json) : Json :=
  if field = "processors" then document.changeItems (changeDefinition change)
  else if field = "source" ∨ field = "sink" then document.changeDefinition change
  else document

/-- The definition with its configuration changed by its type. -/
def AgentDefinition.change (change : String → Configuration → Configuration)
    (definition : AgentDefinition) : AgentDefinition :=
  { definition with configuration := change definition.agentType definition.configuration }

/-- The layout with its definitions changed. -/
def ChainLayout.map (change : AgentDefinition → AgentDefinition) (layout : ChainLayout) : ChainLayout where
  source? := layout.source?.map change
  processors := layout.processors.map change
  sink? := layout.sink?.map change

section Levels

/-- Two ways to change configurations agree on those that are less deep than a bound. -/
def AgreeBelow (bound : Nat) (one other : String → Configuration → Configuration) : Prop :=
  ∀ agentType (configuration : Configuration), configuration.depth < bound →
    one agentType configuration = other agentType configuration

theorem AgreeBelow.mono {bound less : Nat} {one other : String → Configuration → Configuration}
    (agree : AgreeBelow bound one other) (within : less ≤ bound) : AgreeBelow less one other :=
  fun agentType configuration below => agree agentType configuration (Nat.lt_of_lt_of_le below within)

variable {one other : String → Configuration → Configuration}

theorem changeSettings_congr {document : Json} (agree : AgreeBelow document.depth one other)
    (agentType : String) :
    document.changeSettings (one agentType) = document.changeSettings (other agentType) := by
  cases document with
  | object fields =>
    rw [Json.changeSettings, Json.changeSettings,
      agree agentType _ (Nat.lt_succ_of_le (depth_ofList fields))]
  | _ => rfl

theorem changeDefinition_congr {document : Json} (agree : AgreeBelow document.depth one other) :
    document.changeDefinition one = document.changeDefinition other := by
  cases document with
  | object fields =>
    rw [Json.changeDefinition, Json.changeDefinition]
    split
    · next agentType _ =>
      refine congrArg Json.object (List.map_congr_left fun field member => ?_)
      have within := Nat.le_succ_of_le (depth_le_fieldsDepth member)
      dsimp only
      rw [changeSettings_congr (agree.mono within) agentType]
    · rfl
  | array items =>
    rw [Json.changeDefinition.eq_def, Json.changeDefinition.eq_def]
    split
    · next impossible => cases impossible
    · next agentId agentType settings rest same =>
      cases same
      have within : settings.depth ≤ Json.depth (.array (agentId :: .string agentType :: settings :: rest)) :=
        Nat.le_succ_of_le (depth_le_itemsDepth (by simp))
      rw [changeSettings_congr (agree.mono within) agentType]
    · rfl
  | _ => rfl

theorem changePlace_congr {document : Json} (agree : AgreeBelow document.depth one other)
    (field : String) : document.changePlace one field = document.changePlace other field := by
  have items : document.changeItems (Json.changeDefinition one) =
      document.changeItems (Json.changeDefinition other) := by
    cases document with
    | array items =>
      refine congrArg Json.array (List.map_congr_left fun item member => ?_)
      exact changeDefinition_congr (agree.mono (Nat.le_succ_of_le (depth_le_itemsDepth member)))
    | _ => rfl
  rw [Json.changePlace, Json.changePlace, items, changeDefinition_congr agree]

end Levels

section Reading

theorem fields_changeSettings (change : Configuration → Configuration) (document : Json) :
    fields (document.changeSettings change) = (fields document).map change := by
  cases document with
  | object entries => exact congrArg Except.ok (Table.ofList_entries _)
  | _ => rfl

theorem map_eq_self {result : Result α} {change : α → α}
    (fixed : ∀ value, result = .ok value → change value = value) : result.map change = result := by
  cases result with
  | error error => rfl
  | ok value => exact congrArg Except.ok (fixed value rfl)

theorem mapM_changed {read : α → Result β} {change : β → γ} (items : List α) :
    items.mapM (fun item => (read item).map change) = (items.mapM read).map (List.map change) := by
  induction items with
  | nil => rfl
  | cons item rest ih =>
    rw [List.mapM_cons, List.mapM_cons, ih]
    cases read item with
    | error error => rfl
    | ok value => cases rest.mapM read <;> rfl

/-- Whether a document leaves an end of a chain open. -/
def Json.leavesOpen : Json → Bool
  | .null | .object [] => true
  | _ => false

theorem readEnd_eq (document : Json) : ChainLayout.readEnd document =
    if document.leavesOpen then .ok none else (ofDocument document).map some := by
  cases document with
  | object entries => cases entries <;> rfl
  | _ => rfl

theorem leavesOpen_changed (change : String → Configuration → Configuration) (document : Json) :
    (document.changeDefinition change).leavesOpen = document.leavesOpen := by
  cases document with
  | object entries =>
    rw [Json.changeDefinition]
    split
    · cases entries <;> rfl
    · rfl
  | array items =>
    rw [Json.changeDefinition.eq_def]
    split
    · next impossible => cases impossible
    · rfl
    · rfl
  | _ => rfl

variable {change : String → Configuration → Configuration}
  (blank : ∀ agentType, change agentType Table.empty = Table.empty)

include blank

theorem object_changed {entries : List (String × Json)} {agentType : String}
    (typed : Table.find "agentType" entries = some (.string agentType)) :
    AgentDefinition.ofObject (Table.mapEntries (fun key value =>
        if key = "configuration" then value.changeSettings (change agentType) else value) entries) =
      (AgentDefinition.ofObject entries).map (AgentDefinition.change change) := by
  let changed := Table.mapEntries (fun key value =>
    if key = "configuration" then value.changeSettings (change agentType) else value) entries
  have id : field? changed "agentId" text = field? entries "agentId" text := by
    rw [field?, field?, Table.find_mapEntries]
    cases Table.find "agentId" entries <;> rfl
  have type : field? changed "agentType" text = .ok (some agentType) := by
    rw [field?, Table.find_mapEntries, typed]
    rfl
  have type' : field? entries "agentType" text = .ok (some agentType) := by
    rw [field?, typed]
    rfl
  have settings : field? changed "configuration" fields =
      (field? entries "configuration" fields).map (Option.map (change agentType)) := by
    rw [field?, field?, Table.find_mapEntries]
    cases Table.find "configuration" entries with
    | none => rfl
    | some document =>
      change (fields (document.changeSettings _)).map some = ((fields document).map some).map _
      rw [fields_changeSettings]
      cases fields document <;> rfl
  rw [AgentDefinition.ofObject, AgentDefinition.ofObject, id, type, type', settings]
  cases field? entries "agentId" text with
  | error error => rfl
  | ok id? =>
    cases field? entries "configuration" fields with
    | error error => rfl
    | ok settings? =>
      cases id? with
      | none => rfl
      | some id =>
        cases settings? with
        | none =>
          change Except.ok (⟨id, agentType, Table.empty⟩ : AgentDefinition) =
            Except.ok ⟨id, agentType, change agentType Table.empty⟩
          rw [blank]
        | some table => rfl

omit blank in
theorem array_changed (agentId settings : Json) (agentType : String) (rest : List Json) :
    AgentDefinition.ofArray
        (agentId :: .string agentType :: settings.changeSettings (change agentType) :: rest) =
      (AgentDefinition.ofArray (agentId :: .string agentType :: settings :: rest)).map
        (AgentDefinition.change change) := by
  simp only [AgentDefinition.ofArray, item, itemOr, List.getElem?_cons_zero, List.getElem?_cons_succ,
    fields_changeSettings, noMoreThan, List.length_cons]
  cases text agentId with
  | error error => rfl
  | ok id =>
    cases fields settings with
    | error error => rfl
    | ok table =>
      by_cases short : rest.length + 1 + 1 + 1 ≤ 3
      · simp only [if_pos short]
        rfl
      · simp only [if_neg short]
        rfl

theorem definition_changed (document : Json) :
    (ofDocument (document.changeDefinition change) : Result AgentDefinition) =
      (ofDocument document).map (AgentDefinition.change change) := by
  -- Documents that stay as they are describe no definition, or one without a configuration.
  cases document with
  | object entries =>
    rw [Json.changeDefinition]
    split
    · next typed => exact object_changed blank typed
    · next other =>
      refine (map_eq_self fun definition read => ?_).symm
      cases definition_read_iff.mp read with
      | object hasId hasType => exact absurd hasType (other _)
  | array items =>
    rw [Json.changeDefinition.eq_def]
    split
    · next impossible => cases impossible
    · next same =>
      cases same
      exact array_changed _ _ _ _
    · next other =>
      refine (map_eq_self fun definition read => ?_).symm
      cases definition_read_iff.mp read with
      | @array agentId agentType settings? configuration form =>
        cases form with
        | absent => rw [AgentDefinition.change, blank]
        | object entries => exact absurd rfl (other _ _ _ _)
  | _ => rfl

theorem readEnd_changed (document : Json) :
    ChainLayout.readEnd (document.changeDefinition change) =
      (ChainLayout.readEnd document).map (Option.map (AgentDefinition.change change)) := by
  rw [readEnd_eq, readEnd_eq, leavesOpen_changed, definition_changed blank]
  split
  · rfl
  · cases (ofDocument document : Result AgentDefinition) <;> rfl

theorem readProcessors_changed (document : Json) :
    ChainLayout.readProcessors (document.changeItems (Json.changeDefinition change)) =
      (ChainLayout.readProcessors document).map (List.map (AgentDefinition.change change)) := by
  cases document with
  | array items =>
    have each : (items.map (Json.changeDefinition change)).mapM ofDocument =
        (items.mapM ofDocument : Result (List AgentDefinition)).map
          (List.map (AgentDefinition.change change)) := by
      rw [List.mapM_map, ← mapM_changed]
      exact congrArg (List.mapM · items) (funext (definition_changed blank))
    change Except.map _ (Except.map some (List.mapM _ (items.map _))) =
      Except.map _ (Except.map _ (Except.map some (items.mapM _)))
    rw [each]
    cases (items.mapM ofDocument : Result (List AgentDefinition)) <;> rfl
  | _ => rfl

theorem end_changed {field : String} (named : field = "source" ∨ field = "sink")
    (entries : List (String × Json)) :
    ChainLayout.readEnd
        ((Table.find field (Table.mapEntries (Json.changePlace change) entries)).getD .null) =
      (ChainLayout.readEnd ((Table.find field entries).getD .null)).map
        (Option.map (AgentDefinition.change change)) := by
  have differ : field ≠ "processors" := by rcases named with rfl | rfl <;> decide
  rw [Table.find_mapEntries]
  cases Table.find field entries with
  | none => rfl
  | some document =>
    rw [Option.map_some, Option.getD_some, Option.getD_some, Json.changePlace, if_neg differ,
      if_pos named, readEnd_changed blank]

theorem processors_changed (entries : List (String × Json)) :
    ChainLayout.readProcessors
        ((Table.find "processors" (Table.mapEntries (Json.changePlace change) entries)).getD .null) =
      (ChainLayout.readProcessors ((Table.find "processors" entries).getD .null)).map
        (List.map (AgentDefinition.change change)) := by
  rw [Table.find_mapEntries]
  cases Table.find "processors" entries with
  | none => rfl
  | some document =>
    rw [Option.map_some, Option.getD_some, Option.getD_some, Json.changePlace, if_pos rfl,
      readProcessors_changed blank]

theorem layout_changed (entries : List (String × Json)) :
    ChainLayout.ofObject (Table.mapEntries (Json.changePlace change) entries) =
      (ChainLayout.ofObject entries).map (ChainLayout.map (AgentDefinition.change change)) := by
  rw [ChainLayout.ofObject_eq, ChainLayout.ofObject_eq, processors_changed blank,
    end_changed blank (.inr rfl), end_changed blank (.inl rfl)]
  cases ChainLayout.readProcessors ((Table.find "processors" entries).getD .null) with
  | error error => rfl
  | ok processors =>
    cases ChainLayout.readEnd ((Table.find "sink" entries).getD .null) with
    | error error => rfl
    | ok sink? => cases ChainLayout.readEnd ((Table.find "source" entries).getD .null) <;> rfl

/-- A layout is read of the changed configurations as of the others, and with the same errors. -/
theorem ofConfiguration_changed (configuration : Configuration) :
    ChainLayout.ofConfiguration (configuration.mapValues (Json.changePlace change)) =
      (ChainLayout.ofConfiguration configuration).map (ChainLayout.map (AgentDefinition.change change)) := by
  have read (configuration : Configuration) : (ofDocument configuration.toJson : Result ChainLayout) =
      ChainLayout.ofObject configuration.entries := rfl
  rw [ChainLayout.ofConfiguration, ChainLayout.ofConfiguration, read, read, Table.mapValues,
    layout_changed blank]
  cases ChainLayout.ofObject configuration.entries <;> rfl

end Reading

theorem Chain.ofLayoutWith_map {ω α : Type} [Behaviour ω α]
    (construct : Component → AgentDefinition → Attempt ω α) (change : AgentDefinition → AgentDefinition)
    (layout : ChainLayout) :
    ofLayoutWith construct (layout.map change) =
      ofLayoutWith (fun component definition => construct component (change definition)) layout := by
  obtain ⟨source?, processors, sink?⟩ := layout
  rw [ofLayoutWith, ofLayoutWith, ChainLayout.map, List.mapM_map]
  cases source? <;> cases sink? <;> rfl

end Conveyor
