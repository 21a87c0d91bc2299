import Conveyor.Proofs.NestedLayouts
import Mathlib.Data.List.Forall2

/-! The grammar of layouts, as `from_configuration` reads them. Three fields of a configuration are looked
at and no others: an end is left open by leaving it out, by null or by the empty object, the processors by
leaving them out or by null, and everything else has to be the document of a definition, or an array of
such. What leaves an end open is no definition, so among the processors it is refused. Reading agrees with
this grammar in both directions, and how an open place is written shows neither in the layout nor in the
error of another place. -/
namespace Conveyor

open Decoding

variable {α β : Type}

namespace Decoding

/-- A list is read just if its items are, each for itself. -/
theorem mapM_eq_ok_iff {read : α → Result β} {items : List α} {values : List β} :
    items.mapM read = .ok values ↔
      List.Forall₂ (fun item value => read item = .ok value) items values := by
  induction items generalizing values with
  | nil =>
    rw [List.mapM_nil, List.forall₂_nil_left_iff]
    exact ⟨fun done => (Except.ok.inj done).symm, fun same => congrArg Except.ok same.symm⟩
  | cons item rest ih =>
    rw [List.mapM_cons, bind_eq_ok_iff]
    constructor
    · rintro ⟨first, here, done⟩
      obtain ⟨others, there, made⟩ := bind_eq_ok_iff.mp done
      cases made
      exact .cons here (ih.mp there)
    · intro each
      cases each with
      | cons here there => exact ⟨_, here, bind_eq_ok_iff.mpr ⟨_, ih.mpr there, rfl⟩⟩

theorem text_eq_ok_iff {document : Json} {value : String} :
    text document = .ok value ↔ document = .string value := by
  cases document <;> simp [text, mismatch]

theorem fields_eq_ok_iff {document : Json} {table : Table Json} :
    fields document = .ok table ↔ ∃ entries, document = .object entries ∧ .ofList entries = table := by
  cases document <;> simp [fields, mismatch]

theorem field?_eq_ok_iff {entries : List (String × Json)} {key : String} {read : Json → Result α}
    {value? : Option α} :
    field? entries key read = .ok value? ↔
      (Table.find key entries = none ∧ value? = none) ∨
        ∃ document value, Table.find key entries = some document ∧ read document = .ok value ∧
          value? = some value := by
  rw [field?]
  cases Table.find key entries with
  | none => simp [eq_comm]
  | some document =>
    change (read document).map some = .ok value? ↔ _
    simp only [map_eq_ok_iff, reduceCtorEq, false_and, false_or, Option.some.injEq]
    constructor
    · rintro ⟨value, given, rfl⟩
      exact ⟨document, value, rfl, given, rfl⟩
    · rintro ⟨_, value, rfl, given, rfl⟩
      exact ⟨value, given, rfl⟩

/-- A field that is read as its default when it is null may be left out instead. -/
theorem field?_bind {entries : List (String × Json)} {key : String} {read : Json → Result α} {default : α}
    (null : read .null = .ok default) {next : Option α → Result β} {finish : α → Result β}
    (same : ∀ value?, next value? = finish (value?.getD default)) :
    (field? entries key read >>= next) = (read ((Table.find key entries).getD .null) >>= finish) := by
  rw [field?]
  cases Table.find key entries with
  | none =>
    rw [Option.getD_none, null]
    exact same none
  | some document =>
    change ((read document).map some >>= next) = (read document >>= finish)
    cases read document with
    | ok value => exact same (some value)
    | error error => rfl

theorem require_eq_ok_iff {key : String} {value? : Option α} {value : α} :
    require key value? = .ok value ↔ value? = some value := by
  cases value? <;> simp [require]

end Decoding

namespace Table

/-- A table written by entries of different keys has these entries and no others. -/
theorem get?_ofList_eq_some_iff {entries : List (String × α)} (distinct : (entries.map (·.1)).Nodup)
    {key : String} {value : α} : (ofList entries).get? key = some value ↔ (key, value) ∈ entries := by
  have written : ∀ (entries : List (String × α)) (table : Table α), (entries.map (·.1)).Nodup →
      ((entries.foldl (fun table entry => table.insert entry.1 entry.2) table).get? key = some value ↔
        (key, value) ∈ entries ∨ key ∉ entries.map (·.1) ∧ table.get? key = some value) := by
    intro entries
    induction entries with
    | nil => simp
    | cons entry rest ih =>
      intro table distinct
      obtain ⟨new, distinct⟩ := List.nodup_cons.mp distinct
      rw [List.foldl_cons, ih _ distinct, List.map_cons]
      by_cases same : key = entry.1
      · -- No later entry has this key, so this one is what stays.
        subst same
        have later : (entry.1, value) ∉ rest := fun member =>
          new (List.mem_map.mpr ⟨_, member, rfl⟩)
        simp only [later, new, not_false_eq_true, get?_insert_self, Option.some.injEq, List.mem_cons,
          not_true_eq_false, true_and, false_or, false_and, or_false]
        exact ⟨fun same => same ▸ rfl, fun same => congrArg Prod.snd same.symm⟩
      · have differ : (key, value) ≠ entry := fun equal => same (congrArg Prod.fst equal)
        simp only [get?_insert_of_ne _ same, List.mem_cons, differ, same, false_or]
  rw [ofList, written entries empty distinct]
  simp

/-- The order in which entries of different keys are written does not show. -/
theorem get?_ofList_of_perm {entries others : List (String × α)} (distinct : (entries.map (·.1)).Nodup)
    (same : entries.Perm others) (key : String) : (ofList entries).get? key = (ofList others).get? key := by
  have distinct' : (others.map (·.1)).Nodup := (same.map (·.1)).nodup_iff.mp distinct
  apply Option.ext
  intro value
  rw [get?_ofList_eq_some_iff distinct, get?_ofList_eq_some_iff distinct', same.mem_iff]

end Table

/-- The configuration of a definition may be left out, and is an object otherwise. -/
inductive SettingsForm : Option Json → Configuration → Prop where
  | absent : SettingsForm none Table.empty
  | object (entries : List (String × Json)) : SettingsForm (some (.object entries)) (.ofList entries)

/-- The documents of a definition: an object with an id and a type, both texts, or the array of the fields
in order. -/
inductive DefinitionForm : Json → AgentDefinition → Prop where
  | object {entries : List (String × Json)} {agentId agentType : String} {configuration : Configuration}
      (hasId : Table.find "agentId" entries = some (.string agentId))
      (hasType : Table.find "agentType" entries = some (.string agentType))
      (settings : SettingsForm (Table.find "configuration" entries) configuration) :
      DefinitionForm (.object entries) { agentId, agentType, configuration }
  | array {agentId agentType : String} {settings? : Option Json} {configuration : Configuration}
      (settings : SettingsForm settings? configuration) :
      DefinitionForm (.array (.string agentId :: .string agentType :: settings?.toList))
        { agentId, agentType, configuration }

/-- What may be written for an end of a chain. -/
inductive EndForm : Option Json → Option AgentDefinition → Prop where
  | absent : EndForm none none
  | null : EndForm (some .null) none
  | empty : EndForm (some (.object [])) none
  | given {document : Json} {definition : AgentDefinition} (form : DefinitionForm document definition) :
      EndForm (some document) (some definition)

/-- What may be written for the processors of a chain. -/
inductive ProcessorsForm : Option Json → List AgentDefinition → Prop where
  | absent : ProcessorsForm none []
  | null : ProcessorsForm (some .null) []
  | listed {items : List Json} {definitions : List AgentDefinition}
      (each : List.Forall₂ DefinitionForm items definitions) : ProcessorsForm (some (.array items)) definitions

/-- A configuration describes a layout by three of its fields. -/
structure LayoutForm (configuration : Configuration) (layout : ChainLayout) : Prop where
  source : EndForm (configuration.get? "source") layout.source?
  processors : ProcessorsForm (configuration.get? "processors") layout.processors
  sink : EndForm (configuration.get? "sink") layout.sink?

/-- The ways to leave an end open. -/
def OpenEnd (value? : Option Json) : Prop := value? ∈ [none, some .null, some (.object [])]

/-- The ways to have no processors, other than by an empty list. -/
def OpenProcessors (value? : Option Json) : Prop := value? ∈ [none, some .null]

instance (value? : Option Json) : Decidable (OpenEnd value?) :=
  inferInstanceAs (Decidable (value? ∈ [none, some .null, some (.object [])]))

instance (value? : Option Json) : Decidable (OpenProcessors value?) :=
  inferInstanceAs (Decidable (value? ∈ [none, some .null]))

/-- Two configurations have the same in the three fields of a layout, or leave them open in any of the ways
in which that can be done. -/
structure SameForm (one other : Configuration) : Prop where
  source : one.get? "source" = other.get? "source" ∨
    OpenEnd (one.get? "source") ∧ OpenEnd (other.get? "source")
  processors : one.get? "processors" = other.get? "processors" ∨
    OpenProcessors (one.get? "processors") ∧ OpenProcessors (other.get? "processors")
  sink : one.get? "sink" = other.get? "sink" ∨
    OpenEnd (one.get? "sink") ∧ OpenEnd (other.get? "sink")

theorem settings_iff {value? : Option Json} {configuration : Configuration} :
    SettingsForm value? configuration ↔
      (value? = none ∧ configuration = Table.empty) ∨
        ∃ entries, value? = some (.object entries) ∧ .ofList entries = configuration := by
  constructor
  · intro form
    cases form with
    | absent => exact .inl ⟨rfl, rfl⟩
    | object entries => exact .inr ⟨entries, rfl, rfl⟩
  · rintro (⟨rfl, rfl⟩ | ⟨entries, rfl, rfl⟩)
    · exact .absent
    · exact .object entries

theorem AgentDefinition.ofObject_eq_ok_iff {entries : List (String × Json)} {definition : AgentDefinition} :
    ofObject entries = .ok definition ↔ DefinitionForm (.object entries) definition := by
  simp only [ofObject, bind_eq_ok_iff]
  constructor
  · rintro ⟨id?, hasId, type?, hasType, settings?, settings, id, given, type, given', made⟩
    rw [require_eq_ok_iff] at given given'
    subst given given'
    cases made
    rcases field?_eq_ok_iff.mp hasId with ⟨-, impossible⟩ | ⟨_, _, found, read, same⟩
    · cases impossible
    cases same
    rw [text_eq_ok_iff] at read
    subst read
    rcases field?_eq_ok_iff.mp hasType with ⟨-, impossible⟩ | ⟨_, _, found', read, same⟩
    · cases impossible
    cases same
    rw [text_eq_ok_iff] at read
    subst read
    refine .object found found' ?_
    rcases field?_eq_ok_iff.mp settings with ⟨missing, rfl⟩ | ⟨_, table, found, read, rfl⟩
    · rw [missing]
      exact .absent
    · obtain ⟨entries, rfl, rfl⟩ := fields_eq_ok_iff.mp read
      rw [found]
      exact .object entries
  · intro form
    cases form with
    | @object _ agentId agentType configuration hasId hasType settings =>
      have id : field? entries "agentId" text = .ok (some agentId) :=
        field?_eq_ok_iff.mpr (.inr ⟨_, _, hasId, rfl, rfl⟩)
      have type : field? entries "agentType" text = .ok (some agentType) :=
        field?_eq_ok_iff.mpr (.inr ⟨_, _, hasType, rfl, rfl⟩)
      rcases settings_iff.mp settings with ⟨missing, rfl⟩ | ⟨inner, found, rfl⟩
      · have none : field? entries "configuration" fields = .ok none :=
          field?_eq_ok_iff.mpr (.inl ⟨missing, rfl⟩)
        exact ⟨_, id, _, type, _, none, _, rfl, _, rfl, rfl⟩
      · have some : field? entries "configuration" fields = .ok (some (.ofList inner)) :=
          field?_eq_ok_iff.mpr (.inr ⟨_, _, found, rfl, rfl⟩)
        exact ⟨_, id, _, type, _, some, _, rfl, _, rfl, rfl⟩

theorem AgentDefinition.ofArray_eq_ok_iff {items : List Json} {definition : AgentDefinition} :
    ofArray items = .ok definition ↔ DefinitionForm (.array items) definition := by
  simp only [ofArray, bind_eq_ok_iff]
  constructor
  · rintro ⟨id, hasId, type, hasType, table, settings, _, short, made⟩
    cases made
    -- The id and the type have to be there, the configuration may be, and a fourth item is too much.
    rcases items with _ | ⟨first, _ | ⟨second, rest⟩⟩
    · cases hasId
    · cases hasType
    · cases text_eq_ok_iff.mp hasId
      cases text_eq_ok_iff.mp hasType
      rcases rest with _ | ⟨third, _ | ⟨fourth, rest⟩⟩
      · cases settings
        exact .array .absent
      · obtain ⟨entries, rfl, rfl⟩ := fields_eq_ok_iff.mp settings
        exact .array (.object entries)
      · rw [noMoreThan, if_neg (by simp)] at short
        cases short
  · intro form
    cases form with
    | @array agentId agentType _ _ settings =>
      cases settings with
      | absent => exact ⟨_, rfl, _, rfl, _, rfl, (), rfl, rfl⟩
      | object entries => exact ⟨_, rfl, _, rfl, _, rfl, (), rfl, rfl⟩

/-- The documents of definitions are those that are read as such. -/
theorem definition_read_iff {document : Json} {definition : AgentDefinition} :
    (ofDocument document : Result AgentDefinition) = .ok definition ↔
      DefinitionForm document definition := by
  cases document with
  | object entries => exact AgentDefinition.ofObject_eq_ok_iff
  | array items => exact AgentDefinition.ofArray_eq_ok_iff
  | _ => exact ⟨nofun, nofun⟩

namespace ChainLayout

/-- What is left out is read like null. -/
theorem ofObject_eq (entries : List (String × Json)) :
    ofObject entries = (do
      let processors ← readProcessors ((Table.find "processors" entries).getD .null)
      let sink? ← readEnd ((Table.find "sink" entries).getD .null)
      let source? ← readEnd ((Table.find "source" entries).getD .null)
      return { source?, processors, sink? }) := by
  rw [ofObject]
  apply field?_bind
  · rfl
  intro processors?
  apply field?_bind
  · rfl
  intro sink?
  apply field?_bind
  · rfl
  intro source?
  cases sink? <;> cases source? <;> rfl

/-- An end is read by its grammar. -/
theorem readEnd_eq_ok_iff {value? : Option Json} {side? : Option AgentDefinition} :
    readEnd (value?.getD .null) = .ok side? ↔ EndForm value? side? := by
  constructor
  · intro read
    rcases value? with _ | document
    · cases read
      exact .absent
    rw [Option.getD_some, readEnd.eq_def] at read
    split at read
    · cases read
      exact .null
    · cases read
      exact .empty
    · obtain ⟨definition, given, rfl⟩ := map_eq_ok_iff.mp read
      exact .given (definition_read_iff.mp given)
  · intro form
    cases form with
    | given form =>
      have read := definition_read_iff.mpr form
      cases form with
      | array => exact congrArg (Except.map some) read
      | @object entries _ _ _ hasId =>
        cases entries with
        | nil => cases hasId
        | cons => exact congrArg (Except.map some) read
    | _ => rfl

/-- Processors are read by their grammar. -/
theorem readProcessors_eq_ok_iff {value? : Option Json} {processors : List AgentDefinition} :
    readProcessors (value?.getD .null) = .ok processors ↔ ProcessorsForm value? processors := by
  have each {items : List Json} {definitions : List AgentDefinition} :
      items.mapM (ofDocument : Json → Result AgentDefinition) = .ok definitions ↔
        List.Forall₂ DefinitionForm items definitions := by
    simp only [mapM_eq_ok_iff, definition_read_iff]
  constructor
  · intro read
    rcases value? with _ | document
    · cases read
      exact .absent
    obtain ⟨listed?, given, rfl⟩ := map_eq_ok_iff.mp read
    cases document with
    | null =>
      cases given
      exact .null
    | array items =>
      obtain ⟨definitions, listed, rfl⟩ := map_eq_ok_iff.mp given
      exact .listed (each.mp listed)
    | _ => cases given
  · intro form
    cases form with
    | listed forms =>
      exact map_eq_ok_iff.mpr ⟨_, map_eq_ok_iff.mpr ⟨_, each.mpr forms, rfl⟩, rfl⟩
    | _ => rfl

/-- Layouts are read by their grammar. -/
theorem ofConfiguration_eq_ok_iff {configuration : Configuration} {layout : ChainLayout} :
    ofConfiguration configuration = .ok layout ↔ LayoutForm configuration layout := by
  have read : (ofDocument configuration.toJson : Result ChainLayout) = ofObject configuration.entries := rfl
  have same : ofConfiguration configuration = .ok layout ↔ ofObject configuration.entries = .ok layout := by
    rw [ofConfiguration, read]
    cases ofObject configuration.entries <;> simp
  rw [same, ofObject_eq]
  simp only [bind_eq_ok_iff]
  constructor
  · rintro ⟨_, processors, _, sink, _, source, made⟩
    cases made
    exact ⟨readEnd_eq_ok_iff.mp source, readProcessors_eq_ok_iff.mp processors, readEnd_eq_ok_iff.mp sink⟩
  · rintro ⟨source, processors, sink⟩
    exact ⟨_, readProcessors_eq_ok_iff.mpr processors, _, readEnd_eq_ok_iff.mpr sink, _,
      readEnd_eq_ok_iff.mpr source, rfl⟩

/-- Other fields, and how an open place is written, make no difference. -/
theorem ofConfiguration_congr {one other : Configuration} (same : SameForm one other) :
    ofConfiguration one = ofConfiguration other := by
  have opened {value? : Option Json} (isOpen : OpenEnd value?) : readEnd (value?.getD .null) = .ok none := by
    simp only [OpenEnd, List.mem_cons, List.not_mem_nil, or_false] at isOpen
    rcases isOpen with rfl | rfl | rfl <;> rfl
  have none {value? : Option Json} (isOpen : OpenProcessors value?) :
      readProcessors (value?.getD .null) = .ok [] := by
    simp only [OpenProcessors, List.mem_cons, List.not_mem_nil, or_false] at isOpen
    rcases isOpen with rfl | rfl <;> rfl
  have side {value? other? : Option Json} (same : value? = other? ∨ OpenEnd value? ∧ OpenEnd other?) :
      readEnd (value?.getD .null) = readEnd (other?.getD .null) := by
    rcases same with rfl | ⟨one, other⟩
    · rfl
    · rw [opened one, opened other]
  have stages : readProcessors ((one.get? "processors").getD .null) =
      readProcessors ((other.get? "processors").getD .null) := by
    rcases same.processors with same | ⟨one, other⟩
    · rw [same]
    · rw [none one, none other]
  -- The three reads are all that is left of a configuration, so equal reads fail with the same error, too.
  have objects : ofObject one.entries = ofObject other.entries := by
    rw [ofObject_eq, ofObject_eq]
    exact (congr (congrArg _ stages) (funext fun processors => congr (congrArg _ (side same.sink))
      (funext fun sink? => congrArg (· >>= _) (side same.source))))
  have read (configuration : Configuration) :
      (ofDocument configuration.toJson : Result ChainLayout) = ofObject configuration.entries := rfl
  rw [ofConfiguration, ofConfiguration, read, read, objects]

/-- What leaves an end open is no definition, so it stands in no list of definitions. -/
theorem not_mem_of_forms {items : List Json} {definitions : List AgentDefinition}
    (each : List.Forall₂ DefinitionForm items definitions) {document : Json}
    (blank : document = .null ∨ document = .object []) : document ∉ items := by
  induction each with
  | nil => exact List.not_mem_nil
  | @cons first definition rest _ form _ ih =>
    have differ : document ≠ first := by
      rintro rfl
      rcases blank with rfl | rfl
      · cases form
      · cases form with
        | object hasId => cases hasId
    intro member
    rcases List.mem_cons.mp member with same | later
    · exact differ same
    · exact ih later

theorem refused_of_blank {configuration : Configuration} {items : List Json}
    (listed : configuration.get? "processors" = some (.array items)) {document : Json}
    (member : document ∈ items) (blank : document = .null ∨ document = .object []) :
    ∃ error, ofConfiguration configuration = .error error := by
  cases read : ofConfiguration configuration with
  | error error => exact ⟨error, rfl⟩
  | ok layout =>
    have form := (ofConfiguration_eq_ok_iff.mp read).processors
    rw [listed] at form
    cases form with
    | listed each => exact absurd member (not_mem_of_forms each blank)

/-- The reader of layouts accepts its grammar and nothing else, reads a layout as the grammar says, and looks
at nothing but the three fields, however open places are written and in whatever order the fields were. -/
theorem layouts_are_read_by_their_grammar (configuration : Configuration) :
    (∀ document definition, (ofDocument document : Result AgentDefinition) = .ok definition ↔
      DefinitionForm document definition) ∧
    ((∃ layout, ofConfiguration configuration = .ok layout) ↔
      (∃ source?, EndForm (configuration.get? "source") source?) ∧
        (∃ processors, ProcessorsForm (configuration.get? "processors") processors) ∧
        ∃ sink?, EndForm (configuration.get? "sink") sink?) ∧
    (∀ layout, ofConfiguration configuration = .ok layout ↔ LayoutForm configuration layout) ∧
    (∀ items, configuration.get? "processors" = some (.array items) →
      .null ∈ items ∨ .object [] ∈ items → ∃ error, ofConfiguration configuration = .error error) ∧
    (∀ other, SameForm configuration other →
      ofConfiguration configuration = ofConfiguration other) ∧
    ∀ entries others, (entries.map (·.1)).Nodup → entries.Perm others →
      ofConfiguration (.ofList entries) = ofConfiguration (.ofList others) := by
  refine ⟨fun _ _ => definition_read_iff, ⟨?_, ?_⟩, fun _ => ofConfiguration_eq_ok_iff, ?_,
    fun _ => ofConfiguration_congr, ?_⟩
  · rintro ⟨layout, read⟩
    have form := ofConfiguration_eq_ok_iff.mp read
    exact ⟨⟨_, form.source⟩, ⟨_, form.processors⟩, ⟨_, form.sink⟩⟩
  · rintro ⟨⟨source?, source⟩, ⟨processors, stages⟩, ⟨sink?, sink⟩⟩
    exact ⟨⟨source?, processors, sink?⟩, ofConfiguration_eq_ok_iff.mpr ⟨source, stages, sink⟩⟩
  · rintro items listed (member | member)
    · exact refused_of_blank listed member (.inl rfl)
    · exact refused_of_blank listed member (.inr rfl)
  · intro entries others distinct same
    have fields := Table.get?_ofList_of_perm distinct same
    exact ofConfiguration_congr ⟨.inl (fields _), .inl (fields _), .inl (fields _)⟩

/-- A layout of one echo between ends that are left open, and with a field that nobody looks at. -/
def echoAlone : List (String × Json) :=
  [("source", .null), ("processors", .array [.array [.string "e", .string "echo"]]), ("sink", .object []),
    ("note", .int 7)]

/-- All the fields of a lone echo, in two orders and without those that say nothing, are one layout, and
there is none once a processor is blank. -/
theorem echoAlone_is_read :
    (∃ layout, ofConfiguration (.ofList echoAlone) = .ok layout) ∧
      ofConfiguration (.ofList echoAlone) = ofConfiguration (.ofList echoAlone.reverse) ∧
      ofConfiguration (.ofList echoAlone) = ofConfiguration (.ofList [echoAlone[1]]) ∧
      ∃ error, ofConfiguration (.ofList [("processors", .array [.object []])]) = .error error := by
  obtain ⟨definitions, accepted, -, -, congruent, permuted⟩ :=
    layouts_are_read_by_their_grammar (.ofList echoAlone)
  obtain ⟨-, -, -, blank, -⟩ :=
    layouts_are_read_by_their_grammar (.ofList [("processors", .array [.object []])])
  have distinct : (echoAlone.map (·.1)).Nodup := by decide
  have echo : DefinitionForm (.array [.string "e", .string "echo"]) ⟨"e", "echo", .empty⟩ := .array .absent
  have field {key : String} {value : Json} (member : (key, value) ∈ echoAlone) :
      (Table.ofList echoAlone).get? key = some value :=
    (Table.get?_ofList_eq_some_iff distinct).mpr member
  have source : (Table.ofList echoAlone).get? "source" = some .null := field (.head _)
  have stages : (Table.ofList echoAlone).get? "processors" =
    some (.array [.array [.string "e", .string "echo"]]) := field (.tail _ (.head _))
  have sink : (Table.ofList echoAlone).get? "sink" = some (.object []) := field (.tail _ (.tail _ (.head _)))
  refine ⟨accepted.mpr ⟨⟨none, ?_⟩, ⟨[⟨"e", "echo", .empty⟩], ?_⟩, ⟨none, ?_⟩⟩, permuted _ _ distinct ?_,
    congruent _ ⟨?_, ?_, ?_⟩, ?_⟩
  · exact source ▸ .null
  · exact stages ▸ .listed (.cons echo .nil)
  · exact sink ▸ .empty
  · exact (List.reverse_perm _).symm
  · exact .inr ⟨source ▸ by decide, by decide⟩
  · exact .inl (stages.trans (by decide))
  · exact .inr ⟨sink ▸ by decide, by decide⟩
  · exact blank [.object []] (by decide) (.inr (.head _))

end ChainLayout

end Conveyor
