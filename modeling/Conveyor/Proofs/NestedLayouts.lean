import Conveyor.Chain.Layout

/-! Layouts inside layouts. The configuration of a composite is read as a layout (`from_configuration`), and
the configurations of the definitions in that layout lie in it. So they are less deep, and layouts can be
reasoned about from the inside out. -/
namespace Conveyor

variable {α β : Type}

namespace Decoding

theorem bind_eq_ok_iff {first : Result α} {next : α → Result β} {value : β} :
    (first >>= next) = .ok value ↔ ∃ read, first = .ok read ∧ next read = .ok value := by
  cases first with
  | ok read => simp [bind, Except.bind]
  | error error => simp [bind, Except.bind]

theorem map_eq_ok_iff {first : Result α} {f : α → β} {value : β} :
    first.map f = .ok value ↔ ∃ read, first = .ok read ∧ f read = value := by
  cases first <;> simp [Except.map]

/-- What is read of a list is read of its items. -/
theorem of_mem_mapM {read : α → Result β} {items : List α} {values : List β}
    (done : items.mapM read = .ok values) {value : β} (member : value ∈ values) :
    ∃ item ∈ items, read item = .ok value := by
  induction items generalizing values with
  | nil =>
    cases done
    cases member
  | cons item rest ih =>
    rw [List.mapM_cons] at done
    obtain ⟨first, here, done⟩ := bind_eq_ok_iff.mp done
    obtain ⟨others, there, done⟩ := bind_eq_ok_iff.mp done
    cases done
    rcases List.mem_cons.mp member with rfl | later
    · exact ⟨item, List.mem_cons_self, here⟩
    · obtain ⟨other, found, same⟩ := ih there later
      exact ⟨other, List.mem_cons_of_mem _ found, same⟩

end Decoding

section Depth

open Decoding

theorem depth_le_itemsDepth {items : List Json} {item : Json} (member : item ∈ items) :
    item.depth ≤ Json.itemsDepth items := by
  induction items with
  | nil => cases member
  | cons first rest ih =>
    rw [Json.itemsDepth]
    rcases List.mem_cons.mp member with rfl | later
    · exact Nat.le_max_left ..
    · exact Nat.le_trans (ih later) (Nat.le_max_right ..)

theorem depth_le_fieldsDepth {fields : List (String × Json)} {field : String × Json}
    (member : field ∈ fields) : field.2.depth ≤ Json.fieldsDepth fields := by
  induction fields with
  | nil => cases member
  | cons first rest ih =>
    rw [Json.fieldsDepth]
    rcases List.mem_cons.mp member with rfl | later
    · exact Nat.le_max_left ..
    · exact Nat.le_trans (ih later) (Nat.le_max_right ..)

theorem depth_of_find {key : String} {fields : List (String × Json)} {value : Json}
    (found : Table.find key fields = some value) : value.depth ≤ Json.fieldsDepth fields :=
  depth_le_fieldsDepth (Table.mem_of_find found)

theorem fieldsDepth_put (key : String) (value : Json) (fields : List (String × Json)) :
    Json.fieldsDepth (Table.put key value fields) ≤ max value.depth (Json.fieldsDepth fields) := by
  induction fields with
  | nil => exact Nat.le_refl _
  | cons field rest ih =>
    rw [Table.put]
    split
    · exact Nat.le_refl _
    · split <;> simp only [Json.fieldsDepth] <;> omega

/-- A table is not deeper than the fields it was written by. -/
theorem depth_ofList (fields : List (String × Json)) :
    Configuration.depth (Table.ofList fields) ≤ Json.fieldsDepth fields := by
  have written : ∀ (fields : List (String × Json)) (table : Configuration), Configuration.depth
      (fields.foldl (fun table entry => table.insert entry.1 entry.2) table) ≤
        max table.depth (Json.fieldsDepth fields) := by
    intro fields
    induction fields with
    | nil => exact fun table => Nat.le_max_left ..
    | cons field rest ih =>
      intro table
      have first : Configuration.depth (table.insert field.1 field.2) ≤ max field.2.depth table.depth :=
        fieldsDepth_put ..
      have more := ih (table.insert field.1 field.2)
      rw [Json.fieldsDepth]
      exact Nat.le_trans more (by omega)
  exact Nat.le_trans (written fields Table.empty) (Nat.max_le.mpr ⟨Nat.zero_le _, Nat.le_refl _⟩)

theorem depth_of_fields {document : Json} {table : Configuration} (read : fields document = .ok table) :
    table.depth < document.depth := by
  cases document with
  | object entries =>
    cases read
    exact Nat.lt_succ_of_le (depth_ofList entries)
  | _ => cases read

/-- A field that was read was read of a document among the fields. -/
theorem of_field? {entries : List (String × Json)} {key : String} {read : Json → Result α}
    {value : α} (done : field? entries key read = .ok (some value)) :
    ∃ document, document.depth ≤ Json.fieldsDepth entries ∧ read document = .ok value := by
  unfold field? at done
  split at done
  · next document found =>
    obtain ⟨_, here, same⟩ := map_eq_ok_iff.mp done
    cases same
    exact ⟨document, depth_of_find found, here⟩
  · cases done

theorem of_itemOr {default value : α} {items : List Json} {position : Nat} {read : Json → Result α}
    (done : itemOr default items position read = .ok value) :
    value = default ∨ ∃ document, document.depth ≤ Json.itemsDepth items ∧ read document = .ok value := by
  unfold itemOr at done
  split at done
  · next document found =>
    exact .inr ⟨document, depth_le_itemsDepth (List.mem_of_getElem? found), done⟩
  · cases done
    exact .inl rfl

/-- The configuration of a definition is less deep than the document of the definition. -/
theorem depth_of_definition {document : Json} {definition : AgentDefinition}
    (read : (ofDocument document : Result AgentDefinition) = .ok definition) :
    definition.configuration.depth < document.depth := by
  cases document with
  | object entries =>
    change AgentDefinition.ofObject entries = .ok definition at read
    simp only [AgentDefinition.ofObject, bind_eq_ok_iff] at read
    obtain ⟨_, -, _, -, configuration?, found, _, -, _, -, made⟩ := read
    cases made
    refine Nat.lt_succ_of_le ?_
    cases configuration? with
    | none => exact Nat.zero_le _
    | some configuration =>
      obtain ⟨document, within, read⟩ := of_field? found
      exact Nat.le_trans (Nat.le_of_lt (depth_of_fields read)) within
  | array items =>
    change AgentDefinition.ofArray items = .ok definition at read
    simp only [AgentDefinition.ofArray, bind_eq_ok_iff] at read
    obtain ⟨_, -, _, -, configuration, found, _, -, made⟩ := read
    cases made
    refine Nat.lt_succ_of_le ?_
    obtain rfl | ⟨document, within, read⟩ := of_itemOr found
    · exact Nat.zero_le _
    · exact Nat.le_trans (Nat.le_of_lt (depth_of_fields read)) within
  | _ => cases read

theorem depth_of_readEnd {document : Json} {definition : AgentDefinition}
    (read : ChainLayout.readEnd document = .ok (some definition)) :
    definition.configuration.depth < document.depth := by
  unfold ChainLayout.readEnd at read
  split at read
  · cases read
  · cases read
  · obtain ⟨_, here, same⟩ := map_eq_ok_iff.mp read
    cases same
    exact depth_of_definition here

theorem depth_of_readProcessors {document : Json} {definitions : List AgentDefinition}
    (read : ChainLayout.readProcessors document = .ok definitions) {definition : AgentDefinition}
    (member : definition ∈ definitions) : definition.configuration.depth < document.depth := by
  obtain ⟨listed?, optional, same⟩ := map_eq_ok_iff.mp read
  subst same
  unfold Decoding.optional at optional
  split at optional
  · cases optional
    cases member
  · obtain ⟨listed, here, same⟩ := map_eq_ok_iff.mp optional
    subst same
    cases document with
    | array items =>
      obtain ⟨item, found, read⟩ := of_mem_mapM here member
      have less := depth_of_definition read
      have within := depth_le_itemsDepth found
      rw [Json.depth]
      omega
    | _ => cases here

theorem depth_of_end {entries : List (String × Json)} {key : String}
    {side? : Option (Option AgentDefinition)} (read : field? entries key ChainLayout.readEnd = .ok side?)
    {definition : AgentDefinition} (member : definition ∈ side?.join.toList) :
    definition.configuration.depth < Json.fieldsDepth entries := by
  rw [Option.mem_toList, Option.join_eq_some_iff] at member
  subst member
  obtain ⟨document, within, here⟩ := of_field? read
  exact Nat.lt_of_lt_of_le (depth_of_readEnd here) within

/-- The configurations in the layout of a composite are less deep than its own. -/
theorem depth_of_layout {configuration : Configuration} {layout : ChainLayout}
    (read : ChainLayout.ofConfiguration configuration = .ok layout) {definition : AgentDefinition}
    (member : definition ∈ layout.definitions) :
    definition.configuration.depth < configuration.depth := by
  unfold ChainLayout.ofConfiguration at read
  split at read
  · next read' =>
    cases read
    change ChainLayout.ofObject configuration.entries = .ok layout at read'
    simp only [ChainLayout.ofObject, bind_eq_ok_iff] at read'
    obtain ⟨processors?, processors, sink?, sink, source?, source, made⟩ := read'
    cases made
    simp only [ChainLayout.definitions, List.mem_append] at member
    rcases member with (member | member) | member
    · exact depth_of_end source member
    · cases processors? with
      | none => cases member
      | some definitions =>
        obtain ⟨document, within, here⟩ := of_field? processors
        exact Nat.lt_of_lt_of_le (depth_of_readProcessors here member) within
    · exact depth_of_end sink member
  · cases read

/-- What holds of a layout if it holds of the layouts inside its definitions holds of all layouts. -/
theorem ChainLayout.inductionOn {motive : ChainLayout → Prop} (layout : ChainLayout)
    (step : ∀ layout : ChainLayout, (∀ definition ∈ layout.definitions, ∀ inner,
      ChainLayout.ofConfiguration definition.configuration = .ok inner → motive inner) → motive layout) :
    motive layout := by
  have bounded : ∀ bound (layout : ChainLayout),
      (∀ definition ∈ layout.definitions, definition.configuration.depth < bound) → motive layout := by
    intro bound
    induction bound using Nat.strongRecOn with
    | ind bound ih =>
      intro layout below
      refine step layout fun definition member inner read => ?_
      exact ih _ (below definition member) inner fun _ => depth_of_layout read
  have deepest : ∀ definitions : List AgentDefinition,
      ∃ bound, ∀ definition ∈ definitions, definition.configuration.depth < bound := by
    intro definitions
    induction definitions with
    | nil => exact ⟨0, nofun⟩
    | cons definition rest ih =>
      obtain ⟨bound, below⟩ := ih
      refine ⟨max (definition.configuration.depth + 1) bound, List.forall_mem_cons.mpr ⟨?_, ?_⟩⟩
      · exact Nat.le_max_left ..
      · exact fun other member => Nat.lt_of_lt_of_le (below other member) (Nat.le_max_right ..)
  obtain ⟨bound, below⟩ := deepest layout.definitions
  exact bounded bound layout below

end Depth

end Conveyor
