import Conveyor.Proofs.Catalog
import Conveyor.Proofs.Grouping

/-! Headers in a row. A header (`SetHeaderProcessor`) takes its settings from a configuration, and every
record that comes to it leaves with one more header at the end. So what a row of them puts on a record
stands in their order behind what the record had, and since a look-up takes the first header of a name,
nobody overrides what is there already. -/
namespace Conveyor

open Testing

namespace Record

/-- The record with more headers at the end. -/
def withHeaders (record : Record) (headers : List Header) : Record :=
  { record with headers := record.headers ++ headers }

theorem withHeaders_nil (record : Record) : record.withHeaders [] = record := by
  rw [withHeaders, List.append_nil]

theorem withHeaders_withHeader (record : Record) (header : Header) (headers : List Header) :
    (record.withHeader header.name header.value).withHeaders headers =
      record.withHeaders (header :: headers) := by
  simp only [withHeader, withHeaders, List.append_assoc]
  rfl

/-- The headers that a record has come before those that are put behind them. -/
theorem header?_withHeaders (record : Record) (headers : List Header) (name : String) :
    (record.withHeaders headers).header? name =
      (record.header? name).or ((headers.find? fun header => header.name == name).map (·.value)) := by
  rw [header?, header?, withHeaders, List.find?_append, Option.map_or]

end Record

/-- What a header is set to: a name that is not empty, and a document that is not null. -/
structure HeaderSetting where
  name : String
  document : Json
  named : name ≠ ""
  given : document ≠ .null

namespace HeaderSetting

/-- The header that is put on records. -/
def header (setting : HeaderSetting) : Header := ⟨setting.name, .ofJson setting.document⟩

/-- A configuration that has the setting, whatever else it has. -/
structure Within (setting : HeaderSetting) (configuration : Configuration) : Prop where
  name : configuration.get? "name" = some (.string setting.name)
  document : configuration.get? "value" = some setting.document

/-- A processor that puts the header of the setting on records. -/
inductive Borne (setting : HeaderSetting) : Agent StockAgent → Prop where
  | of (agent : SetHeader) (name : agent.name = setting.name)
      (value : agent.value = .ofJson setting.document) : Borne setting (.leaf (.setHeader agent))

/-- The records that leave a processor with the header. -/
def function (setting : HeaderSetting) (record : Record) : Seen (List Record) :=
  .ok [record.withHeader setting.header.name setting.header.value]

theorem exists_within_iff {configuration : Configuration} :
    (∃ setting : HeaderSetting, setting.Within configuration) ↔ headerSettings configuration := by
  constructor
  · rintro ⟨setting, name, document⟩
    exact ⟨⟨_, name, setting.named⟩, _, document, setting.given⟩
  · rintro ⟨⟨name, found, named⟩, document, found', given⟩
    exact ⟨⟨name, document, named, given⟩, found, found'⟩

/-- A header takes over the setting that a configuration has. -/
theorem Within.configure {setting : HeaderSetting} {configuration : Configuration}
    (within : setting.Within configuration) (agent : SetHeader) :
    SetHeader.configure configuration agent =
      ({ agent with name := setting.name, value := .ofJson setting.document }, .ok ()) := by
  have name : configuration.requiredText "name" = .ok setting.name := by
    have present : configuration.present? "name" = some (.string setting.name) :=
      present?_eq_some_iff.mpr ⟨within.name, nofun⟩
    rw [Configuration.requiredText, Configuration.optionalText, present]
    rfl
  have document : configuration.present? "value" = some setting.document :=
    present?_eq_some_iff.mpr ⟨within.document, setting.given⟩
  have named : ¬setting.name.isEmpty := fun empty => setting.named (String.isEmpty_iff.mp empty)
  rw [SetHeader.configure, name]
  simp only [if_neg named, document]

/-- A header is initialized by the configurations that have a setting, and then bears it. -/
theorem init_effect (registries : Registries StockAgent) (configuration : Configuration)
    (before : SetHeader) (world : Environment) :
    let reply := ((Agent.init registries configuration (.leaf (.setHeader before))).effect world).1
    (reply.result = .ok () ↔ ∃ setting : HeaderSetting, setting.Within configuration) ∧
      ∀ setting : HeaderSetting, setting.Within configuration → setting.Borne reply.agent := by
  have called : ((Agent.init registries configuration (.leaf (.setHeader before))).effect world).1 =
      ((Configurable.init configuration before).effect world).1.mapAgent (.leaf ∘ .setHeader) := by
    rw [Agent.init_leaf_effect]
    rfl
  rw [exists_within_iff, ← (SetHeader.configure_spec configuration before).1, called]
  simp only [Configurable.init, Activity.effect_pure]
  constructor
  · rcases SetHeader.configure configuration before with ⟨agent, _ | _⟩
    · exact ⟨nofun, nofun⟩
    · exact ⟨fun _ => rfl, fun _ => rfl⟩
  · intro setting within
    rw [within.configure]
    exact .of _ rfl rfl

/-- A processor with the header puts it on every record, for good. -/
theorem Borne.recordWise {setting : HeaderSetting} {agent : Agent StockAgent} (borne : setting.Borne agent) :
    RecordWise Handle.record setting.function agent := by
  obtain ⟨agent, name, value⟩ := borne
  have known : (StockAgent.setHeader agent).recordFunction? = some setting.function := by
    rw [StockAgent.recordFunction?, name, value]
    rfl
  exact RecordWise.leaf (StockAgent.recordWise known)

/-- Headers in a row are put on a record one behind the other. -/
theorem kleisli_functions (settings : List HeaderSetting) (record : Record) :
    kleisli (settings.map function) record = some [record.withHeaders (settings.map header)] := by
  induction settings generalizing record with
  | nil => exact congrArg (fun record => some [record]) record.withHeaders_nil.symm
  | cons setting rest ih =>
    have first : (setting.function record).toOption =
        some [record.withHeader setting.header.name setting.header.value] := rfl
    rw [List.map_cons, kleisli, List.map_cons, ← Record.withHeaders_withHeader, ← ih, first]
    exact overAll_single (kleisli (rest.map function)) _

end HeaderSetting

open HeaderSetting

/-- A header is initialized by exactly the configurations that name it and give it a value. In a row of
headers that were initialized, every lineage of every batch ends with one record, which is the source with
the headers of the row, in its order, behind those that the source has; a text is put on as a text, and
anything else as a document. So a look-up finds what the source has under a name, or else what the first of
the row that has the name puts there. -/
theorem headers_are_appended :
    (∀ registries configuration before world,
      let reply := ((Agent.init registries configuration (.leaf (.setHeader before))).effect world).1
      (reply.result = .ok () ↔ ∃ setting : HeaderSetting, setting.Within configuration) ∧
        ∀ setting : HeaderSetting, setting.Within configuration → setting.Borne reply.agent) ∧
    (∀ settings (chain : Chain (Agent StockAgent)), List.Forall₂ Borne settings chain.processors →
      ∀ batches world, ((chain.processAll batches).run world).value.2.map (List.map Entry.yield) =
        batches.map (List.map fun source => (source, some [{ source.record with
          headers := source.record.headers ++ settings.map header }]))) ∧
    (∀ setting : HeaderSetting, setting.header.name = setting.name ∧
      (∀ text, setting.document = .string text → setting.header.value = .string text) ∧
      ((∀ text, setting.document ≠ .string text) → setting.header.value = .json setting.document)) ∧
    ∀ (settings : List HeaderSetting) (record : Record) name,
      ({ record with headers := record.headers ++ settings.map header } : Record).header? name =
        (record.header? name).or
          ((settings.find? fun setting => setting.name == name).map (·.header.value)) := by
  refine ⟨init_effect, ?_, ?_, ?_⟩
  · intro settings chain borne batches world
    have recordWise : List.Forall₂ (RecordWise Handle.record) (settings.map function) chain.processors :=
      List.forall₂_map_left_iff.mpr (borne.imp fun _ _ borne => borne.recordWise)
    rw [Chain.processAll_yields recordWise]
    simp only [kleisli_functions]
    rfl
  · intro setting
    refine ⟨rfl, fun text same => ?_, fun other => ?_⟩
    · rw [header, same]
      rfl
    · rw [header]
      cases document : setting.document with
      | string text => exact absurd document (other text)
      | _ => rfl
  · intro settings record name
    refine (record.header?_withHeaders (settings.map header) name).trans ?_
    rw [List.find?_map, Option.map_map]
    rfl

/-- A text as the language of records. -/
def english : HeaderSetting := ⟨"lang", .string "en", by decide, nofun⟩

/-- A number under the same name. -/
def numbered : HeaderSetting := ⟨"lang", .int 7, by decide, nofun⟩

/-- A processor that was initialized with a setting. -/
def headed (setting : HeaderSetting) : Agent StockAgent :=
  ((Agent.init ⟨[]⟩ (.ofList [("name", .string setting.name), ("value", setting.document)])
    (.leaf (.setHeader (.ofIdentity ⟨"h", "set-header", ⟨0, 0⟩⟩)))).effect
      ({ clock := ⟨0, 0⟩ } : Environment)).1.agent

/-- Of two headers of one name that are put on a record both are there, and the first is found. -/
theorem headers_are_appended_twice :
    let chain : Chain (Agent StockAgent) := { processors := [headed english, headed numbered] }
    let source : Handle := ⟨0, .ofText "x"⟩
    let made : Record := { Record.ofText "x" with
      headers := [⟨"lang", .string "en"⟩, ⟨"lang", .json (.int 7)⟩] }
    List.Forall₂ Borne [english, numbered] chain.processors ∧
      ((chain.processAll [[source]]).run ({ clock := ⟨0, 0⟩, nextHandle := 1 } : Environment)).value.2.map
        (List.map Entry.yield) = [[(source, some [made])]] ∧
      made.header? "lang" = some (.string "en") := by
  intro chain source made
  obtain ⟨initialized, appended, -, found⟩ := headers_are_appended
  have borne (setting : HeaderSetting) (within : setting.Within
      (.ofList [("name", .string setting.name), ("value", setting.document)])) :
      setting.Borne (headed setting) := (initialized _ _ _ _).2 setting within
  have row : List.Forall₂ Borne [english, numbered] chain.processors :=
    .cons (borne english ⟨by decide, by decide⟩) (.cons (borne numbered ⟨by decide, by decide⟩) .nil)
  exact ⟨row, appended _ chain row [[source]] _, (found [english, numbered] (.ofText "x") "lang").trans rfl⟩

end Conveyor
