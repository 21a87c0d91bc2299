import Conveyor.Chain.Layout
import Conveyor.Proofs.NestedLayouts
import Conveyor.Proofs.Statelessness

/-! Under which ids agents report (`collect_status`) and are blamed. A leaf reports once, under its own id,
and the failures that it answers or raises are its own. A composite reports what the agents inside report,
and since it answers every call position by position it is never to blame itself: its id shows nowhere. So a
chain shows, in its status and in the failures of its lineages, the ids of the definitions in its layout
that are not composites, and keeps on doing so. -/
namespace Conveyor

variable {ω σ α : Type}

/-- The ids under which the agent of a definition reports: its own, or if the definition is of a composite
those of its layout. -/
def AgentDefinition.shownIds (definition : AgentDefinition) : List String :=
  if definition.agentType = "composite-agent" then
    match read : ChainLayout.ofConfiguration definition.configuration with
    | .ok layout => layout.definitions.attach.flatMap fun ⟨inner, member⟩ =>
      have := depth_of_layout read member
      inner.shownIds
    | .error _ => []
  else [definition.agentId]
termination_by definition.configuration.depth

/-- The ids under which the agents of a layout report. -/
def ChainLayout.shownIds (layout : ChainLayout) : List String :=
  layout.definitions.flatMap AgentDefinition.shownIds

namespace AgentDefinition

theorem shownIds_leaf {definition : AgentDefinition} (plain : definition.agentType ≠ "composite-agent") :
    definition.shownIds = [definition.agentId] := by
  rw [shownIds, if_neg plain]

theorem shownIds_composite {definition : AgentDefinition} (named : definition.agentType = "composite-agent")
    {layout : ChainLayout} (read : ChainLayout.ofConfiguration definition.configuration = .ok layout) :
    definition.shownIds = layout.shownIds := by
  rw [shownIds, if_pos named]
  split
  · rename_i same
    obtain rfl := Except.ok.inj (read.symm.trans same)
    simp [ChainLayout.shownIds, List.flatMap_def]
  · rename_i same
    cases read.symm.trans same

end AgentDefinition

/-- Every failure among lineages is blamed on an agent with one of some ids. -/
def BlamedWithin (ids : List String) (entries : List Entry) : Prop :=
  ∀ entry ∈ entries, ∀ error, entry.outcome = .failed error → error.agentId ∈ ids

/-- A lineage fails by the answers to a call only if one of them has failed, and with that failure. -/
theorem Outcome.answered_failure {answers : List Entry} {error : ProcessingError}
    (failed : flatten answers = .failed error) :
    ∃ answer ∈ answers, answer.outcome = .failed error := by
  induction answers with
  | nil => cases failed
  | cons answer rest ih =>
    obtain ⟨source, outcome⟩ := answer
    rw [flatten] at failed
    cases outcome with
    | failed other =>
      cases failed
      exact ⟨_, List.mem_cons_self, rfl⟩
    | records produced =>
      cases later : flatten rest with
      | records others => simp [later] at failed
      | failed other =>
        simp only [later] at failed
        cases failed
        obtain ⟨answer, member, same⟩ := ih later
        exact ⟨answer, List.mem_cons_of_mem _ member, same⟩

/-- Lining up takes the entries from the answers, but for the records that were not answered. -/
theorem Reconciled.mem_search {agentId : String} {records : List Handle} {answers : List Entry}
    {entry : Entry} (member : entry ∈ (search agentId records answers).entries) :
    entry ∈ answers ∨ ∃ record, entry = unansweredEntry agentId record := by
  obtain ⟨position, there⟩ := List.mem_iff_getElem?.mp member
  rw [search_getElem?, Option.map_eq_some_iff] at there
  obtain ⟨record, -, rfl⟩ := there
  rw [answerAt]
  cases given : (answers.filter (·.isFrom record))[(records.take position).count record]? with
  | none => exact .inr ⟨record, rfl⟩
  | some answer => exact .inl (List.mem_filter.mp (List.mem_of_getElem? given)).1

section Showing

variable [Behaviour ω α]

/-- An agent reports under some ids, and whatever it makes of records, in either kind of stage, it blames
no other agents for failures. -/
structure Showing (ids : List String) (agent : α) : Prop where
  status : (Behaviour.status agent).map AgentStatus.agentId = ids
  first : ∀ records world, BlamedWithin ids (Chain.firstEntries (Behaviour.agentId agent) records
    ((Behaviour.process records agent).effect world).1.result)
  later : ∀ records world error, .ofReply (Behaviour.agentId agent)
    ((Behaviour.process records agent).effect world).1.result = Outcome.failed error → error.agentId ∈ ids

/-- An agent that reports under some ids and blames no others, as it is and as calls may ever leave it. -/
def Shows (ids : List String) : α → Prop := Henceforth (Showing ids)

/-- An agent reports once, under the id that it goes by, and the failures in its answers are its own. -/
structure OwnReport (agentId : String) (agent : α) : Prop where
  id : Behaviour.agentId agent = agentId
  status : (Behaviour.status agent).map AgentStatus.agentId = [agentId]
  answers : ∀ records world answers, ((Behaviour.process records agent).effect world).1.result =
    .ok answers → BlamedWithin [agentId] answers

theorem OwnReport.showing {agentId : String} {agent : α} (own : OwnReport agentId agent) :
    Showing [agentId] agent where
  status := own.status
  first := by
    intro records world entry member error failed
    cases reply : ((Behaviour.process records agent).effect world).1.result with
    | error fault =>
      rw [reply, Chain.firstEntries] at member
      obtain ⟨record, -, rfl⟩ := List.mem_map.mp member
      rw [Outcome.ofReply_error] at failed
      cases failed
      exact List.mem_singleton.mpr own.id
    | ok answers =>
      rw [reply, Chain.firstEntries, Reconciled.ofAnswers_eq_search] at member
      rcases Reconciled.mem_search member with answered | ⟨record, rfl⟩
      · exact own.answers records world answers reply entry answered error failed
      · cases failed
        exact List.mem_singleton.mpr own.id
  later := by
    intro records world error failed
    cases reply : ((Behaviour.process records agent).effect world).1.result with
    | error fault =>
      rw [reply, Outcome.ofReply_error] at failed
      cases failed
      exact List.mem_singleton.mpr own.id
    | ok answers =>
      rw [reply, Outcome.ofReply_ok] at failed
      obtain ⟨answer, member, same⟩ := Outcome.answered_failure failed
      exact own.answers records world answers reply answer member error same

namespace Chain

/-- A later stage leaves failures alone and adds none but those of its processor. -/
theorem laterStage_blamed {all own : List String} (within : own ⊆ all) (stage : Nat) {processor : α}
    (shows : Shows own processor) {entries : List Entry} (before : BlamedWithin all entries)
    (world : ω) : BlamedWithin all ((laterStage stage processor entries).effect world).1.2 := by
  induction entries generalizing processor world with
  | nil => exact before
  | cons entry rest ih =>
    obtain ⟨source, outcome⟩ := entry
    obtain ⟨first, others⟩ := List.forall_mem_cons.mp before
    rw [laterStage_cons]
    cases outcome with
    | failed error => exact List.forall_mem_cons.mpr ⟨first, ih shows others world⟩
    | records records =>
      rw [advance_effect]
      refine List.forall_mem_cons.mpr ⟨fun error failed => ?_, ih (shows.after records world) others _⟩
      exact within (shows.now.later records world error failed)

theorem laterStages_blamed {all : List String} {owns : List (List String)} {processors : List α}
    (shows : List.Forall₂ Shows owns processors) (within : ∀ own ∈ owns, own ⊆ all) (stage : Nat)
    {entries : List Entry} (before : BlamedWithin all entries) (world : ω) :
    BlamedWithin all ((laterStages stage processors entries).effect world).1.2 := by
  induction shows generalizing stage entries world with
  | nil => exact before
  | cons head _ ih =>
    obtain ⟨first, others⟩ := List.forall_mem_cons.mp within
    rw [laterStages_cons]
    exact ih others (stage + 1) (laterStage_blamed first stage head before world) _

/-- The failures of a batch are blamed on agents of the chain. -/
theorem runStages_blamed {owns : List (List String)} {processors : List α}
    (shows : List.Forall₂ Shows owns processors) (records : List Handle) (world : ω) :
    BlamedWithin owns.flatten ((runStages processors records).effect world).1.2 := by
  cases shows with
  | nil =>
    intro entry member error failed
    obtain ⟨record, -, rfl⟩ := List.mem_map.mp member
    cases failed
  | @cons own processor owns processors head rest =>
    have within : ∀ other ∈ own :: owns, other ⊆ (own :: owns).flatten :=
      fun other member id here => List.mem_flatten.mpr ⟨other, member, here⟩
    obtain ⟨first, others⟩ := List.forall_mem_cons.mp within
    rw [runStages_effect]
    refine laterStages_blamed rest others 1 (fun entry member error failed => ?_) _
    exact first (head.now.first records world entry member error failed)

/-- The agents of a chain report as a layout says, each for the definition in its place. -/
structure ShowsLayout (layout : ChainLayout) (chain : Chain α) : Prop where
  source : Option.Rel (fun definition => Shows definition.shownIds) layout.source? chain.source?
  processors : List.Forall₂ (fun definition => Shows (AgentDefinition.shownIds definition))
    layout.processors chain.processors
  sink : Option.Rel (fun definition => Shows definition.shownIds) layout.sink? chain.sink?

namespace ShowsLayout

variable {layout : ChainLayout} {chain : Chain α}

theorem members (shows : ShowsLayout layout chain) :
    List.Forall₂ (fun definition => Shows (AgentDefinition.shownIds definition)) layout.definitions
      chain.members := by
  obtain ⟨source, processors, sink⟩ := shows
  have ends : ∀ {definition? : Option AgentDefinition} {agent? : Option α},
      Option.Rel (fun definition => Shows definition.shownIds) definition? agent? →
        List.Forall₂ (fun definition => Shows (AgentDefinition.shownIds definition))
          definition?.toList agent?.toList := by
    rintro _ _ (⟨shows⟩ | _)
    · exact .cons shows .nil
    · exact .nil
  exact List.rel_append (List.rel_append (ends source) processors) (ends sink)

/-- The status of a chain shows the ids of the layout, in its order. -/
theorem status (shows : ShowsLayout layout chain) :
    chain.status.map AgentStatus.agentId = layout.shownIds := by
  have each := shows.members
  rw [Chain.status, ChainLayout.shownIds, List.map_flatMap]
  generalize layout.definitions = definitions, chain.members = agents at each
  induction each with
  | nil => rfl
  | cons head _ ih => rw [List.flatMap_cons, List.flatMap_cons, ih, head.now.status]

/-- A batch leaves the reports as they are, and its failures are blamed on agents that report. -/
theorem process [Clock ω] (shows : ShowsLayout layout chain) (records : List Handle) (world : ω) :
    let done := (chain.process records).effect world
    ShowsLayout layout done.1.1 ∧ BlamedWithin layout.shownIds done.1.2 := by
  have reached := runStages_reach chain.processors records world
  have owns : List.Forall₂ Shows (layout.processors.map AgentDefinition.shownIds) chain.processors :=
    List.forall₂_map_left_iff.mpr shows.processors
  have blamed := runStages_blamed owns records world
  rw [process_effect]
  refine ⟨⟨shows.source, ?_, shows.sink⟩, fun entry member error failed => ?_⟩
  · exact Henceforth.forall₂_along shows.processors reached
  · obtain ⟨own, listed, here⟩ := List.mem_flatten.mp (blamed entry member error failed)
    obtain ⟨definition, there, rfl⟩ := List.mem_map.mp listed
    have placed : definition ∈ layout.definitions :=
      List.mem_append_left _ (List.mem_append_right _ there)
    exact List.mem_flatMap.mpr ⟨definition, placed, here⟩

theorem processAll [Clock ω] (shows : ShowsLayout layout chain) (batches : List (List Handle))
    (world : ω) :
    let done := (chain.processAll batches).effect world
    ShowsLayout layout done.1.1 ∧ ∀ results ∈ done.1.2, BlamedWithin layout.shownIds results := by
  induction batches generalizing chain world with
  | nil => exact ⟨shows, nofun⟩
  | cons batch batches ih =>
    obtain ⟨still, blamed⟩ := shows.process batch world
    obtain ⟨final, others⟩ := ih still ((chain.process batch).effect world).2
    exact ⟨final, List.forall_mem_cons.mpr ⟨blamed, others⟩⟩

end ShowsLayout

end Chain

end Showing

/-- A leaf shows its own report. -/
theorem Shows.leaf [Behaviour ω σ] [Clock ω] {agentId : String} {agent : σ}
    (own : Henceforth (OwnReport agentId) agent) : Shows [agentId] (Agent.leaf agent) := by
  refine Henceforth.leaf (fun {agent} own => ?_) own
  have whole : OwnReport agentId (Agent.leaf agent) := ⟨own.id, own.status, own.answers⟩
  exact whole.showing

/-- A composite shows what the agents inside it show. -/
theorem Shows.composite [Behaviour ω σ] [Clock ω] {layout : ChainLayout} {chain : Chain (Agent σ)}
    (shows : chain.ShowsLayout layout) (identity : Identity) (registry : RegistryKey) :
    Shows layout.shownIds (Agent.composite identity registry chain) := by
  refine Henceforth.composite identity registry (Chain.ShowsLayout layout)
    (fun records world shows => (shows.process records world).1) (fun {chain} shows => ?_) shows
  have called (records : List Handle) (world : ω) :
      ((Behaviour.process records (Agent.composite identity registry chain)).effect world).1.result =
        .ok ((chain.process records).effect world).1.2 := by
    rw [Agent.process_composite]
    rfl
  refine ⟨?_, fun records world => ?_, fun records world error failed => ?_⟩
  · rw [Agent.status_composite]
    exact shows.status
  · have sources : ((chain.process records).effect world).1.2.map Entry.source = records :=
      Chain.runStages_sources chain.processors records world
    rw [called, Chain.firstEntries_of_sources _ sources]
    exact (shows.process records world).2
  · rw [called, Outcome.ofReply_ok] at failed
    obtain ⟨answer, member, same⟩ := Outcome.answered_failure failed
    exact (shows.process records world).2 answer member error same

end Conveyor
