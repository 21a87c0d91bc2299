import Conveyor.Proofs.LeadingComposite
import Mathlib.Data.List.Forall2
import Mathlib.Logic.Relation

/-! Processors whose replies depend on the records of a call and on nothing else. What such a processor
makes of a lineage is a function of what is seen of its records, so a later stage (`run_stages`) acts on
every outcome for itself, and stages that follow each other act by their functions in turn. What is seen of
a record is left open: its content, if records made by the way shall not count as different, or the handle.
-/
namespace Conveyor

variable {ω α ν : Type}

/-- What is seen of a lineage, unless it has failed. -/
abbrev Seen := Except ProcessingError

/-- An outcome whose records are looked at. -/
def Outcome.seen (view : Handle → ν) : Outcome → Seen (List ν)
  | records produced => .ok (produced.map view)
  | failed error => .error error

/-- A lineage whose outcome is looked at. Its source stays the very same record. -/
def Entry.seen (view : Handle → ν) (entry : Entry) : Handle × Seen (List ν) :=
  (entry.source, entry.outcome.seen view)

/-- The items of all lists in order, unless one of the lists is missing. -/
def collect {m : Type → Type} [Monad m] : List (m (List ν)) → m (List ν)
  | [] => pure []
  | first :: rest => do
    let items ← first
    let others ← collect rest
    return items ++ others

/-- The items that a function gives for all records in order, unless it gives none for one of them. -/
def overAll {m : Type → Type} [Monad m] (function : ν → m (List ν)) (records : List ν) : m (List ν) :=
  collect (records.map function)

theorem seen_flatten (view : Handle → ν) (answers : List Entry) :
    (Outcome.flatten answers).seen view = collect (answers.map (·.outcome.seen view)) := by
  induction answers with
  | nil => rfl
  | cons answer rest ih =>
    obtain ⟨source, outcome⟩ := answer
    rw [List.map_cons, collect, ← ih]
    cases outcome with
    | failed error => rfl
    | records produced =>
      rw [Outcome.flatten]
      cases Outcome.flatten rest with
      | failed error => rfl
      | records others => exact congrArg Except.ok (List.map_append ..)

section Lasting

variable [Behaviour ω α]

/-- An agent before and after some call to process records. -/
def Processed (before after : α) : Prop :=
  ∃ records world, ((Behaviour.process records before).effect world).1.agent = after

/-- A property of an agent, as it is and as calls to process records may ever leave it. -/
def Henceforth (property : α → Prop) (agent : α) : Prop :=
  ∀ ⦃later⦄, Relation.ReflTransGen Processed agent later → property later

namespace Henceforth

variable {property : α → Prop} {agent : α}

theorem now (lasting : Henceforth property agent) : property agent := lasting .refl

theorem along (lasting : Henceforth property agent) {later : α}
    (reached : Relation.ReflTransGen Processed agent later) : Henceforth property later :=
  fun _ more => lasting (reached.trans more)

theorem after (lasting : Henceforth property agent) (records : List Handle) (world : ω) :
    Henceforth property ((Behaviour.process records agent).effect world).1.agent :=
  lasting.along (.single ⟨records, world, rfl⟩)

theorem mono {weaker : α → Prop} (implied : ∀ {agent}, property agent → weaker agent)
    (lasting : Henceforth property agent) : Henceforth weaker agent :=
  fun _ reached => implied (lasting reached)

/-- What holds inside a class of agents that calls do not leave holds henceforth. -/
theorem of_kept (inside : α → Prop)
    (kept : ∀ {agent} records world, inside agent →
      inside ((Behaviour.process records agent).effect world).1.agent)
    (holds : ∀ {agent}, inside agent → property agent) (begins : inside agent) :
    Henceforth property agent := by
  intro later reached
  refine holds ?_
  induction reached with
  | refl => exact begins
  | tail _ called ih =>
    obtain ⟨records, world, rfl⟩ := called
    exact kept records world ih

/-- Properties of agents one by one stay when the agents move on one by one. -/
theorem forall₂_along {β : Type} {property : β → α → Prop} {values : List β} {agents later : List α}
    (lasting : List.Forall₂ (fun value => Henceforth (property value)) values agents)
    (reached : List.Forall₂ (Relation.ReflTransGen Processed) agents later) :
    List.Forall₂ (fun value => Henceforth (property value)) values later := by
  induction lasting generalizing later with
  | nil =>
    cases reached
    exact .nil
  | cons head _ ih =>
    cases reached with
    | cons first others => exact .cons (head.along first) (ih others)

/-- A property of all agents stays when they move on one by one. -/
theorem all_along {agents later : List α} (lasting : ∀ agent ∈ agents, Henceforth property agent)
    (reached : List.Forall₂ (Relation.ReflTransGen Processed) agents later) :
    ∀ agent ∈ later, Henceforth property agent := by
  induction reached with
  | nil => exact lasting
  | cons first _ ih =>
    obtain ⟨head, rest⟩ := List.forall_mem_cons.mp lasting
    exact List.forall_mem_cons.mpr ⟨head.along first, ih rest⟩

/-- What lasts for an agent lasts for what stands for it, if that moves on as the agent does. -/
theorem through {ω' β : Type} [Behaviour ω' β] {wrap : α → β} {ofWrapped : β → Prop}
    (moves : ∀ records agent (world : ω'), ∃ begun : ω,
      ((Behaviour.process records (wrap agent)).effect world).1.agent =
        wrap ((Behaviour.process records agent).effect begun).1.agent)
    {agent : α} (lasting : Henceforth property agent)
    (holds : ∀ agent, property agent → ofWrapped (wrap agent)) :
    Henceforth ofWrapped (wrap agent) := by
  refine of_kept (fun wrapped => ∃ agent, wrapped = wrap agent ∧ Henceforth property agent) ?_ ?_
    ⟨agent, rfl, lasting⟩
  · rintro _ records world ⟨agent, rfl, lasting⟩
    obtain ⟨begun, same⟩ := moves records agent world
    exact ⟨_, same, lasting.after records begun⟩
  · rintro _ ⟨agent, rfl, lasting⟩
    exact holds agent lasting.now

variable {σ : Type} [Behaviour ω σ] [Clock ω]

/-- What lasts for an agent lasts for the tree that it is the only leaf of. -/
theorem leaf {property : σ → Prop} {ofTree : Agent σ → Prop}
    (holds : ∀ {agent}, property agent → ofTree (.leaf agent)) {agent : σ}
    (lasting : Henceforth property agent) : Henceforth ofTree (.leaf agent) :=
  through (fun _ _ world => ⟨world, rfl⟩) lasting fun _ => holds

/-- What holds of a composite by something that its chain keeps holds henceforth. -/
theorem composite {ofTree : Agent σ → Prop} (identity : Identity) (registry : RegistryKey)
    (inside : Chain (Agent σ) → Prop)
    (kept : ∀ {chain} records world, inside chain →
      inside ((chain.process records).effect world).1.1)
    (holds : ∀ {chain}, inside chain → ofTree (.composite identity registry chain))
    {chain : Chain (Agent σ)} (begins : inside chain) :
    Henceforth ofTree (.composite identity registry chain) := by
  refine of_kept (fun tree => ∃ chain, tree = .composite identity registry chain ∧ inside chain)
    ?_ ?_ ⟨chain, rfl, begins⟩
  · rintro _ records world ⟨chain, rfl, holding⟩
    rw [Agent.process_composite]
    exact ⟨_, rfl, kept records world holding⟩
  · rintro _ ⟨chain, rfl, holding⟩
    exact holds holding

end Henceforth

/-- How a processor without memory replies: the id that it goes by, and for records as they are seen a
fault or what is seen of its answers. -/
structure Habit (ν : Type) where
  agentId : String
  reply : List ν → Except (Fault AgentError) (List (Seen (List ν)))

/-- A processor whose answer, error or panic depends on the records of a call alone, at any time. Which
sources it names in its answers is left open, since later stages do not look at them. -/
def Stateless (view : Handle → ν) (habit : Habit ν) : α → Prop :=
  Henceforth fun agent => Behaviour.agentId agent = habit.agentId ∧ ∀ records world,
    (((Behaviour.process records agent).effect world).1.result.map
      fun answers => answers.map (·.outcome.seen view)) = habit.reply (records.map view)

/-- A processor that never fails a call, and answers each record of its batch in order by one entry
that depends on that record alone. -/
def RecordWise (view : Handle → ν) (function : ν → Seen (List ν)) : α → Prop :=
  Henceforth fun agent => ∀ records world, ∃ answers,
    ((Behaviour.process records agent).effect world).1.result = .ok answers ∧
      answers.map (Entry.seen view) = records.map fun record => (record, function (view record))

/-- A processor that makes of the records of a lineage an outcome that depends on them alone. -/
def Transforms (view : Handle → ν) (function : List ν → Seen (List ν)) : α → Prop :=
  Henceforth fun agent => ∀ records world,
    (Outcome.ofReply (Behaviour.agentId agent)
      ((Behaviour.process records agent).effect world).1.result).seen view =
      function (records.map view)

/-- What a processor without memory makes of the records of a lineage. -/
def Habit.outcome (habit : Habit ν) (records : List ν) : Seen (List ν) :=
  match habit.reply records with
  | .ok answers => collect answers
  | .error fault => .error (.ofAgent habit.agentId fault.toAgentError)

theorem Stateless.transforms {view : Handle → ν} {habit : Habit ν} {agent : α}
    (stateless : Stateless view habit agent) : Transforms view habit.outcome agent := by
  refine stateless.mono fun {agent} ⟨id, same⟩ records world => ?_
  rw [Habit.outcome, ← same records world, id]
  cases ((Behaviour.process records agent).effect world).1.result with
  | error fault => simp [Outcome.ofReply_error, Except.map, Outcome.seen]
  | ok answers => simp [Outcome.ofReply_ok, Except.map, seen_flatten]

theorem RecordWise.transforms {view : Handle → ν} {function : ν → Seen (List ν)} {agent : α}
    (recordWise : RecordWise view function agent) :
    Transforms view (overAll function) agent := by
  refine recordWise.mono fun {agent} answered records world => ?_
  obtain ⟨answers, replied, same⟩ := answered records world
  have outcomes := congrArg (List.map Prod.snd) same
  simp only [List.map_map, Function.comp_def, Entry.seen] at outcomes
  rw [replied, Outcome.ofReply_ok, seen_flatten, outcomes]
  simp only [overAll, List.map_map, Function.comp_def]

end Lasting

/-- Functions one after the other, up to the first failure. -/
def inTurn : List (List ν → Seen (List ν)) → List ν → Seen (List ν)
  | [], records => .ok records
  | function :: rest, records => function records >>= inTurn rest

/-- A lineage as it is seen, with a function applied to its records. -/
def leadOn (function : List ν → Seen (List ν)) (lineage : Handle × Seen (List ν)) :
    Handle × Seen (List ν) :=
  (lineage.1, lineage.2 >>= function)

theorem leadOn_inTurn_nil (lineage : Handle × Seen (List ν)) : leadOn (inTurn []) lineage = lineage := by
  obtain ⟨source, outcome⟩ := lineage
  cases outcome <;> rfl

theorem leadOn_inTurn_cons (function : List ν → Seen (List ν))
    (rest : List (List ν → Seen (List ν))) (lineage : Handle × Seen (List ν)) :
    leadOn (inTurn (function :: rest)) lineage = leadOn (inTurn rest) (leadOn function lineage) := by
  obtain ⟨source, outcome⟩ := lineage
  cases outcome <;> rfl

namespace Chain

variable [Behaviour ω α] {view : Handle → ν}

theorem laterStage_reaches (stage : Nat) (processor : α) (entries : List Entry) (world : ω) :
    Relation.ReflTransGen Processed processor
      ((laterStage stage processor entries).effect world).1.1 := by
  induction entries generalizing processor world with
  | nil => exact .refl
  | cons entry rest ih =>
    obtain ⟨source, outcome⟩ := entry
    rw [laterStage_cons]
    cases outcome with
    | failed error => exact ih processor world
    | records records =>
      rw [advance_effect]
      exact .head ⟨records, world, rfl⟩ (ih _ _)

theorem laterStages_reach (stage : Nat) (processors : List α) (entries : List Entry) (world : ω) :
    List.Forall₂ (Relation.ReflTransGen Processed) processors
      ((laterStages stage processors entries).effect world).1.1 := by
  induction processors generalizing stage entries world with
  | nil => exact .nil
  | cons processor rest ih =>
    rw [laterStages_cons]
    exact .cons (laterStage_reaches stage processor entries world) (ih _ _ _)

/-- A batch leaves the processors as some calls leave them. -/
theorem runStages_reach (processors : List α) (records : List Handle) (world : ω) :
    List.Forall₂ (Relation.ReflTransGen Processed) processors
      ((runStages processors records).effect world).1.1 := by
  cases processors with
  | nil => exact .nil
  | cons first rest =>
    rw [runStages_effect]
    exact .cons (.single ⟨records, world, rfl⟩) (laterStages_reach _ _ _ _)

/-- A later stage acts on the outcome of every lineage by the function of its processor. -/
theorem laterStage_transforms {function : List ν → Seen (List ν)} {processor : α}
    (transforms : Transforms view function processor) (stage : Nat) (entries : List Entry)
    (world : ω) :
    ((laterStage stage processor entries).effect world).1.2.map (Entry.seen view) =
      (entries.map (Entry.seen view)).map (leadOn function) := by
  induction entries generalizing processor world with
  | nil => rfl
  | cons entry rest ih =>
    obtain ⟨source, outcome⟩ := entry
    rw [laterStage_cons]
    cases outcome with
    | failed error => exact congrArg _ (ih transforms world)
    | records records =>
      have made := transforms.now records world
      rw [advance_effect]
      exact List.cons_eq_cons.mpr ⟨congrArg (source, ·) made, ih (transforms.after records world) _⟩

/-- The later stages act on the outcome of every lineage by their functions in turn. -/
theorem laterStages_transform {functions : List (List ν → Seen (List ν))} {processors : List α}
    (transforms : List.Forall₂ (Transforms view) functions processors) (stage : Nat)
    (entries : List Entry) (world : ω) :
    ((laterStages stage processors entries).effect world).1.2.map (Entry.seen view) =
      (entries.map (Entry.seen view)).map (leadOn (inTurn functions)) := by
  induction transforms generalizing stage entries world with
  | nil => simp [laterStages, leadOn_inTurn_nil]
  | @cons function processor functions processors head _ ih =>
    rw [laterStages_cons]
    have first := laterStage_transforms head stage entries world
    have rest := ih (stage + 1) ((laterStage stage processor entries).effect world).1.2
      ((laterStage stage processor entries).effect world).2
    rw [first, List.map_map] at rest
    refine rest.trans (List.map_congr_left fun lineage _ => ?_)
    exact (leadOn_inTurn_cons function functions lineage).symm

/-- The entries of a batch after the first stage, lined up with the batch. -/
def entered (first : α) (batch : List Handle) (world : ω) : List Entry :=
  firstEntries (Behaviour.agentId first) batch ((Behaviour.process batch first).run world).value.result

/-- A first processor that answers each record for itself enters each record for itself. -/
theorem entered_recordWise {function : ν → Seen (List ν)} {first : α}
    (recordWise : RecordWise view function first) (batch : List Handle) (world : ω) :
    (entered first batch world).map (Entry.seen view) =
      batch.map fun record => (record, function (view record)) := by
  obtain ⟨answers, replied, same⟩ := recordWise.now batch world
  have sources : answers.map Entry.source = batch := by
    simpa only [List.map_map, Function.comp_def, Entry.seen, List.map_id'] using
      congrArg (List.map Prod.fst) same
  have reply : ((Behaviour.process batch first).run world).value.result = .ok answers := replied
  rw [entered, reply, firstEntries_of_sources _ sources, same]

/-- Behind the first stage every lineage is led on by the functions of the other processors. -/
theorem runStages_transform {functions : List (List ν → Seen (List ν))} {rest : List α}
    (transforms : List.Forall₂ (Transforms view) functions rest) (first : α) (batch : List Handle)
    (world : ω) :
    ((runStages (first :: rest) batch).effect world).1.2.map (Entry.seen view) =
      ((entered first batch world).map (Entry.seen view)).map (leadOn (inTurn functions)) := by
  rw [runStages_effect]
  exact laterStages_transform transforms 1 _ _

end Chain

end Conveyor
