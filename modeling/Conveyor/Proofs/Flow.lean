import Conveyor.Proofs.Cycles
import Conveyor.Proofs.Statelessness

/-! Counters of different agents that agree. Every processor counts for itself (`AgentCounters`) what it
takes and gives: the first is called with whole batches, the others lineage by lineage, also with nothing at
all behind a processor that drops records, and a composite splits its records anew. As long as nothing
fails, what one gives is nevertheless what the next has taken, from the records that a chain counts as given
to it to those that it counts as produced. -/
namespace Conveyor

variable {ω α σ : Type}

/-- Agents in a row pass records on without loss, by their reports: the first has taken what was given,
each has taken what the one before has given, and what the last has given is what is left. -/
inductive Flow : Nat → List AgentStatus → Nat → Prop where
  | nobody (count : Nat) : Flow count [] count
  | through {given left : Nat} {report : AgentStatus} {later : List AgentStatus}
      (taken : report.metrics.totalIn = given) (on : Flow report.metrics.totalOut later left) :
      Flow given (report :: later) left

theorem Flow.append {given between left : Nat} {reports later : List AgentStatus}
    (front : Flow given reports between) (back : Flow between later left) :
    Flow given (reports ++ later) left := by
  induction front with
  | nobody => exact back
  | through taken _ ih => exact .through taken (ih back)

theorem Flow.split {given left : Nat} {reports later : List AgentStatus}
    (flow : Flow given (reports ++ later) left) :
    ∃ between, Flow given reports between ∧ Flow between later left := by
  induction reports generalizing given with
  | nil => exact ⟨given, .nobody given, flow⟩
  | cons report reports ih =>
    cases flow with
    | through taken on =>
      obtain ⟨between, front, back⟩ := ih on
      exact ⟨between, .through taken front, back⟩

/-- Nothing flows through agents that have not been called. -/
theorem Flow.unused {reports : List AgentStatus}
    (unused : ∀ report ∈ reports, report.metrics.totalIn = 0 ∧ report.metrics.totalOut = 0) :
    Flow 0 reports 0 := by
  induction reports with
  | nil => exact .nobody 0
  | cons report later ih =>
    obtain ⟨⟨totalIn, totalOut⟩, rest⟩ := List.forall_mem_cons.mp unused
    refine .through totalIn ?_
    rw [totalOut]
    exact ih rest

/-- From some reports to others, some records more have entered and some more have left. -/
def Passed (before : List AgentStatus) (taken gave : Nat) (after : List AgentStatus) : Prop :=
  ∀ ⦃given left⦄, Flow given before left → Flow (given + taken) after (left + gave)

namespace Passed

variable {before between after : List AgentStatus} {taken gave taken' gave' : Nat}

theorem none (count : Nat) : Passed [] count count [] := by
  intro given left flow
  cases flow
  exact .nobody (given + count)

theorem still (reports : List AgentStatus) : Passed reports 0 0 reports := fun _ _ flow => flow

/-- More records after the first ones. -/
theorem trans (one : Passed before taken gave between) (other : Passed between taken' gave' after) :
    Passed before (taken + taken') (gave + gave') after := by
  intro given left flow
  rw [← Nat.add_assoc, ← Nat.add_assoc]
  exact other (one flow)

/-- What leaves some agents enters the next ones. -/
theorem append {count : Nat} {later later' : List AgentStatus} (one : Passed before taken count after)
    (other : Passed later count gave later') : Passed (before ++ later) taken gave (after ++ later') := by
  intro given left flow
  obtain ⟨between, front, back⟩ := flow.split
  exact (one front).append (other back)

theorem single {report report' : AgentStatus}
    (totalIn : report'.metrics.totalIn = report.metrics.totalIn + taken)
    (totalOut : report'.metrics.totalOut = report.metrics.totalOut + gave) :
    Passed [report] taken gave [report'] := by
  intro given left flow
  cases flow with
  | through given on =>
    cases on
    rw [← given, ← totalOut]
    exact .through totalIn (.nobody _)

end Passed

section Processors

variable [Behaviour ω α]

/-- The reports of an agent, and of the agents inside it, as processors. -/
def processorReports (agent : α) : List AgentStatus :=
  (Behaviour.status agent).filter fun status => status.component == .processor

/-- A processor that never fails anything, and whose reports keep up with what it does. -/
def Balanced : α → Prop :=
  Henceforth fun agent => ∀ records world,
    let reply := ((Behaviour.process records agent).effect world).1
    ∃ answers, reply.result = .ok answers ∧ answers.map Entry.source = records ∧
      (∀ answer ∈ answers, answer.isFailed = false) ∧
      Passed (processorReports agent) records.length (Entry.countRecords answers)
        (processorReports reply.agent)

theorem countRecords_cons (entry : Entry) (rest : List Entry) :
    Entry.countRecords (entry :: rest) =
      (entry.produced?.getD []).length + Entry.countRecords rest := by
  rw [Entry.countRecords, List.flatMap_cons, List.length_append]
  rfl

theorem ofReply_alive (agentId : String) {answers : List Entry}
    (alive : ∀ answer ∈ answers, answer.isFailed = false) :
    Outcome.ofReply agentId (.ok answers) =
      .records (answers.flatMap fun answer => answer.produced?.getD []) := by
  have none : answers.findSome? Entry.error? = none := by
    refine List.findSome?_eq_none_iff.mpr fun answer member => ?_
    have safe := alive answer member
    obtain ⟨source, outcome⟩ := answer
    cases outcome with
    | records produced => rfl
    | failed error => cases safe
  rw [Outcome.ofReply, none]

namespace Chain

/-- A later stage takes the records of all lineages and gives those that it leaves. -/
theorem laterStage_passed {processor : α} (balanced : Balanced processor) (stage : Nat)
    {entries : List Entry} (alive : ∀ entry ∈ entries, entry.isFailed = false) (world : ω) :
    let ((after, results), _) := (laterStage stage processor entries).effect world
    (∀ entry ∈ results, entry.isFailed = false) ∧
      Passed (processorReports processor) (Entry.countRecords entries) (Entry.countRecords results)
        (processorReports after) := by
  induction entries generalizing processor world with
  | nil => exact ⟨alive, .still _⟩
  | cons entry rest ih =>
    obtain ⟨source, outcome⟩ := entry
    obtain ⟨first, others⟩ := List.forall_mem_cons.mp alive
    cases outcome with
    | failed error => cases first
    | records records =>
      -- The next lineage comes to the processor as this call leaves it.
      obtain ⟨answers, replied, -, safe, passed⟩ := balanced.now records world
      have more := ih (balanced.after records world) others
        ((Behaviour.process records processor).effect world).2
      simp only [laterStage_cons, advance_effect, replied, ofReply_alive _ safe]
      refine ⟨List.forall_mem_cons.mpr ⟨rfl, more.1⟩, ?_⟩
      rw [countRecords_cons, countRecords_cons]
      exact passed.trans more.2

/-- What one of the later stages gives is what the next takes. -/
theorem laterStages_passed {processors : List α} (balanced : ∀ agent ∈ processors, Balanced agent)
    (stage : Nat) {entries : List Entry} (alive : ∀ entry ∈ entries, entry.isFailed = false)
    (world : ω) :
    let ((after, results), _) := (laterStages stage processors entries).effect world
    (∀ entry ∈ results, entry.isFailed = false) ∧
      Passed (processors.flatMap processorReports) (Entry.countRecords entries)
        (Entry.countRecords results) (after.flatMap processorReports) := by
  induction processors generalizing stage entries world with
  | nil => exact ⟨alive, .none _⟩
  | cons processor rest ih =>
    obtain ⟨head, others⟩ := List.forall_mem_cons.mp balanced
    obtain ⟨safe, passed⟩ := laterStage_passed head stage alive world
    obtain ⟨last, more⟩ := ih others (stage + 1) safe
      ((laterStage stage processor entries).effect world).2
    rw [laterStages_cons]
    exact ⟨last, passed.append more⟩

/-- The processors take the records of a batch and give those that its lineages end with. -/
theorem runStages_passed {processors : List α} (balanced : ∀ agent ∈ processors, Balanced agent)
    (batch : List Handle) (world : ω) :
    let ((after, results), _) := (runStages processors batch).effect world
    (∀ entry ∈ results, entry.isFailed = false) ∧
      Passed (processors.flatMap processorReports) batch.length (Entry.countRecords results)
        (after.flatMap processorReports) := by
  cases processors with
  | nil =>
    have count : Entry.countRecords (batch.map Entry.passThrough) = batch.length := by
      induction batch with
      | nil => rfl
      | cons record rest ih =>
        rw [List.map_cons, countRecords_cons, ih, List.length_cons, Nat.add_comm]
        rfl
    refine ⟨fun entry member => ?_, ?_⟩
    · obtain ⟨record, _, rfl⟩ := List.mem_map.mp member
      rfl
    · change Passed [] batch.length (Entry.countRecords (batch.map Entry.passThrough)) []
      rw [count]
      exact .none _
  | cons first rest =>
    obtain ⟨head, others⟩ := List.forall_mem_cons.mp balanced
    obtain ⟨answers, replied, sources, safe, passed⟩ := head.now batch world
    obtain ⟨last, more⟩ := laterStages_passed others 1 safe
      ((Behaviour.process batch first).effect world).2
    simp only [runStages_effect, replied, firstEntries_of_sources _ sources]
    exact ⟨last, passed.append more⟩

/-- The ends do not report as processors. -/
def Quiet (chain : Chain α) : Prop :=
  ∀ agent ∈ chain.source?.toList ++ chain.sink?.toList, processorReports agent = []

theorem Quiet.reports {chain : Chain α} (quiet : chain.Quiet) :
    (chain.status.filter fun status => status.component == .processor) =
      chain.processors.flatMap processorReports := by
  have ends : ∀ agents : List α, (∀ agent ∈ agents, processorReports agent = []) →
      agents.flatMap processorReports = [] := fun agents none => List.flatMap_eq_nil_iff.mpr none
  obtain ⟨source, sink⟩ := List.forall_mem_append.mp quiet
  have each : (chain.status.filter fun status => status.component == .processor) =
      chain.members.flatMap processorReports := List.filter_flatMap
  rw [each, members, List.flatMap_append, List.flatMap_append, ends _ source, ends _ sink, List.append_nil,
    List.nil_append]

/-- A chain through which records flow: its processors pass on what they take, from the records that it
counts as given to those that it counts as produced. -/
structure Conserves (chain : Chain α) : Prop where
  balanced : ∀ agent ∈ chain.processors, Balanced agent
  flow : Flow chain.metrics.recordsIn (chain.processors.flatMap processorReports)
    chain.metrics.recordsOut

theorem Conserves.snapshot {chain : Chain α} (conserves : chain.Conserves) (quiet : chain.Quiet)
    (now : Instant) :
    Flow chain.metrics.recordsIn ((chain.snapshot now).byComponent .processor)
      chain.metrics.recordsOut := by
  have reports : (chain.snapshot now).byComponent .processor =
      chain.processors.flatMap processorReports := quiet.reports
  rw [reports]
  exact conserves.flow

variable [Clock ω]

theorem Quiet.processAll {chain : Chain α} (quiet : chain.Quiet) (batches : List (List Handle))
    (world : ω) : ((chain.processAll batches).effect world).1.1.Quiet := by
  induction batches generalizing chain world with
  | nil => exact quiet
  | cons batch batches ih =>
    have still : ((chain.process batch).effect world).1.1.Quiet := quiet
    exact ih still _

/-- Processing a batch keeps the flow. -/
theorem Conserves.process {chain : Chain α} (conserves : chain.Conserves) (batch : List Handle)
    (world : ω) : ((chain.process batch).effect world).1.1.Conserves := by
  obtain ⟨balanced, flow⟩ := conserves
  obtain ⟨-, passed⟩ := runStages_passed balanced batch world
  rw [process_effect]
  exact ⟨Henceforth.all_along balanced (runStages_reach chain.processors batch world), passed flow⟩

theorem Conserves.processAll {chain : Chain α} (conserves : chain.Conserves)
    (batches : List (List Handle)) (world : ω) :
    ((chain.processAll batches).effect world).1.1.Conserves := by
  induction batches generalizing chain world with
  | nil => exact conserves
  | cons batch batches ih => exact ih (conserves.process batch world) _

theorem Conserves.processEachFilled {chain : Chain α} (conserves : chain.Conserves)
    (batches : List (List Handle)) (world : ω) :
    ((chain.processEachFilled batches).effect world).1.1.Conserves := by
  induction batches generalizing chain world with
  | nil => exact conserves
  | cons batch batches ih =>
    refine ih ?_ _
    cases batch with
    | nil => exact conserves
    | cons record rest => exact conserves.process (record :: rest) world

theorem processFilled_counts (chain : Chain α) (batch : List Handle) (world : ω) :
    let ((after, lineages), _) := (chain.processFilled batch).effect world
    after.metrics.recordsIn = chain.metrics.recordsIn + lineages.length ∧
      after.metrics.recordsOut = chain.metrics.recordsOut + (Entry.outputs lineages).length := by
  have answered : ((chain.processFilled batch).effect world).1.2.length = batch.length := by
    rw [← List.length_map Entry.source, processFilled_sources]
  dsimp only
  rw [answered, ← completedRecords_eq]
  cases batch <;> exact ⟨rfl, rfl⟩

/-- What a chain counts while cycles process their batches. -/
theorem processEachFilled_counts (chain : Chain α) (batches : List (List Handle)) (world : ω) :
    let ((after, results), _) := (chain.processEachFilled batches).effect world
    after.metrics.recordsIn = chain.metrics.recordsIn + (results.map List.length).sum ∧
      after.metrics.recordsOut =
        chain.metrics.recordsOut + (results.flatMap Entry.outputs).length := by
  induction batches generalizing chain world with
  | nil => exact ⟨rfl, rfl⟩
  | cons batch batches ih =>
    have first := processFilled_counts chain batch world
    simp only [processEachFilled, Activity.effect_bind, Activity.effect_pure]
    generalize (chain.processFilled batch).effect world = done at first ⊢
    obtain ⟨⟨between, lineages⟩, middle⟩ := done
    have rest := ih between middle
    generalize (between.processEachFilled batches).effect middle = others at rest ⊢
    obtain ⟨⟨after, results⟩, last⟩ := others
    obtain ⟨recordsIn, recordsOut⟩ := rest
    dsimp only
    rw [recordsIn, recordsOut, first.1, first.2, List.map_cons, List.sum_cons, List.flatMap_cons,
      List.length_append, ← Nat.add_assoc, ← Nat.add_assoc]
    exact ⟨rfl, rfl⟩

end Chain

end Processors

section Trees

variable [Behaviour ω σ] [Clock ω]

/-- Trees whose leaves are workers of some sort, behind the processors of composites. -/
inductive Woven (worker : σ → Prop) : Agent σ → Prop where
  | leaf {agent : σ} (works : worker agent) : Woven worker (.leaf agent)
  | composite (identity : Identity) (registry : RegistryKey) {chain : Chain (Agent σ)}
      (quiet : chain.Quiet) (works : ∀ agent ∈ chain.processors, Woven worker agent) :
      Woven worker (.composite identity registry chain)

theorem processorReports_composite (identity : Identity) (registry : RegistryKey)
    {chain : Chain (Agent σ)} (quiet : chain.Quiet) :
    processorReports (Agent.composite identity registry chain) =
      chain.processors.flatMap processorReports := by
  rw [processorReports, Agent.status_composite, quiet.reports]

theorem Balanced.leaf {agent : σ} (balanced : Balanced agent) : Balanced (Agent.leaf agent) :=
  Henceforth.leaf (fun passes records world => passes records world) balanced

/-- A composite passes on what its processors pass on. -/
theorem Balanced.composite (identity : Identity) (registry : RegistryKey) {chain : Chain (Agent σ)}
    (quiet : chain.Quiet) (balanced : ∀ agent ∈ chain.processors, Balanced agent) :
    Balanced (Agent.composite identity registry chain) := by
  refine Henceforth.composite identity registry
    (fun chain => chain.Quiet ∧ ∀ agent ∈ chain.processors, Balanced agent) ?_ ?_ ⟨quiet, balanced⟩
  · rintro chain records world ⟨quiet, balanced⟩
    exact ⟨quiet, Henceforth.all_along balanced
      (Chain.runStages_reach chain.processors records world)⟩
  · rintro chain ⟨quiet, balanced⟩ records world
    obtain ⟨safe, passed⟩ := Chain.runStages_passed balanced records world
    have quietAfter : ((chain.process records).effect world).1.1.Quiet := quiet
    rw [Agent.process_composite]
    refine ⟨_, rfl, Chain.runStages_sources chain.processors records world, safe, ?_⟩
    rw [processorReports_composite identity registry quiet]
    have reports := processorReports_composite identity registry quietAfter
    exact reports ▸ passed

/-- A tree passes on what it takes if its leaves do. -/
theorem Woven.balanced {worker : σ → Prop} (works : ∀ {agent}, worker agent → Balanced agent)
    {agent : Agent σ} (woven : Woven worker agent) : Balanced agent := by
  induction woven with
  | leaf worker => exact (works worker).leaf
  | composite identity registry quiet _ balanced => exact .composite identity registry quiet balanced

end Trees

end Conveyor
