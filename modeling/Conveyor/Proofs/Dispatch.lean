import Conveyor.Proofs.Provenance
import Conveyor.Proofs.Watching

/-! Which calls the processing of a batch (`run_stages`) makes, and what becomes of the lineages by the
replies. The first processor is called once with the whole batch. Each later processor is called once for
every lineage that has not failed yet, with the records of that lineage, before the next processor is called
at all. These rules are stated as relations between outcomes and calls, without the agents: whatever the
agents do, the calls that are written down while a batch is processed follow them. -/
namespace Conveyor

variable {ω α : Type}

/-- The calls that one later stage makes for the outcomes of all lineages, in order, and the outcomes
that the replies leave. -/
inductive StageCalls (place : Place) : List Outcome → List (Call Place) → List Outcome → Prop where
  | done : StageCalls place [] [] []
  /-- A lineage that has failed is passed over. -/
  | passed (error : ProcessingError) (rest : StageCalls place before calls after) :
      StageCalls place (.failed error :: before) calls (.failed error :: after)
  /-- Every other lineage is worth one call, also if it has no records left. -/
  | called (records : List Handle) (agentId : String)
      (reply : Except (Fault AgentError) (List Entry)) (rest : StageCalls place before calls after) :
      StageCalls place (.records records :: before)
        (⟨place, agentId, .process records reply⟩ :: calls) (.ofReply agentId reply :: after)

/-- The outcomes of all lineages before the processor at a position and after each processor from
there on, with the calls in between: those of one stage before those of the next. -/
inductive Course : Nat → List (List Outcome) → List (Call Place) → Prop where
  | done (position : Nat) (outcomes : List Outcome) : Course position [outcomes] []
  | next (stage : StageCalls (.processor position) before calls after)
      (rest : Course (position + 1) (after :: history) more) :
      Course position (before :: after :: history) (calls ++ more)

theorem stage_keeps_failure {place : Place} {before after : List Outcome}
    {calls : List (Call Place)} (stage : StageCalls place before calls after) {position : Nat}
    {error : ProcessingError} (failed : before[position]? = some (.failed error)) :
    after[position]? = some (.failed error) := by
  induction stage generalizing position with
  | done => exact failed
  | passed other rest ih =>
    cases position with
    | zero => exact failed
    | succ position => exact ih failed
  | called records agentId reply rest ih =>
    cases position with
    | zero => simp at failed
    | succ position => exact ih failed

/-- A failure stays through all stages that follow. -/
theorem course_keeps_failure {start : Nat} {history : List (List Outcome)}
    {calls : List (Call Place)} (course : Course start history calls) {outcomes final : List Outcome}
    (passed : outcomes ∈ history) (last : history.getLast? = some final) {position : Nat}
    {error : ProcessingError} (failed : outcomes[position]? = some (.failed error)) :
    final[position]? = some (.failed error) := by
  induction course generalizing outcomes with
  | done start only =>
    simp only [List.getLast?_singleton, Option.some.injEq] at last
    rw [← last, ← List.mem_singleton.mp passed]
    exact failed
  | next stage rest ih =>
    rw [List.getLast?_cons_cons] at last
    rcases List.mem_cons.mp passed with rfl | later
    · exact ih List.mem_cons_self last (stage_keeps_failure stage failed)
    · exact ih later last failed

/-- There is nothing to call where every lineage has failed. -/
theorem stage_without_lineages {place : Place} {before after : List Outcome}
    {calls : List (Call Place)} (stage : StageCalls place before calls after)
    (failed : ∀ outcome ∈ before, outcome.isFailed) : calls = [] ∧ after = before := by
  induction stage with
  | done => exact ⟨rfl, rfl⟩
  | passed error rest ih =>
    obtain ⟨none, same⟩ := ih (List.forall_mem_cons.mp failed).2
    exact ⟨none, by rw [same]⟩
  | called records agentId reply rest ih =>
    have alive := (List.forall_mem_cons.mp failed).1
    simp [Outcome.isFailed] at alive

theorem course_without_lineages {start : Nat} {before : List Outcome}
    {history : List (List Outcome)} {calls : List (Call Place)}
    (course : Course start (before :: history) calls)
    (failed : ∀ outcome ∈ before, outcome.isFailed) : calls = [] := by
  generalize whole : before :: history = outcomes at course
  induction course generalizing before history with
  | done => rfl
  | next stage rest ih =>
    cases whole
    obtain ⟨none, same⟩ := stage_without_lineages stage failed
    rw [none, ih failed (by rw [same])]
    rfl

/-- The later stages call nothing but processors behind the first, and only to process records. -/
theorem course_calls_processors {start : Nat} {history : List (List Outcome)}
    {calls : List (Call Place)} (course : Course start history calls) :
    ∀ call ∈ calls, ∃ position records reply,
      call.label = .processor position ∧ call.exchange = .process records reply := by
  have one : ∀ {place before after} {calls : List (Call Place)},
      StageCalls place before calls after → ∀ call ∈ calls, ∃ records reply,
        call.label = place ∧ call.exchange = .process records reply := by
    intro place before after calls stage
    induction stage with
    | done => simp
    | passed error rest ih => exact ih
    | called records agentId reply rest ih =>
      exact List.forall_mem_cons.mpr ⟨⟨records, reply, rfl, rfl⟩, ih⟩
  induction course with
  | done => simp
  | next stage rest ih =>
    intro call member
    rcases List.mem_append.mp member with here | later
    · obtain ⟨records, reply, facts⟩ := one stage call here
      exact ⟨_, records, reply, facts⟩
    · exact ih call later

namespace Chain

variable [Behaviour ω α]

theorem watched_process (processor : Watched Place α) (records : List Handle)
    (watch : Watch Place ω) :
    (Behaviour.process records processor).effect watch =
      let (reply, after) := (Behaviour.process records processor.agent).effect watch.world
      (reply.mapAgent (⟨processor.label, ·⟩), ⟨after, watch.calls ++
        [⟨processor.label, Behaviour.agentId processor.agent, .process records reply.result⟩]⟩) :=
  rfl

/-- A later stage makes the calls of its lineages, and keeps its place. -/
theorem laterStage_calls (stage : Nat) (processor : Watched Place α) (entries : List Entry)
    (watch : Watch Place ω) :
    let done := (laterStage stage processor entries).effect watch
    ∃ calls, done.2.calls = watch.calls ++ calls ∧
      StageCalls processor.label (entries.map Entry.outcome) calls
        (done.1.2.map Entry.outcome) := by
  induction entries generalizing processor watch with
  | nil => exact ⟨[], (List.append_nil _).symm, .done⟩
  | cons entry rest ih =>
    obtain ⟨source, outcome⟩ := entry
    rw [laterStage_cons]
    cases outcome with
    | failed error =>
      obtain ⟨calls, noted, stage⟩ := ih processor watch
      exact ⟨calls, noted, .passed error stage⟩
    | records records =>
      rw [advance_effect, watched_process]
      obtain ⟨calls, noted, stage⟩ := ih _ _
      exact ⟨_, noted.trans (List.append_assoc _ [_] _), .called records _ _ stage⟩

/-- The later stages make their calls one after the other. -/
theorem laterStages_calls (stage position : Nat) (processors : List α) (entries : List Entry)
    (watch : Watch Place ω) :
    let done := (laterStages stage (watchFrom position processors) entries).effect watch
    ∃ history calls, done.2.calls = watch.calls ++ calls ∧
      Course position (entries.map Entry.outcome :: history) calls ∧
      history.length = processors.length ∧
      (entries.map Entry.outcome :: history).getLast? = some (done.1.2.map Entry.outcome) := by
  induction processors generalizing stage position entries watch with
  | nil => exact ⟨[], [], (List.append_nil _).symm, .done _ _, rfl, rfl⟩
  | cons processor rest ih =>
    rw [watchFrom, laterStages_cons]
    generalize here : (⟨.processor position, processor⟩ : Watched Place α) = watched
    obtain ⟨calls, noted, first⟩ := laterStage_calls stage watched entries watch
    obtain ⟨history, more, notedLater, later, count, last⟩ := ih (stage + 1) (position + 1)
      ((laterStage stage watched entries).effect watch).1.2
      ((laterStage stage watched entries).effect watch).2
    subst here
    refine ⟨_ :: history, calls ++ more, ?_, .next first later, by simp [count], ?_⟩
    · dsimp only
      rw [notedLater, noted, List.append_assoc]
    · rw [List.getLast?_cons_cons]
      exact last

variable [Clock ω]

/-- A chain without processors calls no agent for a batch and passes its records on. -/
theorem process_without_processors (chain : Chain α) (none : chain.processors = [])
    (records : List Handle) (world : ω) :
    callsOf (chain.watched.process records) world = [] ∧
      ((chain.process records).run world).value.2 = records.map Entry.passThrough := by
  have calls : callsOf (chain.watched.process records) world =
      ((runStages chain.watched.processors records).effect ⟨world, []⟩).2.calls := rfl
  have results : ((chain.process records).run world).value.2 =
      ((runStages chain.processors records).effect world).1.2 := rfl
  rw [calls, results]
  simp [watched, watchFrom, none, runStages]

/-- A chain with processors calls the first of them, and then the others in the course of the
outcomes that the first call leaves. -/
theorem process_course (chain : Chain α) {first : α} {rest : List α}
    (shape : chain.processors = first :: rest) (records : List Handle) (world : ω) :
    let reply := ((Behaviour.process records first).run world).value.result
    let entered := (firstEntries (Behaviour.agentId first) records reply).map Entry.outcome
    let results := ((chain.process records).run world).value.2
    ∃ history later,
      callsOf (chain.watched.process records) world =
        ⟨.processor 0, Behaviour.agentId first, .process records reply⟩ :: later ∧
      Course 1 (entered :: history) later ∧ history.length = rest.length ∧
      (entered :: history).getLast? = some (results.map Entry.outcome) := by
  have calls : callsOf (chain.watched.process records) world =
      ((runStages chain.watched.processors records).effect ⟨world, []⟩).2.calls := rfl
  have results : ((chain.process records).run world).value.2 =
      ((runStages chain.watched.processors records).effect ⟨world, []⟩).1.2 :=
    (process_watched chain records ⟨world, []⟩).symm
  rw [calls, results]
  simp only [watched, watchFrom, shape]
  rw [runStages_effect, watched_process]
  let done := (Behaviour.process records first).run world
  let call : Call Place :=
    ⟨.processor 0, Behaviour.agentId first, .process records done.value.result⟩
  exact laterStages_calls 1 1 rest
    (firstEntries (Behaviour.agentId first) records done.value.result) ⟨done.world, [call]⟩

/-- Nothing but processors is called for a batch, and they are called to process records. -/
theorem process_calls_processors (chain : Chain α) (records : List Handle) (world : ω) :
    ∀ call ∈ callsOf (chain.watched.process records) world, ∃ position records reply,
      call.label = .processor position ∧ call.exchange = .process records reply := by
  cases shape : chain.processors with
  | nil => simp [(process_without_processors chain shape records world).1]
  | cons first rest =>
    obtain ⟨history, later, calls, course, _, _⟩ := process_course chain shape records world
    rw [calls]
    exact List.forall_mem_cons.mpr ⟨⟨0, records, _, rfl, rfl⟩, course_calls_processors course⟩

/-- Processing a batch calls the first processor once, with the whole batch, and then each processor
behind it once for every lineage that has not failed before it, with the records of the lineage; the
calls come stage by stage, and within a stage in the order of the lineages. If the first call fails
then no other is made. The outcome of a lineage is decided by the reply to its call alone, and a
failure is what the lineage ends with. No other call is made of any agent of the chain. -/
theorem process_dispatches (chain : Chain α) (records : List Handle) (world : ω) :
    let results := ((chain.process records).run world).value.2
    let calls := callsOf (chain.watched.process records) world
    match chain.processors with
    | [] => calls = [] ∧ results = records.map Entry.passThrough
    | first :: rest =>
      let reply := ((Behaviour.process records first).run world).value.result
      let entered := (firstEntries (Behaviour.agentId first) records reply).map Entry.outcome
      ∃ history later,
        calls = ⟨.processor 0, Behaviour.agentId first, .process records reply⟩ :: later ∧
        Course 1 (entered :: history) later ∧
        history.length = rest.length ∧
        (entered :: history).getLast? = some (results.map Entry.outcome) ∧
        (∀ fault, reply = .error fault → later = []) ∧
        ∀ outcomes ∈ entered :: history, ∀ (position : Nat) (error : ProcessingError),
          outcomes[position]? = some (Outcome.failed error) →
            (results.map Entry.outcome)[position]? = some (Outcome.failed error) := by
  cases shape : chain.processors with
  | nil => exact process_without_processors chain shape records world
  | cons first rest =>
    obtain ⟨history, later, calls, course, count, last⟩ :=
      process_course chain shape records world
    refine ⟨history, later, calls, course, count, last, fun fault refused => ?_,
      fun outcomes passed position error => course_keeps_failure course passed last⟩
    apply course_without_lineages course
    intro outcome member
    obtain ⟨entry, listed, rfl⟩ := List.mem_map.mp member
    exact firstEntries_failed _ records fault entry (refused ▸ listed)

end Chain

end Conveyor
