import Conveyor.Proofs.Dispatch
import Conveyor.Proofs.Matching
import Conveyor.Proofs.Metrics
import Conveyor.Proofs.Statelessness
import Conveyor.Stock.Agent

/-! What the log says about a batch that `process` is given. A chain warns once about the call of its first
processor, if that was torn down or its answers do not match the batch, and once about each call behind it
that was torn down, and in the end says what became of the batch. So the warnings can be read off the calls
that were made, whatever the processors do: a failure that is only reported in an answer is no reason for
one, and a lineage that has failed is worth no call and so no warning. -/
namespace Conveyor

variable {ω α β γ : Type}

/-- What is shown of an event: its level, its message and its named facts. -/
abbrev Line := LogLevel × String × List (String × Json)

/-- An event as it is shown. -/
def LogEvent.line (event : LogEvent) : Line := (event.level, event.message, event.facts)

/-- What there is to say about the reply of the first processor to its batch. -/
def batchLines (agentId : String) (records : List Handle) :
    Except (Fault AgentError) (List Entry) → List Line
  | .error fault =>
    [(.warn, "Stage failed for the whole batch", [("agent_id", .string agentId), ("stage", .int 0),
      ("error", .string fault.toAgentError.message)])]
  | .ok answers =>
    let unanswered := (List.range records.length).countP fun position =>
      (Reconciled.place? records answers position).isNone
    let stray := (List.range answers.length).countP (· ∉ Reconciled.taken records answers)
    if 0 < unanswered ∨ 0 < stray then
      [(.warn, "Stage results did not match its batch", [("agent_id", .string agentId),
        ("unanswered", .int unanswered), ("stray", .int stray)])]
    else []

/-- What there is to say about the call of a processor behind the first, if it was torn down. -/
def Call.line? (call : Call Place) : Option Line :=
  match call.label, call.exchange with
  | .processor stage, .process _ (.error fault) =>
    some (.warn, "Stage failed for lineage", [("agent_id", .string call.agentId), ("stage", .int stage),
      ("error", .string fault.toAgentError.message)])
  | _, _ => none

/-- What there is to say about a batch that was processed. -/
def summaryLine (recordsIn recordsOut failed : Nat) : Line :=
  (.debug, "Batch processed",
    [("records_in", .int recordsIn), ("records_out", .int recordsOut), ("failed", .int failed)])

namespace Activity

/-- An activity that logs nothing. -/
def Silent (activity : Activity ω β) : Prop := ∀ world, (activity.run world).log = []

theorem Silent.pure (value : β) : Silent (pure value : Activity ω β) := fun _ => rfl

theorem Silent.bind {first : Activity ω β} {next : β → Activity ω γ} (one : Silent first)
    (other : ∀ value, Silent (next value)) : Silent (first >>= next) := by
  intro world
  rw [run_bind, one world]
  exact other _ _

theorem Silent.mapM {act : β → Activity ω γ} (each : ∀ item, Silent (act item)) (items : List β) :
    Silent (items.mapM act) := by
  induction items with
  | nil => exact .pure []
  | cons item rest ih =>
    rw [List.mapM_cons]
    exact (each item).bind fun _ => ih.bind fun _ => .pure _

/-- An activity over watched agents logs what there is to say about its calls. -/
def Reports (activity : Activity (Watch Place ω) β) : Prop :=
  ∀ watch, ∃ calls, (activity.run watch).world.calls = watch.calls ++ calls ∧
    (activity.run watch).log.map LogEvent.line = calls.filterMap Call.line?

theorem Reports.pure (value : β) : Reports (pure value : Activity (Watch Place ω) β) :=
  fun _ => ⟨[], (List.append_nil _).symm, rfl⟩

theorem Reports.bind {first : Activity (Watch Place ω) β} {next : β → Activity (Watch Place ω) γ}
    (one : Reports first) (other : ∀ watch, Reports (next (first.effect watch).1)) :
    Reports (first >>= next) := by
  intro watch
  obtain ⟨calls, made, said⟩ := one watch
  obtain ⟨more, made', said'⟩ := other watch (first.run watch).world
  refine ⟨calls ++ more, ?_, ?_⟩
  · rw [run_bind, ← List.append_assoc, ← made]
    exact made'
  · rw [run_bind, List.map_append, List.filterMap_append, said]
    exact congrArg _ said'

end Activity

open Activity (Silent Reports)

/-- A processor that logs nothing itself, now or after any calls. -/
def Quiet [Behaviour ω α] : α → Prop :=
  Henceforth fun agent => ∀ records, Silent (Behaviour.process records agent : Activity ω _)

section Stock

open Testing

theorem Testing.Scripted.resolve_silent (pool batch : List Handle) (ref : RecordRef) :
    Silent (Scripted.resolve pool batch ref) := by
  cases ref with
  | batch position | pool position | fresh record => exact fun _ => rfl
  | derive position ending =>
    rw [Scripted.resolve]
    split <;> exact fun _ => rfl

theorem Testing.Scripted.answer_silent (pool batch : List Handle) (answer : ScriptedAnswer) :
    Silent (Scripted.answer pool batch answer) := by
  refine (resolve_silent pool batch answer.source).bind fun source? => ?_
  split
  · exact .pure _
  · split
    · exact .pure _
    · exact Silent.bind ((Silent.mapM (resolve_silent pool batch) _).bind fun _ => .pure _)
        fun _ => .pure _

theorem Testing.Scripted.process_silent (records : List Handle) (agent : Scripted) :
    Silent (Behaviour.process records agent) := by
  refine Silent.bind (fun _ => rfl) fun _ => ?_
  dsimp only
  unfold Scripted.act
  split
  · split
    · exact fun _ => rfl
    · exact (Silent.mapM (answer_silent _ _) _).bind fun _ _ => rfl
  · exact .pure _
  · exact .pure _

theorem Testing.Failing.process_silent (records : List Handle) (agent : Failing) :
    Silent (Behaviour.process records agent) := by
  change Silent (if Failing.failsCall { agent with calls := agent.calls + 1 } records then _ else _ :
    Activity Environment (Reply Failing (List Entry)))
  dsimp only
  split <;> exact fun _ => rfl

/-- No agent of this library logs anything when it processes records. -/
theorem StockAgent.quiet (agent : StockAgent) : Quiet agent := by
  intro agent _ records
  refine Silent.bind ?_ fun _ => .pure _
  cases agent with
  | setHeader agent =>
    have answers : ∀ record, Silent (agent.answer record) := fun _ _ => rfl
    exact Silent.bind (fun _ => rfl) fun _ => (Silent.mapM answers records).bind fun _ => .pure _
  | duplicate agent =>
    have answers : ∀ record, Silent (Duplicate.answer record) := fun _ _ => rfl
    exact Silent.bind (fun _ => rfl) fun _ => (Silent.mapM answers records).bind fun _ => .pure _
  | failing agent => exact agent.process_silent records
  | scripted agent => exact agent.process_silent records
  | _ => exact fun _ => rfl

end Stock

namespace Chain

variable [Behaviour ω α]

/-- After the log of its processor a later stage warns if the call was torn down. -/
theorem advance_log (stage : Nat) (processor : α) (records : List Handle) (world : ω) :
    let reply := (Behaviour.process records processor).run world
    ((advance stage processor (.records records)).run world).log =
      reply.log ++ match reply.value.result with
        | .ok _ => []
        | .error fault =>
          [.stageFailedForLineage (Behaviour.agentId processor) stage fault.toAgentError.message] := by
  intro reply
  simp only [advance, invoke, Activity.run_bind]
  cases reply.value.result <;> simp [reply, ProcessingError.ofAgent]

section Later

variable {stage : Nat} {processor : Watched Place α} (placed : processor.label = .processor stage)
  (quiet : Quiet (ω := ω) processor.agent)

include placed quiet

theorem advance_reports (outcome : Outcome) :
    Reports (advance stage processor outcome : Activity (Watch Place ω) _) := by
  cases outcome with
  | failed error => exact .pure _
  | records records =>
    intro watch
    let reply := (Behaviour.process records processor.agent).run watch.world
    have silent : reply.log = [] := quiet.now records watch.world
    have made : ((advance stage processor (.records records)).run watch).world.calls = watch.calls ++
        [⟨.processor stage, Behaviour.agentId processor.agent, .process records reply.value.result⟩] := by
      rw [← placed]
      exact congrArg (fun done => done.2.calls) (advance_effect stage processor records watch)
    refine ⟨_, made, ?_⟩
    rw [advance_log]
    change List.map _ (reply.log ++ _) = _
    rw [silent]
    change List.map _ (match reply.value.result with | .ok _ => [] | .error _ => _) = _
    cases reply.value.result <;> rfl

/-- A processor stays at its place and quiet when it is called. -/
theorem advance_keeps (outcome : Outcome) (watch : Watch Place ω) :
    ((advance stage processor outcome).effect watch).1.1.label = .processor stage ∧
      Quiet (ω := ω) ((advance stage processor outcome).effect watch).1.1.agent := by
  cases outcome with
  | failed error => exact ⟨placed, quiet⟩
  | records records =>
    rw [advance_effect, watched_process]
    exact ⟨placed, quiet.after records watch.world⟩

end Later

theorem laterStage_reports {stage : Nat} {processor : Watched Place α}
    (placed : processor.label = .processor stage) (quiet : Quiet (ω := ω) processor.agent)
    (entries : List Entry) :
    Reports (laterStage stage processor entries : Activity (Watch Place ω) _) := by
  induction entries generalizing processor with
  | nil => exact .pure _
  | cons entry rest ih =>
    refine (advance_reports placed quiet entry.outcome).bind fun watch => ?_
    obtain ⟨placed', quiet'⟩ := advance_keeps placed quiet entry.outcome watch
    exact (ih placed' quiet').bind fun _ => .pure _

theorem laterStages_reports (position : Nat) {processors : List α}
    (quiet : ∀ processor ∈ processors, Quiet (ω := ω) processor) (entries : List Entry) :
    Reports (laterStages position (watchFrom position processors) entries :
      Activity (Watch Place ω) _) := by
  induction processors generalizing position entries with
  | nil => exact .pure _
  | cons processor rest ih =>
    obtain ⟨first, others⟩ := List.forall_mem_cons.mp quiet
    refine (laterStage_reports rfl first entries).bind fun watch => ?_
    exact (ih (position + 1) others _).bind fun _ => .pure _

/-- A quiet first stage says what there is to say about the reply of its processor. -/
theorem firstStage_lines {processor : α} {records : List Handle} {world : ω}
    (silent : ((Behaviour.process records processor).run world).log = []) :
    ((firstStage processor records).run world).log.map LogEvent.line =
      batchLines (Behaviour.agentId processor) records
        ((Behaviour.process records processor).run world).value.result := by
  cases answered : ((Behaviour.process records processor).run world).value.result with
  | error fault =>
    simp [firstStage, invoke, answered, silent, batchLines, LogEvent.line, LogEvent.level,
      LogEvent.message, LogEvent.facts, ProcessingError.ofAgent]
  | ok answers =>
    rw [Reconciled.firstStage_log answered, silent, List.nil_append,
      Reconciled.ofAnswers_eq_search, Reconciled.search_unanswered, Reconciled.search_stray, batchLines]
    split <;> rfl

/-- The stages say what there is to say about the first call, and then about each that follows. -/
theorem watched_runStages_lines {first : α} {rest : List α} (here : Quiet (ω := ω) first)
    (others : ∀ processor ∈ rest, Quiet (ω := ω) processor) (records : List Handle) (world : ω) :
    let done := (runStages (watchFrom 0 (first :: rest)) records).run (⟨world, []⟩ : Watch Place ω)
    let reply := ((Behaviour.process records first).run world).value.result
    ∃ later, done.world.calls =
        ⟨.processor 0, Behaviour.agentId first, .process records reply⟩ :: later ∧
      done.log.map LogEvent.line =
        batchLines (Behaviour.agentId first) records reply ++ later.filterMap Call.line? := by
  intro done reply
  let watched : Watched Place α := ⟨.processor 0, first⟩
  let begun : Watch Place ω := ⟨world, []⟩
  have said : ((firstStage watched records).run begun).log.map LogEvent.line =
      batchLines (Behaviour.agentId first) records reply :=
    firstStage_lines (here.now records world)
  have made : ((firstStage watched records).run begun).world.calls =
      [⟨.processor 0, Behaviour.agentId first, .process records reply⟩] :=
    congrArg (fun done => done.2.calls) (firstStage_effect watched records begun)
  let entered := (firstStage watched records).run begun
  have rest_reports : Reports (if entered.value.2.2 then do
      let (others, entries) ← laterStages 1 (watchFrom 1 rest) entered.value.2.1
      pure (entered.value.1 :: others, entries)
    else pure (entered.value.1 :: watchFrom 1 rest, entered.value.2.1) :
      Activity (Watch Place ω) (List (Watched Place α) × List Entry)) := by
    split
    · exact (laterStages_reports 1 others _).bind fun _ => .pure _
    · exact .pure _
  obtain ⟨later, made', said'⟩ := rest_reports entered.world
  refine ⟨later, ?_, ?_⟩
  · rw [made] at made'
    exact made'
  · rw [← said, ← said', ← List.map_append]
    rfl

variable [Clock ω]

/-- In the end a chain says what became of the batch. -/
theorem process_log (chain : Chain α) (records : List Handle) (world : ω) :
    ((chain.process records).run world).log =
      ((runStages chain.processors records).run world).log ++ [.batchProcessed records.length
        (Entry.countRecords ((chain.process records).run world).value.2)
        (Entry.countFailed ((chain.process records).run world).value.2)] := by
  simp [process]

/-- The log of a batch can be read off the calls that are made for it. If nothing but the chain logs
anything, then first comes one warning if the call of the first processor was torn down, with its id and the
message, or if some records were not answered or some answers belong to none, with how many; then comes one
warning for each call behind it that was torn down, in the order of the calls, with the id of the processor,
its position in the chain and the message; and the last event tells the number of records given, of records
that the returned entries carry and of entries that failed, by which the counts of the chain have grown. There
is no other event: a failure that an answer reports is not warned about, and a lineage that has failed is
passed over, without a call. -/
theorem log_tells_the_calls (chain : Chain α)
    (quiet : ∀ processor ∈ chain.processors, Quiet (ω := ω) processor) (records : List Handle)
    (world : ω) :
    let done := (chain.process records).run world
    let results := done.value.2
    let produced := ((results.filterMap Entry.produced?).map List.length).sum
    let failed := results.countP (·.isFailed)
    let lines := done.log.map LogEvent.line
    let calls := callsOf (chain.watched.process records) world
    results.length = records.length ∧
    done.value.1.metrics.recordsIn = chain.metrics.recordsIn + records.length ∧
    done.value.1.metrics.recordsOut = chain.metrics.recordsOut + produced ∧
    done.value.1.metrics.failedLineages = chain.metrics.failedLineages + failed ∧
    match chain.processors with
    | [] => calls = [] ∧ lines = [summaryLine records.length produced failed]
    | first :: _ =>
      let reply := ((Behaviour.process records first).run world).value.result
      let entered := (firstEntries (Behaviour.agentId first) records reply).map Entry.outcome
      ∃ history later,
        calls = ⟨.processor 0, Behaviour.agentId first, .process records reply⟩ :: later ∧
        Course 1 (entered :: history) later ∧
        (entered :: history).getLast? = some (results.map Entry.outcome) ∧
        (∀ fault, reply = .error fault → later = []) ∧
        lines = batchLines (Behaviour.agentId first) records reply ++ later.filterMap Call.line? ++
          [summaryLine records.length produced failed] := by
  intro done results produced failed lines calls
  have kept : results.length = records.length := by
    rw [← List.length_map (f := Entry.source), (process_answers_every_record chain records world).1]
  have out : Entry.countRecords results = produced := (length_filterMap_produced? results).symm
  refine ⟨kept, rfl, congrArg _ out, rfl, ?_⟩
  have dispatched := process_dispatches chain records world
  have logged := congrArg (List.map LogEvent.line) (process_log chain records world)
  rw [List.map_append] at logged
  have summary : [LogEvent.batchProcessed records.length (Entry.countRecords results)
      (Entry.countFailed results)].map LogEvent.line = [summaryLine records.length produced failed] := by
    rw [out]
    rfl
  cases shape : chain.processors with
  | nil =>
    rw [shape] at dispatched logged
    refine ⟨dispatched.1, logged.trans ?_⟩
    exact summary
  | cons first rest =>
    rw [shape] at dispatched quiet
    obtain ⟨here, others⟩ := List.forall_mem_cons.mp quiet
    obtain ⟨history, later, made, course, -, last, alone, -⟩ := dispatched
    obtain ⟨later', made', said⟩ := watched_runStages_lines here others records world
    refine ⟨history, later, made, course, last, alone, ?_⟩
    -- The stages of the watched chain log the same and make the calls that were written down.
    have watched : chain.watched.processors = watchFrom 0 (first :: rest) := by rw [Chain.watched, shape]
    have noted : calls =
        ((runStages chain.watched.processors records).run (⟨world, []⟩ : Watch Place ω)).world.calls := rfl
    have alike := (runStages_alike Watched.imitates_agent chain.watched_related.processors records
      (rfl : (⟨world, []⟩ : Watch Place ω).world = world)).2.2
    rw [watched] at noted alike
    obtain rfl : later = later' := (List.cons.inj (made.symm.trans (noted.trans made'))).2
    rw [← alike, said] at logged
    exact logged.trans (congrArg _ summary)

end Chain

/-- A processor that answers for one record, in front of one that fails every call. -/
def halfAnswered : Chain StockAgent where
  processors := [.partialAnswer (.create "half" 1 none ⟨0, 0⟩),
    .failing (.create "check" .always "refused" ⟨0, 0⟩)]

/-- Of two records one is not answered and the other fails behind, and either is warned about once. -/
theorem halfAnswered_log :
    let world : Environment := { clock := ⟨0, 0⟩ }
    let one : Handle := ⟨0, .ofText "one"⟩
    let batch : List Handle := [one, ⟨1, .ofText "two"⟩]
    let lines := ((halfAnswered.process batch).run world).log.map LogEvent.line
    (∀ processor ∈ halfAnswered.processors, Quiet (ω := Environment) processor) ∧
      (∃ later : List (Call Place), lines = batchLines "half" batch (.ok [.passThrough one]) ++
        later.filterMap Call.line? ++ [summaryLine 2 0 2]) ∧
      lines.map (fun line => line.2.1) = ["Stage results did not match its batch",
        "Stage failed for lineage", "Batch processed"] := by
  intro world one batch lines
  have quiet : ∀ processor ∈ halfAnswered.processors, Quiet (ω := Environment) processor :=
    fun processor _ => processor.quiet
  obtain ⟨-, -, -, -, history, later, -, -, -, -, said⟩ :=
    halfAnswered.log_tells_the_calls quiet batch world
  exact ⟨quiet, ⟨later, said⟩, by decide +kernel⟩

end Conveyor
