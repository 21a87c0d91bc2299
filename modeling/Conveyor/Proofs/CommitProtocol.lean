import Conveyor.Proofs.Dispatch
import Conveyor.Proofs.Lineages

/-! What a cycle (`run_once`) calls at the ends of its chain, and when it commits. After a batch was
processed the cycle owes some calls to the ends: the write of the records, if there are any, a report for
every failed lineage, and the commit. It makes them in this order and stops at the first that fails, and
this is how the cycle ends. So a batch is committed at most once, only after everything else succeeded, and
a cycle succeeds just when the commit does. -/
namespace Conveyor

variable {ω α : Type}

/-- Whether a call asks for records to be committed. -/
def Exchange.isCommit : Exchange → Bool
  | .commit .. => true
  | _ => false

/-- A call that a cycle owes to an end of its chain, and the id that its failure is put down to. -/
structure Duty where
  place : Place
  agentId : String
  exchange : Except (Fault AgentError) Unit → Exchange

/-- How a call ends that fails: with the id of the agent, and the kind and the message of its failure. -/
def failureOf (agentId : String) (fault : Fault AgentError) : FlowError :=
  .processing ⟨agentId, fault.toAgentError.kind, fault.toAgentError.message⟩

/-- The calls that discharge duties in order, one each up to the first that fails, and how that ends. -/
inductive Discharged : List Duty → List (Call Place) → Except FlowError Unit → Prop where
  | done : Discharged [] [] (.ok ())
  /-- What is owed after a call that fails is not called any more. -/
  | stopped (duty : Duty) (left : List Duty) (agentId : String) (fault : Fault AgentError) :
      Discharged (duty :: left) [⟨duty.place, agentId, duty.exchange (.error fault)⟩]
        (.error (failureOf duty.agentId fault))
  | next (duty : Duty) (agentId : String) (rest : Discharged duties calls result) :
      Discharged (duty :: duties) (⟨duty.place, agentId, duty.exchange (.ok ())⟩ :: calls) result

namespace Discharged

variable {front back duties : List Duty} {calls more : List (Call Place)}
  {result : Except FlowError Unit}

/-- One duty is discharged by one call, and its reply is how that ends. -/
theorem single (duty : Duty) (agentId : String) (reply : Except (Fault AgentError) Unit) :
    Discharged [duty] [⟨duty.place, agentId, duty.exchange reply⟩]
      (reply.mapError (failureOf duty.agentId)) := by
  cases reply with
  | error fault => exact .stopped duty [] agentId fault
  | ok => exact .next duty agentId .done

theorem then_more (first : Discharged front calls (.ok ())) (rest : Discharged back more result) :
    Discharged (front ++ back) (calls ++ more) result := by
  generalize ended : (.ok () : Except FlowError Unit) = outcome at first
  induction first with
  | done => exact rest
  | stopped => cases ended
  | next duty agentId _ ih => exact .next duty agentId (ih ended)

theorem stopped_before {error : FlowError} (first : Discharged front calls (.error error))
    (back : List Duty) : Discharged (front ++ back) calls (.error error) := by
  generalize ended : (.error error : Except FlowError Unit) = outcome at first ⊢
  induction first with
  | done => cases ended
  | stopped duty left agentId fault => exact .stopped duty (left ++ back) agentId fault
  | next duty agentId _ ih => exact .next duty agentId (ih ended)

/-- Every call discharges one of the duties. -/
theorem calls_owed (discharged : Discharged duties calls result) :
    ∀ call ∈ calls, ∃ duty ∈ duties, ∃ reply,
      call.label = duty.place ∧ call.exchange = duty.exchange reply := by
  induction discharged with
  | done => simp
  | stopped duty left agentId fault =>
    intro call member
    cases List.mem_singleton.mp member
    exact ⟨duty, List.mem_cons_self, .error fault, rfl, rfl⟩
  | next duty agentId _ ih =>
    refine List.forall_mem_cons.mpr ⟨⟨duty, List.mem_cons_self, .ok (), rfl, rfl⟩, ?_⟩
    intro call member
    obtain ⟨other, owed, facts⟩ := ih call member
    exact ⟨other, List.mem_cons_of_mem duty owed, facts⟩

/-- The last duty is called only after all others were discharged, and then it decides the end. -/
theorem last_duty {last : Duty} (discharged : Discharged (duties ++ [last]) calls result) :
    (∃ error, result = .error error ∧ Discharged duties calls result) ∨
      ∃ before agentId reply, Discharged duties before (.ok ()) ∧
        calls = before ++ [⟨last.place, agentId, last.exchange reply⟩] ∧
        result = reply.mapError (failureOf last.agentId) := by
  generalize whole : duties ++ [last] = all at discharged
  -- The duty at the head is the last one just when no others are left.
  induction discharged generalizing duties with
  | done => simp at whole
  | stopped duty left agentId fault =>
    cases duties with
    | nil =>
      cases whole
      exact .inr ⟨[], agentId, .error fault, .done, rfl, rfl⟩
    | cons first rest =>
      obtain ⟨rfl, rfl⟩ := List.cons_eq_cons.mp whole
      exact .inl ⟨_, rfl, .stopped first rest agentId fault⟩
  | next duty agentId later ih =>
    cases duties with
    | nil =>
      cases whole
      cases later
      exact .inr ⟨[], agentId, .ok (), .done, rfl, rfl⟩
    | cons first rest =>
      obtain ⟨rfl, same⟩ := List.cons_eq_cons.mp whole
      obtain ⟨error, ended, stopped⟩ | ⟨before, lastId, reply, succeeded, split, ended⟩ := ih same
      · exact .inl ⟨error, ended, .next first agentId stopped⟩
      · refine .inr ⟨_, lastId, reply, .next first agentId succeeded, ?_, ended⟩
        rw [split, List.cons_append]

end Discharged

namespace Chain

/-- The reports of failed lineages that are owed to the source. -/
def reports (sourceId : String) (failed : List (Handle × ProcessingError)) : List Duty :=
  failed.map fun (record, error) =>
    ⟨.source, sourceId, .permanentFailure record ⟨error.kind, error.display⟩⟩

/-- The write that is owed to the sink; there is none without records. -/
def writes (sinkId : String) (records : List Handle) : List Duty :=
  if records.isEmpty then [] else [⟨.sink, sinkId, .write records⟩]

/-- What a cycle owes to the ends of its chain for the results of a batch before it may commit. -/
def deliveries (sinkId sourceId : String) (results : List Entry) : List Duty :=
  writes sinkId (Entry.outputs results) ++ reports sourceId (Entry.failures results)

/-- The commit of a batch that is owed to the source. -/
def commitment (sourceId : String) (batch : List Handle) : Duty :=
  ⟨.source, sourceId, .commit batch⟩

/-- Nothing that is owed before the commit is a commit. -/
theorem deliveries_not_commit (sinkId sourceId : String) (results : List Entry) :
    ∀ duty ∈ deliveries sinkId sourceId results, ∀ reply, ¬(duty.exchange reply).isCommit := by
  intro duty owed reply
  rcases List.mem_append.mp owed with written | reported
  · unfold writes at written
    split at written
    · cases written
    · cases List.mem_singleton.mp written
      exact Bool.false_ne_true
  · obtain ⟨failure, _, rfl⟩ := List.mem_map.mp reported
    exact Bool.false_ne_true

/-- After calls that do not commit, the commit is the last call if it is made at all; that is only when
everything owed before it succeeded, and it decides how the duties end. -/
theorem discharged_commits {early calls : List (Call Place)} {owed : List Duty}
    (quiet : ∀ call ∈ early, ¬call.exchange.isCommit)
    (others : ∀ duty ∈ owed, ∀ reply, ¬(duty.exchange reply).isCommit) {sourceId : String}
    {batch : List Handle} {settled : Except FlowError Unit}
    (discharged : Discharged (owed ++ [commitment sourceId batch]) calls settled) :
    (early ++ calls).countP (·.exchange.isCommit) ≤ 1 ∧
      (∀ call ∈ early ++ calls, call.exchange.isCommit →
        ∃ delivered, calls = delivered ++ [call] ∧ Discharged owed delivered (.ok ())) ∧
      (settled = .ok () ↔ ∃ call ∈ early ++ calls, call.exchange = .commit batch (.ok ())) := by
  have silent : ∀ {part : List (Call Place)} {result}, Discharged owed part result →
      ∀ call ∈ early ++ part, ¬call.exchange.isCommit := by
    intro part result owes
    refine List.forall_mem_append.mpr ⟨quiet, fun call member => ?_⟩
    obtain ⟨duty, listed, reply, _, exchange⟩ := owes.calls_owed call member
    rw [exchange]
    exact others duty listed reply
  have asks : ∀ {call : Call Place}, call.exchange = .commit batch (.ok ()) →
      call.exchange.isCommit := by
    intro call same
    rw [same]
    rfl
  obtain ⟨error, rfl, stopped⟩ | ⟨before, agentId, reply, succeeded, rfl, rfl⟩ :=
    discharged.last_duty
  · have none := silent stopped
    refine ⟨?_, fun call member commits => absurd commits (none call member), nofun, ?_⟩
    · rw [List.countP_eq_zero.mpr none]
      exact Nat.zero_le 1
    · rintro ⟨call, member, same⟩
      exact absurd (asks same) (none call member)
  · have none := silent succeeded
    rw [← List.append_assoc]
    refine ⟨?_, fun call member commits => ?_, fun ended => ?_, ?_⟩
    · rw [List.countP_append, List.countP_eq_zero.mpr none, Nat.zero_add]
      exact List.countP_le_length
    · rcases List.mem_append.mp member with earlier | last
      · exact absurd commits (none call earlier)
      · cases List.mem_singleton.mp last
        exact ⟨_, rfl, succeeded⟩
    · refine ⟨_, List.mem_append_right _ (List.mem_singleton_self _), ?_⟩
      cases reply with
      | error fault => cases ended
      | ok => rfl
    · rintro ⟨call, member, same⟩
      rcases List.mem_append.mp member with earlier | last
      · exact absurd (asks same) (none call earlier)
      · cases List.mem_singleton.mp last
        cases same
        rfl

variable [Behaviour ω α]

/-- Reporting failures discharges the reports that are owed. -/
theorem reportFailures_calls (agentId : String) (source : α)
    (failed : List (Handle × ProcessingError)) (watch : Watch Place ω) :
    let done := (reportFailures (⟨.source, source⟩ : Watched Place α) failed).effect watch
    ∃ calls, done.2.calls = watch.calls ++ calls ∧ done.1.1.label = .source ∧
      Discharged (reports agentId failed) calls
        (match done.1.2 with
          | none => .ok ()
          | some fault => .error (failureOf agentId fault)) := by
  induction failed generalizing source watch with
  | nil => exact ⟨[], (List.append_nil _).symm, rfl, .done⟩
  | cons failure rest ih =>
    obtain ⟨record, error⟩ := failure
    have reported : (Behaviour.permanentFailure record ⟨error.kind, error.display⟩
        (⟨.source, source⟩ : Watched Place α)).effect watch = _ := Watched.call_effect _ _ _ _
    simp only [reportFailures, Activity.effect_bind, reported]
    generalize (Behaviour.permanentFailure record _ source).effect watch.world = done
    obtain ⟨⟨agent, result⟩, after⟩ := done
    cases result with
    | error fault => exact ⟨_, rfl, rfl, .stopped _ _ _ fault⟩
    | ok =>
      obtain ⟨calls, noted, label, discharged⟩ := ih agent ⟨after, _⟩
      exact ⟨_, noted.trans (List.append_assoc _ [_] _), label, .next _ _ discharged⟩

/-- Settling a batch discharges the reports and then the commit. -/
theorem settle_calls (chain : Chain (Watched Place α)) {source : α}
    (present : chain.source? = some ⟨.source, source⟩) (batch : List Handle)
    (failed : List (Handle × ProcessingError)) (watch : Watch Place ω) :
    let done := (chain.settle batch failed).effect watch
    ∃ calls, done.2.calls = watch.calls ++ calls ∧
      Discharged (reports (Behaviour.agentId source) failed ++
        [commitment (Behaviour.agentId source) batch]) calls done.1.2 := by
  obtain ⟨calls, noted, label, discharged⟩ :=
    reportFailures_calls (Behaviour.agentId source) source failed watch
  have id : Behaviour.agentId (⟨.source, source⟩ : Watched Place α) = Behaviour.agentId source := rfl
  simp only [settle, present, Activity.effect_bind, id]
  generalize (reportFailures (⟨.source, source⟩ : Watched Place α) failed).effect watch = done at *
  obtain ⟨⟨⟨place, reported⟩, fault?⟩, after⟩ := done
  cases fault? with
  | some fault => exact ⟨calls, noted, discharged.stopped_before _⟩
  | none =>
    have committed : (Behaviour.commit batch (⟨place, reported⟩ : Watched Place α)).effect after =
      _ := Watched.call_effect _ _ _ _
    simp only [Activity.effect_bind, committed]
    cases label
    generalize (Behaviour.commit batch reported).effect after.world = done
    obtain ⟨⟨agent, result⟩, final⟩ := done
    have last := Discharged.single (commitment (Behaviour.agentId source) batch)
      (Behaviour.agentId reported) result
    refine ⟨calls ++ [⟨.source, Behaviour.agentId reported, .commit batch result⟩], ?_, ?_⟩
    · rw [← List.append_assoc, ← noted]
      cases result <;> rfl
    · have whole := discharged.then_more last
      cases result <;> exact whole

/-- Writing completed records discharges the write that is owed, and the source is not touched. -/
theorem writeCompleted_calls (chain : Chain (Watched Place α)) {sink : α}
    (present : chain.sink? = some ⟨.sink, sink⟩) (records : List Handle) (watch : Watch Place ω) :
    let done := (chain.writeCompleted records).effect watch
    ∃ calls, done.2.calls = watch.calls ++ calls ∧ done.1.1.source? = chain.source? ∧
      Discharged (writes (Behaviour.agentId sink) records) calls done.1.2 := by
  unfold writeCompleted writes
  split
  · exact ⟨[], (List.append_nil _).symm, rfl, .done⟩
  · have written : (Behaviour.write records (⟨.sink, sink⟩ : Watched Place α)).effect watch = _ :=
      Watched.call_effect _ _ _ _
    simp only [writeSink, present, Activity.effect_bind, written]
    generalize (Behaviour.write records sink).effect watch.world = done
    obtain ⟨⟨agent, result⟩, after⟩ := done
    have whole := Discharged.single ⟨.sink, Behaviour.agentId sink, .write records⟩
      (Behaviour.agentId sink) result
    cases result <;> exact ⟨_, rfl, rfl, whole⟩

variable [Clock ω]

/-- A cycle brings a batch to its end by discharging what it owes to the ends, the commit last. -/
theorem finishCycle_calls (chain : Chain (Watched Place α)) {source sink : α}
    (hasSource : chain.source? = some ⟨.source, source⟩) (hasSink : chain.sink? = some ⟨.sink, sink⟩)
    (batch : List Handle) (watch : Watch Place ω) :
    let results := ((chain.process batch).effect watch).1.2
    let done := (chain.finishCycle batch).effect watch
    ∃ ended settled, done.2.calls = ((chain.process batch).effect watch).2.calls ++ ended ∧
      Discharged (deliveries (Behaviour.agentId sink) (Behaviour.agentId source) results ++
        [commitment (Behaviour.agentId source) batch]) ended settled ∧
      done.1.2 = settled.map fun _ =>
        ⟨batch.length, (Entry.outputs results).length, (Entry.failures results).length⟩ := by
  have sourceKept : ((chain.process batch).effect watch).1.1.source? = chain.source? := rfl
  have sinkKept : ((chain.process batch).effect watch).1.1.sink? = chain.sink? := rfl
  simp only [finishCycle, completedRecords_eq, failedSources_eq, Activity.effect_bind]
  generalize (chain.process batch).effect watch = processed at *
  obtain ⟨⟨chain', results⟩, middle⟩ := processed
  obtain ⟨calls, noted, sourceStays, delivered⟩ :=
    writeCompleted_calls chain' (sinkKept.trans hasSink) (Entry.outputs results) middle
  dsimp only
  generalize (chain'.writeCompleted (Entry.outputs results)).effect middle = written at *
  obtain ⟨⟨chain'', written⟩, after⟩ := written
  cases written with
  | error error =>
    refine ⟨calls, .error error, noted, ?_, rfl⟩
    rw [deliveries, List.append_assoc]
    exact delivered.stopped_before _
  | ok =>
    obtain ⟨more, notedLater, settled⟩ := settle_calls chain''
      (sourceStays.trans (sourceKept.trans hasSource)) batch (Entry.failures results) after
    simp only [Activity.effect_bind]
    generalize (chain''.settle batch (Entry.failures results)).effect after = finished at *
    obtain ⟨⟨chain, result⟩, final⟩ := finished
    refine ⟨calls ++ more, result, ?_, ?_, ?_⟩
    · rw [← List.append_assoc, ← noted, ← notedLater]
      cases result <;> rfl
    · rw [deliveries, List.append_assoc]
      exact delivered.then_more settled
    · cases result <;> rfl

/-- When calls that do not commit were made before, a cycle that brings a batch to its end commits only
by its last call, after everything else that it owed succeeded, and ends as that call does. -/
theorem finishCycle_commits_last (chain : Chain α) {source sink : α}
    (hasSource : chain.source? = some source) (hasSink : chain.sink? = some sink)
    (batch : List Handle) (watch : Watch Place ω)
    (quiet : ∀ call ∈ watch.calls, ¬call.exchange.isCommit) :
    let sourceId := Behaviour.agentId source
    let results := ((chain.process batch).run watch.world).value.2
    let owed := deliveries (Behaviour.agentId sink) sourceId results
    let done := (chain.watched.finishCycle batch).effect watch
    ∃ ended settled,
      done.2.calls = watch.calls ++ callsOf (chain.watched.process batch) watch.world ++ ended ∧
      Discharged (owed ++ [commitment sourceId batch]) ended settled ∧
      done.1.2 = settled.map (fun _ =>
        ⟨batch.length, (Entry.outputs results).length, (Entry.failures results).length⟩) ∧
      done.2.calls.countP (·.exchange.isCommit) ≤ 1 ∧
      (∀ call ∈ done.2.calls, call.exchange.isCommit → ∃ delivered,
        ended = delivered ++ [call] ∧ Discharged owed delivered (.ok ())) ∧
      ((∃ summary, done.1.2 = .ok summary) ↔
        ∃ call ∈ done.2.calls, call.exchange = .commit batch (.ok ())) := by
  have isSource : chain.watched.source? = some ⟨.source, source⟩ := by
    rw [watched, hasSource]
    rfl
  have isSink : chain.watched.sink? = some ⟨.sink, sink⟩ := by
    rw [watched, hasSink]
    rfl
  have results : ((chain.watched.process batch).effect watch).1.2 =
      ((chain.process batch).run watch.world).value.2 := process_watched chain batch watch
  have before : ((chain.watched.process batch).effect watch).2.calls =
      watch.calls ++ callsOf (chain.watched.process batch) watch.world :=
    process_calls_later chain.watched batch watch
  have still : ∀ call ∈ watch.calls ++ callsOf (chain.watched.process batch) watch.world,
      ¬call.exchange.isCommit := by
    refine List.forall_mem_append.mpr ⟨quiet, fun call member => ?_⟩
    obtain ⟨_, _, _, _, exchange⟩ := process_calls_processors chain batch watch.world call member
    rw [exchange]
    exact Bool.false_ne_true
  obtain ⟨ended, settled, noted, discharged, finished⟩ :=
    finishCycle_calls chain.watched isSource isSink batch watch
  rw [results] at discharged finished
  rw [before] at noted
  obtain ⟨once, last, succeeds⟩ :=
    discharged_commits still (deliveries_not_commit _ _ _) discharged
  dsimp only
  rw [noted, finished]
  refine ⟨ended, settled, rfl, discharged, rfl, once, last, Iff.trans ?_ succeeds⟩
  cases settled <;> simp [Except.map]

/-- A cycle with both ends reads once, and goes on only if that gives it records. -/
theorem runOnce_effect (chain : Chain α) {source sink : α} (hasSource : chain.source? = some source)
    (hasSink : chain.sink? = some sink) (world : ω) :
    chain.watched.runOnce.effect ⟨world, []⟩ =
      let read := (Behaviour.read source).run world
      let opened := { chain with source? := some read.value.agent }
      let watch : Watch Place ω :=
        ⟨read.world, [⟨.source, Behaviour.agentId source, .read read.value.result⟩]⟩
      match read.value.result with
      | .error fault =>
        ((opened.watched, .error (failureOf (Behaviour.agentId source) fault)), watch)
      | .ok [] => ((opened.watched, .ok {}), watch)
      | .ok batch => (opened.watched.finishCycle batch).effect watch := by
  have called : (Behaviour.read (⟨.source, source⟩ : Watched Place α)).effect ⟨world, []⟩ =
      let read := (Behaviour.read source).run world
      (⟨⟨.source, read.value.agent⟩, read.value.result⟩,
        ⟨read.world, [⟨.source, Behaviour.agentId source, .read read.value.result⟩]⟩) := rfl
  simp only [runOnce, readSource, watched, hasSource, hasSink, Option.map_some, Option.isNone_some,
    Bool.false_eq_true, if_false, Activity.effect_bind, called]
  generalize (Behaviour.read source).run world = read
  obtain ⟨⟨agent, result⟩, after, log⟩ := read
  rcases result with fault | _ | ⟨record, rest⟩ <;> rfl

/-- A cycle reads a batch, processes it, writes the records of the completed lineages, reports every
failed lineage to the source, and commits just the batch that it read, and nothing else. It stops at the
first of these calls that fails, and ends in that failure. So it commits at most once, only after the
write and all reports have succeeded, and it succeeds with a batch exactly when the commit does. A chain
that lacks an end calls no agent. -/
theorem runOnce_commits_last (chain : Chain α) (world : ω) :
    let result := (chain.runOnce.run world).value.2
    let calls := callsOf chain.watched.runOnce world
    match chain.sink?, chain.source? with
    | none, _ => calls = [] ∧ result = .error (.configuration { message := "chain has no sink" })
    | some _, none =>
      calls = [] ∧ result = .error (.configuration { message := "chain has no source" })
    | some sink, some source =>
      let read := (Behaviour.read source).run world
      let readCall : Call Place := ⟨.source, Behaviour.agentId source, .read read.value.result⟩
      match read.value.result with
      | .error fault =>
        calls = [readCall] ∧ result = .error (failureOf (Behaviour.agentId source) fault)
      | .ok [] => calls = [readCall] ∧ result = .ok {}
      | .ok batch =>
        let opened := { chain with source? := some read.value.agent }
        let sourceId := Behaviour.agentId read.value.agent
        let results := ((opened.process batch).run read.world).value.2
        let owed := deliveries (Behaviour.agentId sink) sourceId results
        ∃ ended settled,
          calls = readCall :: callsOf (opened.watched.process batch) read.world ++ ended ∧
          Discharged (owed ++ [commitment sourceId batch]) ended settled ∧
          result = settled.map (fun _ =>
            ⟨batch.length, (Entry.outputs results).length, (Entry.failures results).length⟩) ∧
          calls.countP (·.exchange.isCommit) ≤ 1 ∧
          (∀ call ∈ calls, call.exchange.isCommit → ∃ delivered,
            ended = delivered ++ [call] ∧ Discharged owed delivered (.ok ())) ∧
          ((∃ summary, result = .ok summary) ↔
            ∃ call ∈ calls, call.exchange = .commit batch (.ok ())) := by
  have result : (chain.runOnce.run world).value.2 =
      (chain.watched.runOnce.effect ⟨world, []⟩).1.2 := (runOnce_watched chain ⟨world, []⟩).symm
  have calls : callsOf chain.watched.runOnce world =
      (chain.watched.runOnce.effect ⟨world, []⟩).2.calls := rfl
  rw [result, calls]
  cases hasSink : chain.sink? with
  | none => simp [runOnce, watched, hasSink, missingEnd]
  | some sink =>
    cases hasSource : chain.source? with
    | none => simp [runOnce, readSource, watched, hasSink, hasSource, missingEnd]
    | some source =>
      rw [runOnce_effect chain hasSource hasSink]
      dsimp only
      generalize (Behaviour.read source).run world = read
      obtain ⟨⟨agent, result⟩, after, log⟩ := read
      rcases result with fault | _ | ⟨record, rest⟩
      · exact ⟨rfl, rfl⟩
      · exact ⟨rfl, rfl⟩
      · have quiet : ∀ call ∈ [(⟨.source, Behaviour.agentId source, .read (.ok (record :: rest))⟩ :
            Call Place)], ¬call.exchange.isCommit := by simp [Exchange.isCommit]
        exact finishCycle_commits_last { chain with source? := some agent } rfl hasSink
          (record :: rest) ⟨after, _⟩ quiet

end Chain

end Conveyor
