import Conveyor.Chain.Cycle
import Mathlib.Data.List.Forall2

/-! Chains of agents that act alike act alike. Agents of one kind imitate agents of another when every
call of related agents in related worlds answers the same and leaves related agents in related worlds.
Nothing a chain does with its agents can tell the two kinds apart: batches get the same results, cycles
end the same way, the same events are logged. -/
namespace Conveyor

variable {ω ω' α α' β γ β' γ' : Type}

namespace Activity

/-- Activities that, begun in related worlds, end in related values and worlds and log the same. -/
def Alike (worlds : ω → ω' → Prop) (values : β → γ → Prop) (one : Activity ω β)
    (other : Activity ω' γ) : Prop :=
  ∀ ⦃world world'⦄, worlds world world' →
    values (one.run world).value (other.run world').value ∧
      worlds (one.run world).world (other.run world').world ∧
        (one.run world).log = (other.run world').log

variable {worlds : ω → ω' → Prop} {values : β → γ → Prop} {values' : β' → γ' → Prop}

theorem Alike.pure {value : β} {value' : γ} (related : values value value') :
    Alike worlds values (pure value) (pure value') := fun _ _ held => ⟨related, held, rfl⟩

theorem Alike.bind {one : Activity ω β} {other : Activity ω' γ} {next : β → Activity ω β'}
    {next' : γ → Activity ω' γ'} (first : Alike worlds values one other)
    (rest : ∀ value value', values value value' → Alike worlds values' (next value) (next' value')) :
    Alike worlds values' (one >>= next) (other >>= next') := by
  intro world world' held
  obtain ⟨related, between, logged⟩ := first held
  obtain ⟨final, after, more⟩ := rest _ _ related between
  exact ⟨final, after, by simp only [run_bind, logged, more]⟩

theorem Alike.log (event : LogEvent) : Alike worlds Eq (log event) (log event) :=
  fun _ _ held => ⟨rfl, held, rfl⟩

theorem Alike.look : Alike worlds worlds look look := fun _ _ held => ⟨held, held, rfl⟩

end Activity

open Activity (Alike)

/-- Related agents, or chains of them, beside the same result. -/
def Beside (agents : α → α' → Prop) (one : α × β) (other : α' × β) : Prop :=
  agents one.1 other.1 ∧ one.2 = other.2

/-- The same answer, from related agents. -/
def Reply.Alike (agents : α → α' → Prop) (one : Reply α β) (other : Reply α' β) : Prop :=
  agents one.agent other.agent ∧ one.result = other.result

/-- Related agents answer every call of a cycle alike. -/
structure Imitates [Behaviour ω α] [Behaviour ω' α'] (worlds : ω → ω' → Prop)
    (agents : α → α' → Prop) : Prop where
  agentId : ∀ {one other}, agents one other → Behaviour.agentId one = Behaviour.agentId other
  process : ∀ {one other} records, agents one other →
    Alike worlds (Reply.Alike agents) (Behaviour.process records one) (Behaviour.process records other)
  read : ∀ {one other}, agents one other →
    Alike worlds (Reply.Alike agents) (Behaviour.read one) (Behaviour.read other)
  commit : ∀ {one other} records, agents one other →
    Alike worlds (Reply.Alike agents) (Behaviour.commit records one) (Behaviour.commit records other)
  permanentFailure : ∀ {one other} record error, agents one other →
    Alike worlds (Reply.Alike agents) (Behaviour.permanentFailure record error one)
      (Behaviour.permanentFailure record error other)
  write : ∀ {one other} records, agents one other →
    Alike worlds (Reply.Alike agents) (Behaviour.write records one) (Behaviour.write records other)

namespace Chain

/-- Chains of the same shape and counts whose agents are related one by one. -/
structure Related (agents : α → α' → Prop) (one : Chain α) (other : Chain α') : Prop where
  source : Option.Rel agents one.source? other.source?
  processors : List.Forall₂ agents one.processors other.processors
  sink : Option.Rel agents one.sink? other.sink?
  metrics : one.metrics = other.metrics

variable {agents : α → α' → Prop}

private theorem related_ends {one? : Option α} {other? : Option α'}
    (related : Option.Rel agents one? other?) : one? = none ∧ other? = none ∨
      ∃ one other, one? = some one ∧ other? = some other ∧ agents one other := by
  cases related with
  | some ends => exact .inr ⟨_, _, rfl, rfl, ends⟩
  | none => exact .inl ⟨rfl, rfl⟩

theorem Related.withSource {one : Chain α} {other : Chain α'} (related : Related agents one other)
    {source : α} {source' : α'} (sources : agents source source') :
    Related agents { one with source? := some source } { other with source? := some source' } :=
  ⟨.some sources, related.processors, related.sink, related.metrics⟩

theorem Related.withSink {one : Chain α} {other : Chain α'} (related : Related agents one other)
    {sink : α} {sink' : α'} (sinks : agents sink sink') :
    Related agents { one with sink? := some sink } { other with sink? := some sink' } :=
  ⟨related.source, related.processors, .some sinks, related.metrics⟩

variable [Behaviour ω α] [Behaviour ω' α'] {worlds : ω → ω' → Prop}
  (imitates : Imitates worlds agents)

include imitates

theorem invoke_alike {one : α} {other : α'} (related : agents one other) (records : List Handle) :
    Alike worlds (Beside agents) (invoke one records) (invoke other records) := by
  unfold invoke
  rw [imitates.agentId related]
  refine (imitates.process records related).bind fun reply reply' ⟨after, same⟩ => ?_
  rw [same]
  cases reply'.result <;> exact Alike.pure ⟨after, rfl⟩

theorem firstStage_alike {one : α} {other : α'} (related : agents one other)
    (records : List Handle) :
    Alike worlds (Beside agents) (firstStage one records) (firstStage other records) := by
  unfold firstStage
  rw [imitates.agentId related]
  refine (invoke_alike imitates related records).bind ?_
  rintro ⟨processor, result⟩ ⟨processor', result'⟩ ⟨after, same⟩
  cases same
  cases result with
  | error error => exact (Alike.log _).bind fun _ _ _ => Alike.pure ⟨after, rfl⟩
  | ok answers =>
    dsimp only
    split
    · exact (Alike.log _).bind fun _ _ _ => Alike.pure ⟨after, rfl⟩
    · exact Alike.pure ⟨after, rfl⟩

theorem advance_alike {one : α} {other : α'} (related : agents one other) (stage : Nat)
    (outcome : Outcome) :
    Alike worlds (Beside agents) (advance stage one outcome) (advance stage other outcome) := by
  cases outcome with
  | failed error => exact Alike.pure ⟨related, rfl⟩
  | records records =>
    refine (invoke_alike imitates related records).bind ?_
    rintro ⟨processor, result⟩ ⟨processor', result'⟩ ⟨after, same⟩
    cases same
    cases result with
    | ok answers => exact Alike.pure ⟨after, rfl⟩
    | error error => exact (Alike.log _).bind fun _ _ _ => Alike.pure ⟨after, rfl⟩

theorem laterStage_alike {one : α} {other : α'} (related : agents one other) (stage : Nat)
    (entries : List Entry) :
    Alike worlds (Beside agents) (laterStage stage one entries) (laterStage stage other entries) := by
  induction entries generalizing one other with
  | nil => exact Alike.pure ⟨related, rfl⟩
  | cons entry rest ih =>
    refine (advance_alike imitates related stage entry.outcome).bind ?_
    rintro ⟨processor, outcome⟩ ⟨processor', outcome'⟩ ⟨between, same⟩
    cases same
    refine (ih between).bind ?_
    rintro ⟨processor, entries⟩ ⟨processor', entries'⟩ ⟨after, same⟩
    cases same
    exact Alike.pure ⟨after, rfl⟩

theorem laterStages_alike {ones : List α} {others : List α'} (related : List.Forall₂ agents ones others)
    (stage : Nat) (entries : List Entry) :
    Alike worlds (Beside (List.Forall₂ agents)) (laterStages stage ones entries)
      (laterStages stage others entries) := by
  induction related generalizing stage entries with
  | nil => exact Alike.pure ⟨.nil, rfl⟩
  | cons head _ ih =>
    refine (laterStage_alike imitates head stage entries).bind ?_
    rintro ⟨processor, between⟩ ⟨processor', between'⟩ ⟨first, same⟩
    cases same
    refine (ih (stage + 1) between).bind ?_
    rintro ⟨rest, entries⟩ ⟨rest', entries'⟩ ⟨later, same⟩
    cases same
    exact Alike.pure ⟨.cons first later, rfl⟩

theorem runStages_alike {ones : List α} {others : List α'} (related : List.Forall₂ agents ones others)
    (records : List Handle) :
    Alike worlds (Beside (List.Forall₂ agents)) (runStages ones records)
      (runStages others records) := by
  cases related with
  | nil => exact Alike.pure ⟨.nil, rfl⟩
  | cons head tail =>
    refine (firstStage_alike imitates head records).bind ?_
    rintro ⟨processor, entries, goesOn⟩ ⟨processor', entries', goesOn'⟩ ⟨first, same⟩
    cases same
    cases goesOn with
    | false => exact Alike.pure ⟨.cons first tail, rfl⟩
    | true =>
      refine (laterStages_alike imitates tail 1 entries).bind ?_
      rintro ⟨rest, results⟩ ⟨rest', results'⟩ ⟨later, same⟩
      cases same
      exact Alike.pure ⟨.cons first later, rfl⟩

theorem readSource_alike {one : Chain α} {other : Chain α'} (related : Related agents one other) :
    Alike worlds (Beside (Related agents)) one.readSource other.readSource := by
  unfold readSource
  obtain ⟨mine, yours⟩ | ⟨source, source', mine, yours, sources⟩ := related_ends related.source <;>
    rw [mine, yours]
  · exact Alike.pure ⟨related, rfl⟩
  · refine (imitates.read sources).bind fun reply reply' ⟨after, same⟩ => ?_
    rw [same, imitates.agentId sources]
    cases reply'.result <;> exact Alike.pure ⟨related.withSource after, rfl⟩

theorem writeSink_alike {one : Chain α} {other : Chain α'} (related : Related agents one other)
    (records : List Handle) :
    Alike worlds (Beside (Related agents)) (one.writeSink records) (other.writeSink records) := by
  unfold writeSink
  obtain ⟨mine, yours⟩ | ⟨sink, sink', mine, yours, sinks⟩ := related_ends related.sink <;>
    rw [mine, yours]
  · exact Alike.pure ⟨related, rfl⟩
  · refine (imitates.write records sinks).bind fun reply reply' ⟨after, same⟩ => ?_
    rw [same, imitates.agentId sinks]
    cases reply'.result <;> exact Alike.pure ⟨related.withSink after, rfl⟩

theorem writeCompleted_alike {one : Chain α} {other : Chain α'} (related : Related agents one other)
    (records : List Handle) :
    Alike worlds (Beside (Related agents)) (one.writeCompleted records)
      (other.writeCompleted records) := by
  unfold writeCompleted
  split
  · exact Alike.pure ⟨related, rfl⟩
  · exact writeSink_alike imitates related records

theorem reportFailures_alike {one : α} {other : α'} (related : agents one other)
    (failed : List (Handle × ProcessingError)) :
    Alike worlds (Beside agents) (reportFailures one failed) (reportFailures other failed) := by
  induction failed generalizing one other with
  | nil => exact Alike.pure ⟨related, rfl⟩
  | cons failure rest ih =>
    refine (imitates.permanentFailure _ _ related).bind fun reply reply' ⟨after, same⟩ => ?_
    rw [same]
    cases reply'.result with
    | ok => exact ih after
    | error fault => exact Alike.pure ⟨after, rfl⟩

theorem settle_alike {one : Chain α} {other : Chain α'} (related : Related agents one other)
    (batch : List Handle) (failed : List (Handle × ProcessingError)) :
    Alike worlds (Beside (Related agents)) (one.settle batch failed) (other.settle batch failed) := by
  unfold settle
  obtain ⟨mine, yours⟩ | ⟨source, source', mine, yours, sources⟩ := related_ends related.source <;>
    rw [mine, yours]
  · exact Alike.pure ⟨related, rfl⟩
  · dsimp only
    rw [imitates.agentId sources]
    refine (reportFailures_alike imitates sources failed).bind ?_
    rintro ⟨source, fault?⟩ ⟨source', fault'?⟩ ⟨reported, same⟩
    cases same
    cases fault? with
    | some fault => exact Alike.pure ⟨related.withSource reported, rfl⟩
    | none =>
      refine (imitates.commit batch reported).bind fun reply reply' ⟨after, same⟩ => ?_
      rw [same]
      cases reply'.result <;> exact Alike.pure ⟨related.withSource after, rfl⟩

section Timed

variable [Clock ω] [Clock ω']
  (clocks : ∀ {world world'}, worlds world world' → Clock.now world = Clock.now world')

include clocks

theorem process_alike {one : Chain α} {other : Chain α'} (related : Related agents one other)
    (records : List Handle) :
    Alike worlds (Beside (Related agents)) (one.process records) (other.process records) := by
  unfold process
  refine (runStages_alike imitates related.processors records).bind ?_
  rintro ⟨processors, results⟩ ⟨processors', results'⟩ ⟨after, same⟩
  cases same
  refine Alike.look.bind fun world world' held => ?_
  refine (Alike.log _).bind fun _ _ _ => Alike.pure ⟨⟨related.source, after, related.sink, ?_⟩, rfl⟩
  simp only [related.metrics, clocks held]

theorem finishCycle_alike {one : Chain α} {other : Chain α'} (related : Related agents one other)
    (batch : List Handle) :
    Alike worlds (Beside (Related agents)) (one.finishCycle batch) (other.finishCycle batch) := by
  unfold finishCycle
  refine (process_alike imitates clocks related batch).bind ?_
  rintro ⟨chain, results⟩ ⟨chain', results'⟩ ⟨processed, same⟩
  cases same
  refine (writeCompleted_alike imitates processed _).bind ?_
  rintro ⟨chain, written⟩ ⟨chain', written'⟩ ⟨after, same⟩
  cases same
  cases written with
  | error error => exact Alike.pure ⟨after, rfl⟩
  | ok =>
    refine (settle_alike imitates after batch _).bind ?_
    rintro ⟨chain, settled⟩ ⟨chain', settled'⟩ ⟨after, same⟩
    cases same
    cases settled with
    | error error => exact Alike.pure ⟨after, rfl⟩
    | ok => exact (Alike.log _).bind fun _ _ _ => Alike.pure ⟨after, rfl⟩

/-- A cycle cannot tell agents from others that act alike. -/
theorem runOnce_alike {one : Chain α} {other : Chain α'} (related : Related agents one other) :
    Alike worlds (Beside (Related agents)) one.runOnce other.runOnce := by
  unfold runOnce
  have missing : one.sink?.isNone = other.sink?.isNone := by
    obtain ⟨mine, yours⟩ | ⟨sink, sink', mine, yours, _⟩ := related_ends related.sink <;>
      simp [mine, yours]
  rw [missing]
  split
  · exact Alike.pure ⟨related, rfl⟩
  · refine (readSource_alike imitates related).bind ?_
    rintro ⟨chain, result⟩ ⟨chain', result'⟩ ⟨after, same⟩
    cases same
    match result with
    | .error error => exact Alike.pure ⟨after, rfl⟩
    | .ok [] => exact Alike.pure ⟨after, rfl⟩
    | .ok (record :: rest) => exact finishCycle_alike imitates clocks after (record :: rest)

end Timed

end Chain

end Conveyor
