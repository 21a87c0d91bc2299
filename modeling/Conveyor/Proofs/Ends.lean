import Conveyor.Proofs.Lineages
import Conveyor.Proofs.Stages
import Conveyor.Stock.Agent
import Mathlib.Algebra.GroupWithZero.Nat
import Mathlib.Data.List.Basic

/-! The ends of chains under test, by what their calls do. A static source (`StaticSource`) always emits its
next batch and commits what it is told to commit; a failed lineage it accepts only as a dead letter. A
recording sink (`RecordingSink`) that does not fail keeps whatever it is given, and a log sink
(`LogEventSink`) counts it. Agents that only pass the calls on to such an end may stand in its place. -/
namespace Conveyor

open Testing

variable {ω α β γ : Type}

/-- Agents of one type stand for agents of another at the ends of a chain: they go by the same id, and
their calls are passed on. -/
structure PassesOn [Behaviour ω β] [Behaviour ω α] (wrap : β → α) : Prop where
  agentId : ∀ agent, Behaviour.agentId (wrap agent) = Behaviour.agentId agent
  read : ∀ agent world, (Behaviour.read (wrap agent)).effect world =
    let (reply, after) := (Behaviour.read agent).effect world
    (reply.mapAgent wrap, after)
  commit : ∀ records agent world, (Behaviour.commit records (wrap agent)).effect world =
    let (reply, after) := (Behaviour.commit records agent).effect world
    (reply.mapAgent wrap, after)
  permanentFailure : ∀ record error agent world,
    (Behaviour.permanentFailure record error (wrap agent)).effect world =
      let (reply, after) := (Behaviour.permanentFailure record error agent).effect world
      (reply.mapAgent wrap, after)
  write : ∀ records agent world, (Behaviour.write records (wrap agent)).effect world =
    let (reply, after) := (Behaviour.write records agent).effect world
    (reply.mapAgent wrap, after)

theorem PassesOn.comp [Behaviour ω γ] [Behaviour ω β] [Behaviour ω α] {outer : β → α} {inner : γ → β}
    (one : PassesOn outer) (other : PassesOn inner) : PassesOn (outer ∘ inner) where
  agentId agent := (one.agentId _).trans (other.agentId agent)
  read agent world := by
    rw [Function.comp_apply, one.read, other.read]
    rfl
  commit records agent world := by
    rw [Function.comp_apply, one.commit, other.commit]
    rfl
  permanentFailure record error agent world := by
    rw [Function.comp_apply, one.permanentFailure, other.permanentFailure]
    rfl
  write records agent world := by
    rw [Function.comp_apply, one.write, other.write]
    rfl

theorem StockAgent.hosts_staticSource : PassesOn StockAgent.staticSource :=
  ⟨fun _ => rfl, fun _ _ => rfl, fun _ _ _ => rfl, fun _ _ _ _ => rfl, fun _ _ _ => rfl⟩

theorem StockAgent.hosts_recordingSink : PassesOn StockAgent.recordingSink :=
  ⟨fun _ => rfl, fun _ _ => rfl, fun _ _ _ => rfl, fun _ _ _ _ => rfl, fun _ _ _ => rfl⟩

theorem StockAgent.hosts_logSink : PassesOn StockAgent.logSink :=
  ⟨fun _ => rfl, fun _ _ => rfl, fun _ _ _ => rfl, fun _ _ _ _ => rfl, fun _ _ _ => rfl⟩

/-- Sinks that take whatever they are given, described by what they have taken so far. -/
def Takes [Behaviour ω α] (holds : List Handle → α → Prop) : Prop :=
  ∀ ⦃taken sink⦄, holds taken sink → ∀ records world, ∃ later,
    (Behaviour.write records sink).effect world = (.ok later (), world) ∧ holds (taken ++ records) later

/-- Failed lineages as a source notes them that accepts dead letters. -/
def deadLetters (failed : List (Handle × ProcessingError)) : List (Handle × String) :=
  failed.map fun (record, error) => (record, error.display)

/-- The summary of a cycle, by what became of its batch. -/
def CycleSummary.ofLineages (lineages : List Entry) : CycleSummary :=
  ⟨lineages.length, (Entry.outputs lineages).length, (Entry.failures lineages).length⟩

namespace Testing.StaticSource

/-- The batch that the source emits next. -/
def next (source : StaticSource) : List Handle := source.batches.headD []

/-- The batches that the source emits in some cycles. -/
def due (source : StaticSource) (cycles : Nat) : List (List Handle) :=
  (List.range cycles).map fun cycle => source.batches.getD cycle []

/-- The source after it has emitted a batch. -/
def emitted (source : StaticSource) (world : Environment) : StaticSource :=
  { source with
    counters := source.counters.count 0 source.next.length world.clock
    batches := source.batches.tail }

/-- The source with more in its ledger. -/
def noting (source : StaticSource) (committed : List Handle) (failed : List (Handle × String)) :
    StaticSource :=
  { source with ledger := ⟨source.ledger.committed ++ committed, source.ledger.failed ++ failed⟩ }

/-- The failure at which the reports of failed lineages stop, if they do. -/
def refused? (source : StaticSource) (failed : List (Handle × ProcessingError)) :
    Option ProcessingError :=
  if source.deadLetter then none else failed.head?.map Prod.snd

/-- What a source notes of a batch with failed lineages: nothing if it refuses one of them. -/
def accepted (source : StaticSource) (failed : List (Handle × ProcessingError)) (items : List γ) :
    List γ :=
  if (source.refused? failed).isSome then [] else items

/-- The source after failed lineages of a batch were reported and, if it has refused none, the batch was
committed. -/
def settled (source : StaticSource) (batch : List Handle)
    (failed : List (Handle × ProcessingError)) : StaticSource :=
  source.noting (source.accepted failed batch) (source.accepted failed (deadLetters failed))

/-- How that ends. -/
def verdict (source : StaticSource) (failed : List (Handle × ProcessingError)) :
    Except FlowError Unit :=
  match source.refused? failed with
  | some error => .error (.processing ⟨Behaviour.agentId source, error.kind, error.display⟩)
  | none => .ok ()

/-- How a cycle ends, by what becomes of its batch. -/
def ending (source : StaticSource) (lineages : List Entry) : Except FlowError CycleSummary :=
  (source.verdict (Entry.failures lineages)).map fun _ => .ofLineages lineages

theorem due_succ (source : StaticSource) (cycles : Nat) (world : Environment) :
    source.due (cycles + 1) = source.next :: (source.emitted world).due cycles := by
  have later : ∀ cycle, source.batches.getD (cycle + 1) [] = source.batches.tail.getD cycle [] := by
    intro cycle
    cases source.batches <;> simp
  have first : source.batches.getD 0 [] = source.next := by
    rw [next]
    cases source.batches <;> rfl
  rw [due, List.range_succ_eq_map, List.map_cons, List.map_map, first]
  exact congrArg _ (List.map_congr_left fun cycle _ => later cycle)

theorem noting_noting (source : StaticSource) (committed committed' : List Handle)
    (failed failed' : List (Handle × String)) :
    (source.noting committed failed).noting committed' failed' =
      source.noting (committed ++ committed') (failed ++ failed') := by
  simp only [noting, List.append_assoc]

theorem noting_nothing (source : StaticSource) : source.noting [] [] = source := by
  simp only [noting, List.append_nil]

theorem refused?_nil (source : StaticSource) : source.refused? [] = none := by
  rw [refused?]
  split <;> rfl

theorem refused?_deadLetter {source : StaticSource} (mode : source.deadLetter = true)
    (failed : List (Handle × ProcessingError)) : source.refused? failed = none := by
  rw [refused?, if_pos mode]

theorem refused?_strict {source : StaticSource} (mode : source.deadLetter = false)
    (failed : List (Handle × ProcessingError)) :
    source.refused? failed = failed.head?.map Prod.snd := by
  simp [refused?, mode]

theorem settled_nothing (source : StaticSource) : source.settled [] [] = source := by
  simp [settled, accepted, refused?_nil, deadLetters, noting_nothing]

theorem read_effect (source : StaticSource) (world : Environment) :
    (Behaviour.read source).effect world = (.ok (source.emitted world) source.next, world) := rfl

theorem commit_effect (records : List Handle) (source : StaticSource) (world : Environment) :
    (Behaviour.commit records source).effect world = (.ok (source.noting records []) (), world) := by
  rw [noting, List.append_nil]
  rfl

theorem permanentFailure_effect (record : Handle) (error : AgentError) (source : StaticSource)
    (world : Environment) :
    (Behaviour.permanentFailure record error source).effect world =
      (if source.deadLetter then .ok (source.noting [] [(record, error.message)]) ()
        else .raise source error, world) := by
  rw [noting, List.append_nil]
  change (if source.deadLetter then _ else _ : Activity Environment (Reply StaticSource Unit)).effect
    world = _
  split <;> rfl

/-- A source after some cycles, by what became of the batches that it has emitted. -/
structure Replayed (source : StaticSource) (results : List (List Entry)) (later : StaticSource) :
    Prop where
  component : later.counters.component = source.counters.component
  totalOut : later.counters.totalOut = source.counters.totalOut + (results.map List.length).sum
  committed : later.ledger.committed = source.ledger.committed ++ results.flatMap fun lineages =>
    source.accepted (Entry.failures lineages) (lineages.map Entry.source)
  failed : later.ledger.failed = source.ledger.failed ++ results.flatMap fun lineages =>
    source.accepted (Entry.failures lineages) (deadLetters (Entry.failures lineages))

theorem Replayed.none (source : StaticSource) : source.Replayed [] source :=
  ⟨rfl, rfl, (List.append_nil _).symm, (List.append_nil _).symm⟩

/-- The source after one cycle, and then after more. -/
theorem Replayed.cons {source later : StaticSource} {lineages : List Entry}
    {results : List (List Entry)} {world : Environment}
    (answered : lineages.map Entry.source = source.next)
    (replayed : ((source.emitted world).settled source.next (Entry.failures lineages)).Replayed
      results later) : source.Replayed (lineages :: results) later := by
  obtain ⟨component, totalOut, committed, failed⟩ := replayed
  have count : lineages.length = source.next.length := by rw [← answered, List.length_map]
  refine ⟨component, ?_, ?_, ?_⟩
  · rw [totalOut, List.map_cons, List.sum_cons, count, ← Nat.add_assoc]
    rfl
  · rw [committed, List.flatMap_cons, answered, ← List.append_assoc]
    rfl
  · rw [failed, List.flatMap_cons, ← List.append_assoc]
    rfl

end Testing.StaticSource

namespace Testing.RecordingSink

/-- The sink with more records. -/
def taking (sink : RecordingSink) (records : List Handle) (world : Environment) : RecordingSink :=
  { sink with
    counters := sink.counters.count records.length 0 world.clock
    written := sink.written ++ records }

theorem write_effect {sink : RecordingSink} (reliable : sink.failWrites = false)
    (records : List Handle) (world : Environment) :
    (Behaviour.write records sink).effect world = (.ok (sink.taking records world) (), world) := by
  obtain ⟨counters, written, failWrites⟩ := sink
  cases reliable
  rfl

/-- A recording sink that does not fail, after it has taken some records. -/
structure Filled (sink : RecordingSink) (taken : List Handle) (later : RecordingSink) : Prop where
  reliable : later.failWrites = false
  written : later.written = sink.written ++ taken

theorem Filled.nothing {sink : RecordingSink} (reliable : sink.failWrites = false) :
    sink.Filled [] sink :=
  ⟨reliable, (List.append_nil _).symm⟩

theorem Filled.more {sink later : RecordingSink} {taken : List Handle}
    (filled : sink.Filled taken later) (records : List Handle) (world : Environment) :
    sink.Filled (taken ++ records) (later.taking records world) := by
  refine ⟨filled.reliable, ?_⟩
  rw [taking, filled.written, List.append_assoc]

/-- A recording sink that does not fail takes everything. -/
theorem takes [Behaviour Environment α] {wrap : RecordingSink → α} (hosted : PassesOn wrap)
    (sink : RecordingSink) :
    Takes fun taken agent => ∃ later, wrap later = agent ∧ sink.Filled taken later := by
  rintro taken _ ⟨later, rfl, filled⟩ records world
  refine ⟨wrap (later.taking records world), ?_, _, rfl, filled.more records world⟩
  rw [hosted.write, write_effect filled.reliable]
  rfl

end Testing.RecordingSink

namespace LogSink

/-- The sink with more records counted. -/
def taking (sink : LogSink) (records : List Handle) (world : Environment) : LogSink :=
  { sink with counters := sink.counters.count records.length 0 world.clock }

theorem write_effect (sink : LogSink) (records : List Handle) (world : Environment) :
    (Behaviour.write records sink).effect world = (.ok (sink.taking records world) (), world) := by
  have logged : (records.forM fun record => Activity.log (sink.event record)).effect world =
      ((), world) := by
    induction records with
    | nil => rfl
    | cons record rest ih => exact ih
  change ((records.forM fun record => Activity.log (sink.event record)) >>= fun _ => _ :
    Activity Environment (Reply LogSink Unit)).effect world = _
  rw [Activity.effect_bind, logged]
  rfl

end LogSink

end Conveyor
