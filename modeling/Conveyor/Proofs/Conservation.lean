import Conveyor.Proofs.Flow
import Conveyor.Proofs.RecordFunctions

/-! The flow through the agents of this library, by their `total_in` and `total_out`. Processors that pass
records on, drop them, put a header on them or double them make the same number of records of each, and
count just that; composites of such, nested in any way, keep it so. In a run between a static source and a
sink that takes everything, the ends count the same records as the chain. -/
namespace Conveyor

open Testing

variable {ω σ : Type}

namespace StockAgent

/-- How many records a processor makes of each, if that is the same number for all records. -/
def fanOut? : StockAgent → Option Nat
  | passThrough _ | setHeader _ | echo _ | probe _ => some 1
  | discard _ => some 0
  | duplicate _ => some 2
  | _ => none

/-- A processor that makes the same number of records of each, and reports as a processor. -/
structure Steady (agent : StockAgent) : Prop where
  known : agent.fanOut?.isSome
  reports : ∀ report ∈ Behaviour.status agent, report.component = .processor

theorem recordFunction_fanOut {agent : StockAgent} {count : Nat} (known : agent.fanOut? = some count) :
    ∃ function, agent.recordFunction? = some function ∧
      ∀ record, ∃ produced, function record = .ok produced ∧ produced.length = count := by
  cases agent with
  | passThrough _ | setHeader _ | echo _ | probe _ | discard _ | duplicate _ =>
    cases known
    exact ⟨_, rfl, fun record => ⟨_, rfl, rfl⟩⟩
  | _ => cases known

/-- Answers that show a number of records of each do not fail, and come to that number. -/
theorem countRecords_seen {function : Record → Seen (List Record)} {count : Nat}
    (same : ∀ record, ∃ produced, function record = .ok produced ∧ produced.length = count)
    {answers : List Entry} {records : List Handle}
    (seen : answers.map (Entry.seen Handle.record) =
      records.map fun record => (record, function record.record)) :
    answers.map Entry.source = records ∧ (∀ answer ∈ answers, answer.isFailed = false) ∧
      Entry.countRecords answers = records.length * count := by
  induction answers generalizing records with
  | nil =>
    cases records with
    | nil => simp [Entry.countRecords]
    | cons record rest => cases seen
  | cons answer answers ih =>
    cases records with
    | nil => cases seen
    | cons record rest =>
      obtain ⟨first, others⟩ := List.cons_eq_cons.mp seen
      obtain ⟨sources, alive, total⟩ := ih others
      obtain ⟨made, shape, length⟩ := same record.record
      obtain ⟨source, outcome⟩ := answer
      obtain ⟨rfl, outcomes⟩ : source = record ∧ outcome.seen Handle.record = function record.record :=
        Prod.mk.inj first
      rw [shape] at outcomes
      cases outcome with
      | failed error => cases outcomes
      | records produced =>
        have counted : produced.length = count := by
          rw [← length, ← Except.ok.inj outcomes, List.length_map]
        refine ⟨congrArg (source :: ·) sources, List.forall_mem_cons.mpr ⟨rfl, alive⟩, ?_⟩
        rw [countRecords_cons, total, List.length_cons, Nat.succ_mul, Nat.add_comm]
        exact congrArg _ counted

/-- Such a processor stays one, and counts what it takes and makes. -/
theorem process_fanOut {agent : StockAgent} {count : Nat} (known : agent.fanOut? = some count)
    (records : List Handle) (world : Environment) :
    let after := ((Behaviour.process records agent).effect world).1.agent
    after.fanOut? = some count ∧ ∃ report report', Behaviour.status agent = [report] ∧
      Behaviour.status after = [report'] ∧ report'.component = report.component ∧
      report'.metrics.totalIn = report.metrics.totalIn + records.length ∧
      report'.metrics.totalOut = report.metrics.totalOut + records.length * count := by
  cases agent with
  | passThrough _ | setHeader _ | echo _ | probe _ =>
    cases known
    refine ⟨rfl, _, _, rfl, rfl, rfl, rfl, ?_⟩
    rw [Nat.mul_one]
    rfl
  | discard _ | duplicate _ =>
    cases known
    exact ⟨rfl, _, _, rfl, rfl, rfl, rfl, rfl⟩
  | _ => cases known

theorem Steady.balanced {agent : StockAgent} (steady : agent.Steady) : Balanced agent := by
  refine Henceforth.of_kept Steady ?_ ?_ steady
  · intro agent records world ⟨known, reports⟩
    obtain ⟨count, known⟩ := Option.isSome_iff_exists.mp known
    obtain ⟨still, report, report', before, after, component, -, -⟩ := process_fanOut known records world
    refine ⟨by rw [still]; rfl, ?_⟩
    rw [after, List.forall_mem_singleton, component]
    exact reports report (before ▸ List.mem_singleton_self report)
  · intro agent ⟨known, reports⟩ records world
    obtain ⟨count, known⟩ := Option.isSome_iff_exists.mp known
    obtain ⟨function, answered, same⟩ := recordFunction_fanOut known
    obtain ⟨-, answers, replied, seen⟩ := process_recordFunction answered records world
    obtain ⟨sources, alive, total⟩ := countRecords_seen same seen
    obtain ⟨-, report, report', before, after, component, totalIn, totalOut⟩ :=
      process_fanOut known records world
    have isProcessor : report.component = .processor :=
      reports report (before ▸ List.mem_singleton_self report)
    refine ⟨answers, replied, sources, alive, ?_⟩
    rw [total, processorReports, processorReports, before, after]
    simp only [List.filter_cons, component, isProcessor]
    exact .single totalIn totalOut

end StockAgent

theorem Agent.hosts_leaf [Behaviour ω σ] [Clock ω] : PassesOn (Agent.leaf : σ → Agent σ) :=
  ⟨fun _ => rfl, fun _ _ => rfl, fun _ _ _ => rfl, fun _ _ _ _ => rfl, fun _ _ _ => rfl⟩

/-- A sink that takes everything and reports how much it has taken. -/
inductive Tallied : List Handle → Agent StockAgent → Prop where
  | recording {taken : List Handle} {sink : RecordingSink} (reliable : sink.failWrites = false)
      (isSink : sink.counters.component = .sink) (totalIn : sink.counters.totalIn = taken.length) :
      Tallied taken (.leaf (.recordingSink sink))
  | logging {taken : List Handle} {sink : LogSink} (isSink : sink.counters.component = .sink)
      (totalIn : sink.counters.totalIn = taken.length) : Tallied taken (.leaf (.logSink sink))

theorem Tallied.status {taken : List Handle} {sink : Agent StockAgent} (tallied : Tallied taken sink) :
    ∃ report, Behaviour.status sink = [report] ∧ report.component = .sink ∧
      report.metrics.totalIn = taken.length := by
  cases tallied with
  | recording _ isSink totalIn | logging isSink totalIn => exact ⟨_, rfl, isSink, totalIn⟩

/-- A static source and such a sink do not report as processors. -/
theorem Tallied.quiet_between {taken : List Handle} {sink : Agent StockAgent}
    (tallied : Tallied taken sink) (chain : Chain (Agent StockAgent)) {source : StaticSource}
    (isSource : source.counters.component = .source) :
    (chain.between (.leaf (.staticSource source)) sink).Quiet := by
  obtain ⟨report, reported, isSink, -⟩ := tallied.status
  refine List.forall_mem_append.mpr
    ⟨List.forall_mem_singleton.mpr ?_, List.forall_mem_singleton.mpr ?_⟩
  · change [source.counters.status .empty].filter _ = []
    simp [Counters.status, isSource]
  · rw [processorReports, reported]
    simp [isSink]

theorem takes_tallied : Takes Tallied := by
  intro taken _ tallied records world
  cases tallied with
  | @recording sink reliable isSink totalIn =>
    refine ⟨.leaf (.recordingSink (sink.taking records world)), ?_, .recording reliable isSink ?_⟩
    · have hosted := Agent.hosts_leaf.comp StockAgent.hosts_recordingSink
      exact (hosted.write records sink world).trans (by rw [RecordingSink.write_effect reliable]; rfl)
    · rw [List.length_append, ← totalIn]
      rfl
  | @logging sink isSink totalIn =>
    refine ⟨.leaf (.logSink (sink.taking records world)), ?_, .logging isSink ?_⟩
    · have hosted := Agent.hosts_leaf.comp StockAgent.hosts_logSink
      exact (hosted.write records sink world).trans (by rw [LogSink.write_effect]; rfl)
    · rw [List.length_append, ← totalIn]
      rfl

/-- A run between a static source and such a sink keeps the flow, and the ends report the counts of the
chain. -/
theorem Chain.Conserves.runCycles {chain : Chain (Agent StockAgent)} (conserves : chain.Conserves)
    (uncounted : chain.metrics = {}) {source : StaticSource}
    (isSource : source.counters.component = .source) (unread : source.counters.totalOut = 0)
    {sink : Agent StockAgent} (tallied : Tallied [] sink) (cycles : Nat) (world : Environment) :
    let driven := chain.between (.leaf (.staticSource source)) sink
    let after := ((driven.runCycles cycles).effect world).1.1
    after.Conserves ∧ after.Quiet ∧
      (after.source?.toList.flatMap Behaviour.status).map (·.metrics.totalOut) =
        [after.metrics.recordsIn] ∧
      (after.sink?.toList.flatMap Behaviour.status).map (·.metrics.totalIn) =
        [after.metrics.recordsOut] := by
  intro driven after
  have kept := conserves.processEachFilled (source.due cycles) world
  have counts := chain.processEachFilled_counts (source.due cycles) world
  have ran := Chain.runCycles_static (Agent.hosts_leaf.comp StockAgent.hosts_staticSource)
    takes_tallied cycles chain source tallied world
  generalize (chain.processEachFilled (source.due cycles)).effect world = done at kept counts ran
  obtain ⟨⟨processed, results⟩, final⟩ := done
  obtain ⟨source', sink', replayed, tallied, ran⟩ := ran
  have ended : after = processed.between (.leaf (.staticSource source')) sink' :=
    congrArg (·.1.1) ran
  obtain ⟨report, reported, -, totalIn⟩ := tallied.status
  obtain ⟨recordsIn, recordsOut⟩ := counts
  rw [uncounted, Nat.zero_add] at recordsIn recordsOut
  rw [ended]
  refine ⟨⟨kept.balanced, kept.flow⟩,
    tallied.quiet_between processed (replayed.component.trans isSource), ?_, ?_⟩
  · have totalOut : source'.counters.totalOut = processed.metrics.recordsIn := by
      rw [replayed.totalOut, recordsIn, unread, Nat.zero_add]
    exact congrArg ([·]) totalOut
  · have totalIn : report.metrics.totalIn = processed.metrics.recordsOut := by
      rw [totalIn, recordsOut, List.nil_append]
    change (Behaviour.status sink' ++ []).map _ = [processed.metrics.recordsOut]
    rw [reported, ← totalIn]
    rfl

/-- Processors that make the same number of records of each, woven into composites in any way, in a chain
that has not been used. After any batches, what the chain counts as given is what the first processor
has taken, each has taken what the one before has given, and what the last has given the chain counts as
produced. If the batches come from a static source in cycles and go to a recording sink that does not
fail or to a log sink, then moreover the source has given what the chain counts as given, and the sink
has taken what it counts as produced. -/
theorem flow_is_conserved (chain : Chain (Agent StockAgent))
    (steady : ∀ agent ∈ chain.processors, Woven StockAgent.Steady agent)
    (unused : ∀ report ∈ chain.processors.flatMap processorReports,
      report.metrics.totalIn = 0 ∧ report.metrics.totalOut = 0)
    (uncounted : chain.metrics = {}) :
    (chain.Quiet → ∀ batches world now,
      let after := ((chain.processAll batches).run world).value.1
      Flow after.metrics.recordsIn ((after.snapshot now).byComponent .processor)
        after.metrics.recordsOut) ∧
    ∀ (sourceId : String) batches deadLetter started, ∀ sink, Tallied [] sink →
      ∀ cycles world now,
        let source : StaticSource := .create sourceId batches deadLetter started
        let driven := chain.between (.leaf (.staticSource source)) sink
        let after := ((driven.runCycles cycles).run world).value.1
        Flow after.metrics.recordsIn ((after.snapshot now).byComponent .processor)
          after.metrics.recordsOut ∧
        (after.source?.toList.flatMap Behaviour.status).map (·.metrics.totalOut) =
          [after.metrics.recordsIn] ∧
        (after.sink?.toList.flatMap Behaviour.status).map (·.metrics.totalIn) =
          [after.metrics.recordsOut] := by
  have conserves : chain.Conserves := by
    refine ⟨fun agent member => (steady agent member).balanced StockAgent.Steady.balanced, ?_⟩
    rw [uncounted]
    exact .unused unused
  constructor
  · intro quiet batches world now after
    exact (conserves.processAll batches world).snapshot (quiet.processAll batches world) now
  · intro sourceId batches deadLetter started sink tallied cycles world now source driven after
    have isSource : source.counters.component = .source := rfl
    obtain ⟨conserved, quiet, given, taken⟩ :=
      conserves.runCycles uncounted isSource rfl tallied cycles world
    exact ⟨conserved.snapshot quiet now, given, taken⟩

section Dropping

/-- Records are passed on, doubled within a composite beside an empty one, dropped, and awaited. -/
def dropping : Chain (Agent StockAgent) where
  processors := [
    .leaf (.echo (.create "pass" ⟨0, 0⟩)),
    .composite ⟨"group", "composite-agent", ⟨0, 0⟩⟩ ⟨0⟩
      { processors := [.composite ⟨"hollow", "composite-agent", ⟨0, 0⟩⟩ ⟨0⟩ {},
          .leaf (.duplicate (.create "twice" ⟨0, 0⟩))] },
    .leaf (.discard (.ofIdentity ⟨"drop", "drop", ⟨0, 0⟩⟩)),
    .leaf (.probe (.create "wait" false false ⟨0, 0⟩))]

theorem steady_dropping : ∀ agent ∈ dropping.processors, Woven StockAgent.Steady agent := by
  have steady : ∀ {agent : StockAgent}, agent.fanOut?.isSome = true →
      (Behaviour.status agent).all (·.component == .processor) → Woven StockAgent.Steady (.leaf agent) :=
    fun known reports => .leaf ⟨known, by simpa using reports⟩
  simp only [dropping, List.forall_mem_cons]
  refine ⟨steady rfl rfl, .composite _ _ (by simp [Chain.Quiet]) ?_, steady rfl rfl, steady rfl rfl, by simp⟩
  simp only [List.forall_mem_cons]
  exact ⟨.composite _ _ (by simp [Chain.Quiet]) (by simp), steady rfl rfl, by simp⟩

/-- Three records come to six that are dropped, and nothing is counted behind. -/
theorem flow_is_conserved_to_drop :
    let world : Environment := { clock := ⟨0, 0⟩ }
    let batches : List (List Handle) := [[⟨0, .ofText "x"⟩, ⟨1, .ofText "y"⟩], [⟨2, .ofText "z"⟩]]
    let sink : Agent StockAgent := .leaf (.recordingSink (.create "sink" false ⟨0, 0⟩))
    (∀ agent ∈ dropping.processors, Woven StockAgent.Steady agent) ∧
    (∀ report ∈ dropping.processors.flatMap processorReports,
      report.metrics.totalIn = 0 ∧ report.metrics.totalOut = 0) ∧
    dropping.metrics = {} ∧ dropping.Quiet ∧ Tallied [] sink ∧
    (
      let after := ((dropping.processAll batches).run world).value.1
      Flow after.metrics.recordsIn ((after.snapshot ⟨0, 0⟩).byComponent .processor)
        after.metrics.recordsOut) ∧
    (
      let source : StaticSource := .create "source" batches false ⟨0, 0⟩
      let driven := dropping.between (.leaf (.staticSource source)) sink
      let after := ((driven.runCycles 3).run world).value.1
      Flow after.metrics.recordsIn ((after.snapshot ⟨0, 0⟩).byComponent .processor)
        after.metrics.recordsOut ∧
      (after.source?.toList.flatMap Behaviour.status).map (·.metrics.totalOut) =
        [after.metrics.recordsIn] ∧
      (after.sink?.toList.flatMap Behaviour.status).map (·.metrics.totalIn) =
        [after.metrics.recordsOut]) := by
  intro world batches sink
  have unused : ∀ report ∈ dropping.processors.flatMap processorReports,
      report.metrics.totalIn = 0 ∧ report.metrics.totalOut = 0 := by decide
  have quiet : dropping.Quiet := by simp [Chain.Quiet, dropping]
  have tallied : Tallied [] sink := .recording rfl rfl rfl
  have conserved := flow_is_conserved dropping steady_dropping unused rfl
  exact ⟨steady_dropping, unused, rfl, quiet, tallied, conserved.1 quiet batches world ⟨0, 0⟩,
    conserved.2 "source" batches false ⟨0, 0⟩ sink tallied 3 world ⟨0, 0⟩⟩

end Dropping

end Conveyor
