import Conveyor.Proofs.Interchange
import Conveyor.Proofs.RecordFunctions

/-! The two ways in which a processor can fail a lineage, as `FailingProcessor` has them. It can raise an
error and so fail the call, or answer the call and report the failure in one of its entries. Behind the
first stage a call is made for one lineage only, so the raised error ends that lineage; and the first
failure among the entries does the same. A chain cannot tell which of the two ways a processor takes. In
front it can, for there the raised error ends every lineage of the batch. -/
namespace Conveyor

open Testing

variable {κ ω π : Type}

namespace Testing.Failing

/-- The failure of the lineages that a failing processor does not let through. -/
def failure (agent : Failing) : ProcessingError :=
  ⟨agent.counters.identity.agentId, .processing, agent.message⟩

/-- Reports on the records of a lineage come to the failure of the lineage as soon as there is one. -/
theorem flatten_reports {agent : Failing} {value : Value}
    (reports : agent.policy = .reportOnValue value) (records : List Handle) :
    Outcome.flatten (records.map agent.answer) =
      if records.any fun record => record.record.value.same value then .failed agent.failure
      else .records records := by
  induction records with
  | nil => rfl
  | cons record rest ih =>
    rw [List.map_cons, Outcome.flatten, ih, answer, reports, List.any_cons]
    by_cases here : record.record.value.same value = true
    · simp [here, Entry.ofFailure, failure]
    · by_cases later : (rest.any fun record => record.record.value.same value) = true <;>
        simp [here, later, Entry.passThrough, Entry.ofRecords]

/-- What a call that may be refused comes to for the lineage that it is made for. -/
theorem outcome_onValue {agent : Failing} {value : Value} (refuses : agent.policy = .onValue value)
    (records : List Handle) (world : Environment) :
    Outcome.ofReply agent.counters.identity.agentId
        ((Behaviour.process records agent).effect world).1.result =
      if records.any fun record => record.record.value.same value then .failed agent.failure
      else .records records := by
  have passes : agent.answer = Entry.passThrough := by
    funext record
    rw [answer, refuses]
  rw [process_effect]
  simp only [failsCall, refuses, passes]
  split
  · rfl
  · exact Outcome.ofReply_passThrough _ records

theorem outcome_reportOnValue {agent : Failing} {value : Value}
    (reports : agent.policy = .reportOnValue value) (records : List Handle) (world : Environment) :
    Outcome.ofReply agent.counters.identity.agentId
        ((Behaviour.process records agent).effect world).1.result =
      if records.any fun record => record.record.value.same value then .failed agent.failure
      else .records records := by
  rw [process_effect]
  simp only [failsCall, reports, Bool.false_eq_true, if_false]
  exact (Outcome.ofReply_ok _ _).trans (flatten_reports reports records)

/-- A call changes neither when a failing processor fails nor how, and leaves the world as it is. -/
theorem process_keeps (agent : Failing) (records : List Handle) (world : Environment) :
    let done := (Behaviour.process records agent).effect world
    done.1.agent.policy = agent.policy ∧ done.1.agent.failure = agent.failure ∧ done.2 = world := by
  rw [process_effect]
  dsimp only
  split <;> exact ⟨rfl, rfl, rfl⟩

end Testing.Failing

/-- The call of a failing processor that is a guest is a call of the processor. -/
theorem failing_effect [Hosts ω] [Behaviour ω π] (agent : Failing) (records : List Handle)
    (watch : Watch κ ω) :
    (Behaviour.process records (.inl ⟨.leaf (.failing agent)⟩ : Company κ ω π)).effect watch =
      let (reply, after) := (Behaviour.process records agent).effect (Hosts.environment watch)
      (reply.mapAgent fun agent => .inl ⟨.leaf (.failing agent)⟩,
        Hosts.withEnvironment after watch) := rfl

/-- A processor that raises its failure and one that reports it, as guests, of the same id and with the same
message. -/
inductive RaisesAndReports (value : Value) : Company κ ω π → Company κ ω π → Prop where
  | intro {raising reporting : Failing} (raises : raising.policy = .onValue value)
      (reports : reporting.policy = .reportOnValue value) (same : raising.failure = reporting.failure) :
      RaisesAndReports value (.inl ⟨.leaf (.failing raising)⟩) (.inl ⟨.leaf (.failing reporting)⟩)

theorem raisesAndReports_sameOutcomes [Hosts ω] [Behaviour ω π] (value : Value) :
    Chain.SameOutcomes (RaisesAndReports value : Company κ ω π → Company κ ω π → Prop) := by
  rintro _ _ @⟨raising, reporting, raises, reports, same⟩ records watch
  have one := Failing.outcome_onValue raises records (Hosts.environment watch)
  have other := Failing.outcome_reportOnValue reports records (Hosts.environment watch)
  obtain ⟨stillRaises, failure, left⟩ := raising.process_keeps records (Hosts.environment watch)
  obtain ⟨stillReports, failure', left'⟩ := reporting.process_keeps records (Hosts.environment watch)
  dsimp only
  rw [failing_effect, failing_effect]
  refine ⟨.intro (stillRaises.trans raises) (stillReports.trans reports)
    (failure.trans (same.trans failure'.symm)), one.trans ?_, ?_⟩
  · rw [same]
    exact other.symm
  · exact congrArg (Hosts.withEnvironment · watch) (left.trans left'.symm)

/-- Whether a failing processor behind the first raises its failure for the calls with a record of some
payload, or reports it for the lineages of such records, makes no difference. Whatever the other processors
do, over any batches the results are the same, the failures among them, and so are the calls of all agents
that are watched, the world apart from these, and the counts of the chain. -/
theorem raised_and_reported_failures_agree [Hosts ω] [Clock ω] [Behaviour ω π]
    (chain : Chain (Company κ ω π)) (first : Company κ ω π) (front back : List (Company κ ω π))
    (agent : Failing) (value : Value) (batches : List (List Handle)) (watch : Watch κ ω) :
    let stage (policy : FailurePolicy) : Company κ ω π :=
      .inl ⟨.leaf (.failing { agent with policy })⟩
    let raising := { chain with processors := first :: front ++ stage (.onValue value) :: back }
    let reporting :=
      { chain with processors := first :: front ++ stage (.reportOnValue value) :: back }
    let one := (raising.processAll batches).run watch
    let other := (reporting.processAll batches).run watch
    one.value.2 = other.value.2 ∧
      one.world.calls = other.world.calls ∧ one.world.world = other.world.world ∧
      one.value.1.metrics = other.value.1.metrics := by
  intro stage raising reporting
  have row : Chain.Single (RaisesAndReports value) [stage (.onValue value)]
      [stage (.reportOnValue value)] := .intro (.intro rfl rfl rfl)
  have exchanged : Chain.ExchangedIn (Chain.Single (RaisesAndReports value)) raising reporting :=
    ⟨rfl, .intro first front row back, rfl, rfl⟩
  obtain ⟨still, results, left⟩ := Chain.processAll_exchanged
    (Chain.single_exchangeable (raisesAndReports_sameOutcomes value)) exchanged batches watch
  exact ⟨results, congrArg Watch.calls left, congrArg Watch.world left, still.metrics⟩

end Conveyor
