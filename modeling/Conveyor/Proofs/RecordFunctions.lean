import Conveyor.Proofs.Statelessness
import Conveyor.Stock.Agent

/-! What the processors of this library make of a record in `process`. Those that look at one record at a
time are described by a function of its content; that they count their records, or take new handles from the
world, does not show in what they answer. -/
namespace Conveyor

open Testing

variable {ω β γ δ : Type}

/-- Answers made one after the other show what each of them shows, if that does not depend on the world
in which it is made. -/
theorem mapM_seen {act : β → Activity ω γ} {see : γ → δ} {function : β → δ}
    (same : ∀ item world, see ((act item).effect world).1 = function item) (items : List β)
    (world : ω) : ((items.mapM act).effect world).1.map see = items.map function := by
  induction items generalizing world with
  | nil => rfl
  | cons item rest ih =>
    rw [List.mapM_cons, Activity.effect_bind, Activity.effect_bind, Activity.effect_pure, List.map_cons,
      List.map_cons, same, ih]

/-- What a call of a failing processor comes to. It is counted among the calls in any case, and leaves the
world as it is. -/
theorem Testing.Failing.process_effect (agent : Failing) (records : List Handle) (world : Environment) :
    (Behaviour.process records agent).effect world =
      let called := { agent with calls := agent.calls + 1 }
      let counters := agent.counters.count records.length records.length world.clock
      (if called.failsCall records then .raise called ⟨.processing, agent.message⟩
        else .ok { called with counters } (records.map agent.answer), world) := by
  change (if Failing.failsCall { agent with calls := agent.calls + 1 } records then _ else _ :
    Activity Environment (Reply Failing (List Entry))).effect world = _
  dsimp only
  split <;> rfl

namespace StockAgent

/-- What a processor that looks at one record at a time makes of the content of a record. -/
def recordFunction? : StockAgent → Option (Record → Seen (List Record))
  | passThrough _ | echo _ | probe _ => some fun record => .ok [record]
  | discard _ => some fun _ => .ok []
  | setHeader agent => some fun record => .ok [record.withHeader agent.name agent.value]
  | duplicate _ => some fun record => .ok [Duplicate.extend record "a", Duplicate.extend record "b"]
  | failing agent =>
    match agent.policy with
    | .reportOnValue value => some fun record =>
      if record.value.same value then
        .error ⟨agent.counters.identity.agentId, .processing, agent.message⟩
      else .ok [record]
    | _ => none
  | _ => none

/-- A processor that reports the records of a payload fails these and passes on the others. -/
theorem reported_seen {agent : Failing} {value : Value} (reports : agent.policy = .reportOnValue value)
    (record : Handle) :
    (agent.answer record).seen Handle.record = (record,
      if record.record.value.same value then
        .error ⟨agent.counters.identity.agentId, .processing, agent.message⟩
      else .ok [record.record]) := by
  rw [Failing.answer, reports]
  dsimp only
  split <;> rfl

/-- Such a processor answers by its function, and keeps it. -/
theorem process_recordFunction {agent : StockAgent} {function : Record → Seen (List Record)}
    (known : agent.recordFunction? = some function) (records : List Handle) (world : Environment) :
    let reply := ((Behaviour.process records agent).effect world).1
    reply.agent.recordFunction? = some function ∧ ∃ answers, reply.result = .ok answers ∧
      answers.map (Entry.seen Handle.record) =
        records.map fun record => (record, function record.record) := by
  cases agent with
  | passThrough agent | echo agent | probe agent =>
    cases known
    exact ⟨rfl, _, rfl, by simp [Entry.seen, Entry.passThrough, Entry.ofRecords, Outcome.seen]⟩
  | discard agent =>
    cases known
    exact ⟨rfl, _, rfl, by simp [Entry.seen, Entry.ofRecords, Outcome.seen]⟩
  | setHeader agent =>
    cases known
    exact ⟨rfl, _, rfl, mapM_seen (fun record world => rfl) records world⟩
  | duplicate agent =>
    cases known
    exact ⟨rfl, _, rfl, mapM_seen (fun record world => rfl) records world⟩
  | failing agent =>
    obtain ⟨counters, policy, message, calls⟩ := agent
    cases policy with
    | reportOnValue value =>
      cases known
      refine ⟨rfl, _, rfl, ?_⟩
      rw [List.map_map]
      exact List.map_congr_left fun record _ => reported_seen rfl record
    | _ => cases known
  | _ => cases known

/-- A processor with a function answers by it for good. -/
theorem recordWise {agent : StockAgent} {function : Record → Seen (List Record)}
    (known : agent.recordFunction? = some function) : RecordWise Handle.record function agent :=
  Henceforth.of_kept (fun agent => agent.recordFunction? = some function)
    (fun records world known => (process_recordFunction known records world).1)
    (fun known records world => (process_recordFunction known records world).2) known

end StockAgent

end Conveyor
