import Conveyor.Chain.Basic

/-!
Starting and closing chains, by `start` and `close`. Agents are visited in the order source, processors,
sink. Starting stops at the first agent that fails, so the agents behind it are never called; closing
calls every agent, whether or not it was ever started, and collects the failures.
-/

namespace Conveyor.Chain

variable {ω α : Type} [Behaviour ω α]

/-- Starts agents in order up to the first that fails. -/
def startEach : List α → Activity ω (List α × Option AgentFailure)
  | [] => pure ([], none)
  | agent :: rest => do
    let reply ← Behaviour.start agent
    match reply.result with
    | .error fault =>
      pure (reply.agent :: rest,
        some ⟨Behaviour.agentId agent, fault.toAgentError.message⟩)
    | .ok () =>
      let (rest, failure?) ← startEach rest
      pure (reply.agent :: rest, failure?)

/-- Starts a chain. The error names the one agent at which starting stopped. -/
def start (chain : Chain α) : Activity ω (Chain α × Except LifecycleError Unit) := do
  let (agents, failure?) ← startEach chain.members
  let started := chain.withMembers agents
  match failure? with
  | some failure => pure (started, .error ⟨.start, [failure]⟩)
  | none =>
    Activity.log (.chainStarted chain.processors.length chain.source?.isSome chain.sink?.isSome)
    pure (started, .ok ())

/-- Closes every agent in order and collects the failures. -/
def closeEach : List α → Activity ω (List α × List AgentFailure)
  | [] => pure ([], [])
  | agent :: rest => do
    let agentId := Behaviour.agentId agent
    let reply ← Behaviour.close agent
    match reply.result with
    | .error fault =>
      let message := fault.toAgentError.message
      Activity.log (.agentFailedToClose agentId message)
      let (rest, failures) ← closeEach rest
      pure (reply.agent :: rest, ⟨agentId, message⟩ :: failures)
    | .ok () =>
      let (rest, failures) ← closeEach rest
      pure (reply.agent :: rest, failures)

/-- Closes a chain. The error lists every failure in the order of the agents. -/
def close (chain : Chain α) : Activity ω (Chain α × Except LifecycleError Unit) := do
  let (agents, failures) ← closeEach chain.members
  let closed := chain.withMembers agents
  if failures.isEmpty then
    Activity.log .chainClosed
    pure (closed, .ok ())
  else
    let error : LifecycleError := ⟨.close, failures⟩
    Activity.log (.closedWithFailures error.display)
    pure (closed, .error error)

end Conveyor.Chain
