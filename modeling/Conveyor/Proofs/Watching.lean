import Conveyor.Proofs.Imitation
import Conveyor.Proofs.Stages

/-! Which calls a chain makes of its agents. A watched agent does what the agent does and writes every
call down, with what it was given and how it ended, under a label that tells the agents of a chain
apart. Watching changes nothing: a chain of watched agents comes to the same results as the chain,
leaves the same world and logs the same events. And nothing depends on the calls that were written down
before, so the calls of an activity are a matter of the activity and the world it begins in. -/
namespace Conveyor

variable {ω α β κ : Type}

/-- The hook of an agent that is called, with what it is given and how the call ends. -/
inductive Exchange where
  | setContext (context : Context)
  | start (result : Except (Fault AgentError) Unit)
  | close (result : Except (Fault AgentError) Unit)
  | process (records : List Handle) (result : Except (Fault AgentError) (List Entry))
  | read (result : Except (Fault AgentError) (List Handle))
  | commit (records : List Handle) (result : Except (Fault AgentError) Unit)
  | permanentFailure (record : Handle) (error : AgentError)
    (result : Except (Fault AgentError) Unit)
  | write (records : List Handle) (result : Except (Fault AgentError) Unit)

/-- A call of the agent under a label, with the id that the agent went by when it was called. -/
structure Call (κ : Type) where
  label : κ
  agentId : String
  exchange : Exchange

/-- A world in which calls are written down, in the order in which they are made. -/
structure Watch (κ ω : Type) where
  world : ω
  calls : List (Call κ) := []

namespace Watch

instance [Clock ω] : Clock (Watch κ ω) := ⟨fun watch => Clock.now watch.world⟩

theorem now_eq [Clock ω] {one other : Watch κ ω} (same : one.world = other.world) :
    Clock.now one = Clock.now other := by
  change Clock.now one.world = Clock.now other.world
  rw [same]

end Watch

/-- An agent whose calls are written down under a label. -/
structure Watched (κ α : Type) where
  label : κ
  agent : α

namespace Watched

variable [Behaviour ω α]

/-- Calls the agent and writes the call down. -/
def call (watched : Watched κ α) (hook : α → Activity ω (Reply α β))
    (exchange : Except (Fault AgentError) β → Exchange) :
    Activity (Watch κ ω) (Reply (Watched κ α) β) := fun watch =>
  let done := (hook watched.agent).run watch.world
  let call : Call κ :=
    ⟨watched.label, Behaviour.agentId watched.agent, exchange done.value.result⟩
  ⟨done.value.mapAgent (⟨watched.label, ·⟩), ⟨done.world, watch.calls ++ [call]⟩, done.log⟩

instance : Behaviour (Watch κ ω) (Watched κ α) where
  agentId watched := Behaviour.agentId watched.agent
  agentType watched := Behaviour.agentType watched.agent
  status watched := Behaviour.status watched.agent
  capabilities watched := Behaviour.capabilities watched.agent
  setContext context watched := fun watch =>
    let done := (Behaviour.setContext context watched.agent).run watch.world
    let call : Call κ :=
      ⟨watched.label, Behaviour.agentId watched.agent, .setContext context⟩
    ⟨⟨watched.label, done.value⟩, ⟨done.world, watch.calls ++ [call]⟩, done.log⟩
  start watched := watched.call Behaviour.start .start
  close watched := watched.call Behaviour.close .close
  process records watched := watched.call (Behaviour.process records) (.process records)
  read watched := watched.call Behaviour.read .read
  commit records watched := watched.call (Behaviour.commit records) (.commit records)
  permanentFailure record error watched :=
    watched.call (Behaviour.permanentFailure record error) (.permanentFailure record error)
  write records watched := watched.call (Behaviour.write records) (.write records)

/-- A watched call has the effect of the call, and is written down with its result. -/
theorem call_effect (watched : Watched κ α) (hook : α → Activity ω (Reply α β))
    (exchange : Except (Fault AgentError) β → Exchange) (watch : Watch κ ω) :
    Activity.effect (watched.call hook exchange) watch =
      let (reply, after) := Activity.effect (hook watched.agent) watch.world
      (reply.mapAgent (⟨watched.label, ·⟩), ⟨after, watch.calls ++
        [⟨watched.label, Behaviour.agentId watched.agent, exchange reply.result⟩]⟩) := rfl

/-- Apart from the calls, a watched call does what the call does. -/
theorem call_alike (watched : Watched κ α) (hook : α → Activity ω (Reply α β))
    (exchange : Except (Fault AgentError) β → Exchange) :
    Activity.Alike (fun (watch : Watch κ ω) world => watch.world = world)
      (Reply.Alike fun (watched : Watched κ α) agent => watched.agent = agent)
      (watched.call hook exchange) (hook watched.agent) := by
  rintro ⟨world, calls⟩ _ rfl
  exact ⟨⟨rfl, rfl⟩, rfl, rfl⟩

/-- A watched call does the same whatever calls were written down before. -/
theorem call_later (past : List (Call κ)) (watched : Watched κ α)
    (hook : α → Activity ω (Reply α β)) (exchange : Except (Fault AgentError) β → Exchange) :
    Activity.Alike (fun one other => one.world = other.world ∧ one.calls = past ++ other.calls)
      (Reply.Alike Eq) (watched.call hook exchange) (watched.call hook exchange) := by
  rintro ⟨world, calls⟩ ⟨_, others⟩ ⟨same, longer⟩
  cases same
  cases longer
  exact ⟨⟨rfl, rfl⟩, ⟨rfl, List.append_assoc past others _⟩, rfl⟩

/-- A watched agent imitates the agent, in a world that is the same but for the calls. -/
theorem imitates_agent : Imitates (fun (watch : Watch κ ω) world => watch.world = world)
    (fun (watched : Watched κ α) agent => watched.agent = agent) where
  agentId := by rintro watched _ rfl; rfl
  process := by rintro watched _ records rfl; exact call_alike watched _ _
  read := by rintro watched _ rfl; exact call_alike watched _ _
  commit := by rintro watched _ records rfl; exact call_alike watched _ _
  permanentFailure := by rintro watched _ record error rfl; exact call_alike watched _ _
  write := by rintro watched _ records rfl; exact call_alike watched _ _

/-- A watched agent imitates itself at a later time. -/
theorem imitates_later (past : List (Call κ)) :
    Imitates (fun (one other : Watch κ ω) =>
      one.world = other.world ∧ one.calls = past ++ other.calls) (Eq (α := Watched κ α)) where
  agentId := by rintro watched _ rfl; rfl
  process := by rintro watched _ records rfl; exact call_later past watched _ _
  read := by rintro watched _ rfl; exact call_later past watched _ _
  commit := by rintro watched _ records rfl; exact call_later past watched _ _
  permanentFailure := by rintro watched _ record error rfl; exact call_later past watched _ _
  write := by rintro watched _ records rfl; exact call_later past watched _ _

end Watched

/-- The calls that an activity makes of watched agents. -/
def callsOf (activity : Activity (Watch κ ω) β) (world : ω) : List (Call κ) :=
  (activity.run ⟨world, []⟩).world.calls

/-- Where in a chain an agent stands. -/
inductive Place where
  | source
  | processor (position : Nat)
  | sink
  deriving DecidableEq, Repr

namespace Chain

/-- Processors that are watched, the first of them at a position of the chain. -/
def watchFrom (position : Nat) : List α → List (Watched Place α)
  | [] => []
  | processor :: rest => ⟨.processor position, processor⟩ :: watchFrom (position + 1) rest

/-- The chain with every agent watched under its place. -/
def watched (chain : Chain α) : Chain (Watched Place α) where
  source? := chain.source?.map (⟨.source, ·⟩)
  processors := watchFrom 0 chain.processors
  sink? := chain.sink?.map (⟨.sink, ·⟩)
  metrics := chain.metrics

theorem watchFrom_agents (position : Nat) (processors : List α) :
    List.Forall₂ (fun (watched : Watched Place α) agent => watched.agent = agent)
      (watchFrom position processors) processors := by
  induction processors generalizing position with
  | nil => exact .nil
  | cons processor rest ih => exact .cons rfl (ih (position + 1))

theorem watched_related (chain : Chain α) :
    Related (fun (watched : Watched Place α) agent => watched.agent = agent)
      chain.watched chain := by
  refine ⟨?_, watchFrom_agents 0 chain.processors, ?_, rfl⟩
  · rw [watched]
    cases chain.source? with
    | none => exact .none
    | some source => exact .some rfl
  · rw [watched]
    cases chain.sink? with
    | none => exact .none
    | some sink => exact .some rfl

theorem related_self (chain : Chain α) : Related Eq chain chain := by
  refine ⟨?_, List.forall₂_same.mpr fun _ _ => rfl, ?_, rfl⟩
  · cases chain.source? with
    | none => exact .none
    | some source => exact .some rfl
  · cases chain.sink? with
    | none => exact .none
    | some sink => exact .some rfl

variable [Behaviour ω α] [Clock ω]

/-- Watching a chain does not change what becomes of a batch. -/
theorem process_watched (chain : Chain α) (records : List Handle) (watch : Watch Place ω) :
    ((chain.watched.process records).run watch).value.2 =
      ((chain.process records).run watch.world).value.2 :=
  (process_alike Watched.imitates_agent (congrArg Clock.now) chain.watched_related records rfl).1.2

/-- Watching a chain does not change how a cycle ends. -/
theorem runOnce_watched (chain : Chain α) (watch : Watch Place ω) :
    (chain.watched.runOnce.run watch).value.2 = (chain.runOnce.run watch.world).value.2 :=
  (runOnce_alike Watched.imitates_agent (congrArg Clock.now) chain.watched_related rfl).1.2

/-- The calls for a batch come after those that were made before it, and do not depend on them. -/
theorem process_calls_later (chain : Chain (Watched κ α)) (records : List Handle)
    (watch : Watch κ ω) :
    ((chain.process records).run watch).world.calls =
      watch.calls ++ callsOf (chain.process records) watch.world := by
  -- The chain imitates itself as begun in the same world with no calls written down yet.
  have alike := process_alike (Watched.imitates_later watch.calls)
    (fun same => Watch.now_eq same.1) chain.related_self records
  have begun : watch.world = (⟨watch.world, []⟩ : Watch κ ω).world ∧
    watch.calls = watch.calls ++ [] := ⟨rfl, (List.append_nil _).symm⟩
  exact (alike begun).2.1.2

end Chain

end Conveyor
