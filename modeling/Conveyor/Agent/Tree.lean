import Conveyor.Chain.Cycle
import Conveyor.Chain.Lifecycle

/-!
Agents that run chains. A composite agent (`CompositeAgentProcessor`) holds a chain and plays the part
of a single processor: starting, closing and processing are passed on to the chain, and its reports are
the reports of the agents inside. Composites nest to any depth, so agents are trees over a type of
leaves. What a tree does is defined level by level: the hooks of a tree at one level call the hooks of
the level below on the agents inside.
-/

namespace Conveyor

/-- The name of a registry. Everyone who has the name uses the same registry. -/
structure RegistryKey where
  index : Nat
  deriving DecidableEq, Inhabited, Repr

/-- A tree of agents over a type of leaves. -/
inductive Agent (σ : Type) where
  | leaf (agent : σ)
  /-- A chain behind the contract of a processor, with the registry that constructs its agents. -/
  | composite (identity : Identity) (registry : RegistryKey) (chain : Chain (Agent σ))

namespace Agent

variable {ω σ : Type}

/-- The agent itself, unless it is made of others. -/
def leaf? : Agent σ → Option σ
  | leaf agent => some agent
  | composite .. => none

/-- The chain of a composite. -/
def chain? : Agent σ → Option (Chain (Agent σ))
  | leaf _ => none
  | composite _ _ chain => some chain

mutual

/-- How many composites are nested in a tree. -/
def depth : Agent σ → Nat
  | .leaf _ => 0
  | .composite _ _ chain => chainDepth chain + 1

/-- The greatest depth among the agents of a chain. -/
def chainDepth : Chain (Agent σ) → Nat
  | ⟨source?, processors, sink?, _⟩ =>
    max (endDepth source?) (max (listDepth processors) (endDepth sink?))

/-- The depth of an end of a chain. -/
def endDepth : Option (Agent σ) → Nat
  | none => 0
  | some agent => depth agent

/-- The greatest depth in a list of agents. -/
def listDepth : List (Agent σ) → Nat
  | [] => 0
  | agent :: rest => max (depth agent) (listDepth rest)

end

/-- The error that a composite raises when its chain fails to start or to close. -/
def lifecycleReply (identity : Identity) (registry : RegistryKey) :
    Chain (Agent σ) × Except LifecycleError Unit → Reply (Agent σ) Unit
  | (chain, .ok ()) => .ok (.composite identity registry chain) ()
  | (chain, .error error) => .raise (.composite identity registry chain) (.ofLifecycle error)

/-- The hooks of trees, given the hooks of the agents inside. -/
abbrev hooksOver [Behaviour ω σ] [Clock ω] (inner : Behaviour ω (Agent σ)) :
    Behaviour ω (Agent σ) where
  agentId
    | .leaf agent => Behaviour.agentId agent
    | .composite identity _ _ => identity.agentId
  agentType
    | .leaf agent => Behaviour.agentType agent
    | .composite identity _ _ => identity.agentType
  status
    | .leaf agent => Behaviour.status agent
    | .composite _ _ chain => chain.status
  capabilities
    | .leaf agent => Behaviour.capabilities agent
    | .composite .. => { processor := true }
  setContext context
    | .leaf agent => do return .leaf (← Behaviour.setContext context agent)
    | agent => return agent
  start
    | .leaf agent => do return (← Behaviour.start agent).mapAgent .leaf
    | .composite identity registry chain => do
      return lifecycleReply identity registry (← chain.start)
  close
    | .leaf agent => do return (← Behaviour.close agent).mapAgent .leaf
    | .composite identity registry chain => do
      return lifecycleReply identity registry (← chain.close)
  process records
    | .leaf agent => do return (← Behaviour.process records agent).mapAgent .leaf
    | .composite identity registry chain => do
      let (chain, results) ← chain.process records
      return .ok (.composite identity registry chain) results
  read
    | .leaf agent => do return (← Behaviour.read agent).mapAgent .leaf
    | agent => return .ok agent []
  commit records
    | .leaf agent => do return (← Behaviour.commit records agent).mapAgent .leaf
    | agent => return .ok agent ()
  permanentFailure record error
    | .leaf agent => do return (← Behaviour.permanentFailure record error agent).mapAgent .leaf
    | agent => return .raise agent error
  write records
    | .leaf agent => do return (← Behaviour.write records agent).mapAgent .leaf
    | agent => return .ok agent ()

/-- The hooks of trees that are nested at most so deep. -/
@[reducible] def hooksWithin [Behaviour ω σ] [Clock ω] : Nat → Behaviour ω (Agent σ)
  | 0 => hooksOver { agentId := fun _ => "", agentType := fun _ => "", status := fun _ => [] }
  | level + 1 => hooksOver (hooksWithin level)

/-- The hooks of a tree are those of its own depth. -/
instance [Behaviour ω σ] [Clock ω] : Behaviour ω (Agent σ) where
  agentId agent := (hooksWithin agent.depth).agentId agent
  agentType agent := (hooksWithin agent.depth).agentType agent
  status agent := (hooksWithin agent.depth).status agent
  capabilities agent := (hooksWithin agent.depth).capabilities agent
  setContext context agent := (hooksWithin agent.depth).setContext context agent
  start agent := (hooksWithin agent.depth).start agent
  close agent := (hooksWithin agent.depth).close agent
  process records agent := (hooksWithin agent.depth).process records agent
  read agent := (hooksWithin agent.depth).read agent
  commit records agent := (hooksWithin agent.depth).commit records agent
  permanentFailure record error agent :=
    (hooksWithin agent.depth).permanentFailure record error agent
  write records agent := (hooksWithin agent.depth).write records agent

end Agent

end Conveyor
