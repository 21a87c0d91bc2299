import Conveyor.Proofs.Leaves

/-! The life of a chain as the life of its leaves, by `start`, `close` and `status`. A chain starts its
leaves one after the other, depth first through all composites, up to the first that fails; it closes every
leaf, whatever fails. What the holder of the chain hears of this names only agents of the chain itself: an
agent has failed if a leaf in it has, and the message of a composite is the whole error of the chain inside.
-/
namespace Conveyor

variable {ω σ α β κ : Type}

section Lists

/-- The items of a list up to the first with a property, that one included. -/
def throughFirst (p : α → Bool) : List α → List α
  | [] => []
  | item :: rest => if p item then [item] else item :: throughFirst p rest

theorem throughFirst_none {p : α → Bool} {items : List α} (none : ∀ item ∈ items, p item = false) :
    throughFirst p items = items := by
  induction items with
  | nil => rfl
  | cons item rest ih =>
    obtain ⟨first, others⟩ := List.forall_mem_cons.mp none
    rw [throughFirst, first, ih others]
    rfl

theorem throughFirst_append {p : α → Bool} {front : List α} (none : ∀ item ∈ front, p item = false)
    (back : List α) : throughFirst p (front ++ back) = front ++ throughFirst p back := by
  induction front with
  | nil => rfl
  | cons item rest ih =>
    obtain ⟨first, others⟩ := List.forall_mem_cons.mp none
    rw [List.cons_append, throughFirst, first, ih others]
    rfl

theorem throughFirst_append_of_some {p : α → Bool} {front : List α} (some : ∃ item ∈ front, p item)
    (back : List α) : throughFirst p (front ++ back) = throughFirst p front := by
  induction front with
  | nil => simp at some
  | cons item rest ih =>
    rw [List.cons_append, throughFirst, throughFirst]
    split
    · rfl
    · rename_i fine
      rw [ih (by simpa [fine] using some)]

theorem throughFirst_congr {p q : α → Bool} {items : List α} (same : ∀ item ∈ items, p item = q item) :
    throughFirst p items = throughFirst q items := by
  induction items with
  | nil => rfl
  | cons item rest ih =>
    obtain ⟨first, others⟩ := List.forall_mem_cons.mp same
    rw [throughFirst, throughFirst, first, ih others]

theorem mem_of_mem_throughFirst {p : α → Bool} {items : List α} {item : α}
    (member : item ∈ throughFirst p items) : item ∈ items := by
  induction items with
  | nil => exact member
  | cons first rest ih =>
    rw [throughFirst] at member
    split at member
    · exact List.mem_cons.mpr (.inl (List.mem_singleton.mp member))
    · exact List.mem_cons.mpr ((List.mem_cons.mp member).imp id ih)

end Lists

theorem exists_joint {front back : List κ} (disjoint : front.Disjoint back) (one other : κ → β) :
    ∃ both : κ → β, (∀ label ∈ front, both label = one label) ∧
      ∀ label ∈ back, both label = other label := by
  classical
  refine ⟨fun label => if label ∈ front then one label else other label, fun label member => ?_,
    fun label member => ?_⟩
  · exact if_pos member
  · exact if_neg fun here => disjoint here member

/-- The failure that a chain notes of an agent whose call has ended so. -/
def noted (agentId : String) : Except (Fault AgentError) Unit → Option AgentFailure
  | .ok () => none
  | .error fault => some ⟨agentId, fault.toAgentError.message⟩

namespace LifecyclePhase

/-- The failures of its agents that a chain comes to know in a phase: it starts no agent after the first
that fails, but closes them all. -/
def known : LifecyclePhase → List AgentFailure → List AgentFailure
  | start, failures => failures.head?.toList
  | close, failures => failures

/-- How a phase ends for a chain, by the failures that are known. -/
def verdict (phase : LifecyclePhase) (failures : List AgentFailure) : Except LifecycleError Unit :=
  if failures.isEmpty then .ok () else .error ⟨phase, failures⟩

theorem known_eq_nil_iff (phase : LifecyclePhase) (failures : List AgentFailure) :
    phase.known failures = [] ↔ failures = [] := by
  cases phase <;> cases failures <;> simp [known]

/-- Unless the phase stops at a failure, the others come to be known after it. -/
theorem known_append {phase : LifecyclePhase} {failure? : Option AgentFailure}
    (goesOn : ¬(phase = .start ∧ failure?.isSome)) (failures : List AgentFailure) :
    failure?.toList ++ phase.known failures = phase.known (failure?.toList ++ failures) := by
  cases phase <;> cases failure? <;> simp_all [known]

theorem verdict_eq_ok_iff (phase : LifecyclePhase) (failures : List AgentFailure) :
    phase.verdict failures = .ok () ↔ failures = [] := by
  cases failures <;> simp [verdict]

theorem eq_of_verdict_eq_error {phase : LifecyclePhase} {failures : List AgentFailure}
    {error : LifecycleError} (failed : phase.verdict failures = .error error) :
    error = ⟨phase, failures⟩ := by
  unfold verdict at failed
  split at failed <;> cases failed
  rfl

/-- The agents that a phase comes to, by whether they fail. -/
def reached (fails : α → Bool) : LifecyclePhase → List α → List α
  | start, agents => throughFirst fails agents
  | close, agents => agents

theorem reached_append (fails : α → Bool) (phase : LifecyclePhase) (front back : List α) :
    phase.reached fails (front ++ back) =
      if phase = .start ∧ ∃ agent ∈ front, fails agent then phase.reached fails front
      else phase.reached fails front ++ phase.reached fails back := by
  cases phase with
  | close => rfl
  | start =>
    simp only [reached, true_and]
    split
    · rename_i some
      exact throughFirst_append_of_some some back
    · rename_i none
      have fine : ∀ agent ∈ front, fails agent = false := by simpa using none
      rw [throughFirst_append fine, throughFirst_none fine]

theorem reached_congr {fails others : α → Bool} {phase : LifecyclePhase} {agents : List α}
    (same : ∀ agent ∈ agents, fails agent = others agent) :
    phase.reached fails agents = phase.reached others agents := by
  cases phase with
  | start => exact throughFirst_congr same
  | close => rfl

theorem mem_of_mem_reached {fails : α → Bool} {phase : LifecyclePhase} {agents : List α} {agent : α}
    (member : agent ∈ phase.reached fails agents) : agent ∈ agents := by
  cases phase with
  | start => exact mem_of_mem_throughFirst member
  | close => exact member

/-- The hook of a phase that is called. -/
def exchange : LifecyclePhase → Except (Fault AgentError) Unit → Exchange
  | start => .start
  | close => .close

/-- Calls an agent in a phase. -/
def call [Behaviour ω α] : LifecyclePhase → α → Activity ω (Reply α Unit)
  | start => Behaviour.start
  | close => Behaviour.close

/-- Calls agents in order, as long as the phase goes on, and collects the failures. -/
def visit [Behaviour ω α] : LifecyclePhase → List α → Activity ω (List α × List AgentFailure)
  | start, agents => do
    let (agents, failure?) ← Chain.startEach agents
    return (agents, failure?.toList)
  | close, agents => Chain.closeEach agents

/-- Leads a chain through a phase. -/
def live [Behaviour ω α] : LifecyclePhase → Chain α → Activity ω (Chain α × Except LifecycleError Unit)
  | start => Chain.start
  | close => Chain.close

section Effects

variable [Behaviour ω α] (phase : LifecyclePhase)

theorem visit_nil (world : ω) : (phase.visit ([] : List α)).effect world = (([], []), world) := by
  cases phase <;> rfl

/-- Behind an agent that fails to start no other is called. -/
theorem visit_cons (agent : α) (rest : List α) (world : ω) :
    (phase.visit (agent :: rest)).effect world =
      let (reply, after) := (phase.call agent).effect world
      let failure? := noted (Behaviour.agentId agent) reply.result
      if phase = .start ∧ failure?.isSome then ((reply.agent :: rest, failure?.toList), after)
      else
        let ((others, failures), final) := (phase.visit rest).effect after
        ((reply.agent :: others, failure?.toList ++ failures), final) := by
  cases phase with
  | start =>
    simp only [visit, call, Chain.startEach, Activity.effect_bind, Activity.effect_pure]
    generalize (Behaviour.start agent).effect world = called
    obtain ⟨⟨agent, result⟩, after⟩ := called
    cases result <;> simp [noted, -bind_pure_comp]
  | close =>
    simp only [visit, call, Chain.closeEach, Activity.effect_bind, reduceCtorEq, false_and, if_false]
    generalize (Behaviour.close agent).effect world = called
    obtain ⟨⟨agent, result⟩, after⟩ := called
    cases result <;> simp [noted, -bind_pure_comp]

theorem live_effect (chain : Chain α) (world : ω) :
    (phase.live chain).effect world =
      let ((agents, failures), after) := (phase.visit chain.members).effect world
      ((chain.withMembers agents, phase.verdict failures), after) := by
  cases phase with
  | start =>
    simp only [live, visit, Chain.start, Activity.effect_bind]
    generalize (Chain.startEach chain.members).effect world = called
    obtain ⟨⟨agents, failure?⟩, after⟩ := called
    cases failure? <;> simp [verdict, -bind_pure_comp]
  | close =>
    simp only [live, visit, Chain.close, Activity.effect_bind]
    generalize (Chain.closeEach chain.members).effect world = called
    obtain ⟨⟨agents, failures⟩, after⟩ := called
    cases failures <;> simp [verdict, -bind_pure_comp]

end Effects

section Images

variable {ω' α' : Type} [Behaviour ω α] [Behaviour ω' α'] {image : α → α'} {view : ω → ω'}

/-- The image of an agent does in a view of the world what the agent does in the world. -/
structure Shows (phase : LifecyclePhase) (image : α → α') (view : ω → ω') (agent : α) : Prop where
  agentId : Behaviour.agentId (image agent) = Behaviour.agentId agent
  call : ∀ world, (phase.call (image agent)).effect (view world) =
    let (reply, after) := (phase.call agent).effect world
    (reply.mapAgent image, view after)

variable {phase : LifecyclePhase}

theorem visit_map {agents : List α} (shows : ∀ agent ∈ agents, phase.Shows image view agent)
    (world : ω) :
    (phase.visit (agents.map image)).effect (view world) =
      let ((agents, failures), after) := (phase.visit agents).effect world
      ((agents.map image, failures), view after) := by
  induction agents generalizing world with
  | nil => rw [List.map_nil, visit_nil, visit_nil]; rfl
  | cons agent rest ih =>
    obtain ⟨first, others⟩ := List.forall_mem_cons.mp shows
    rw [List.map_cons, visit_cons, visit_cons, first.call world, first.agentId]
    simp only [Reply.mapAgent, ih others]
    split <;> rfl

/-- A chain of images does in the view of a world what the chain does in the world. -/
theorem live_map {chain : Chain α} (shows : ∀ agent ∈ chain.members, phase.Shows image view agent)
    (world : ω) :
    (phase.live (chain.map image)).effect (view world) =
      let ((chain, result), after) := (phase.live chain).effect world
      ((chain.map image, result), view after) := by
  rw [live_effect, live_effect, Chain.members_map, visit_map shows]
  simp only [Chain.withMembers, Chain.map, ← List.map_take, ← List.map_drop, List.head?_map,
    List.length_map, Option.toList_map]

end Images

end LifecyclePhase

/-- A watched leaf does what the leaf does, and the call is written down. -/
theorem LifecyclePhase.call_watched [Behaviour ω σ] (phase : LifecyclePhase) (leaf : Watched κ σ)
    (watch : Watch κ ω) :
    (phase.call leaf).effect watch =
      let (reply, after) := (phase.call leaf.agent).effect watch.world
      (reply.mapAgent (⟨leaf.label, ·⟩), ⟨after, watch.calls ++
        [⟨leaf.label, Behaviour.agentId leaf.agent, phase.exchange reply.result⟩]⟩) := by
  cases phase <;> rfl

/-- The calls that leaves get in a phase, by the fault in which the call of the leaf under a label ends. -/
def lifeCalls [Behaviour ω σ] (phase : LifecyclePhase) (fault? : κ → Option (Fault AgentError))
    (leaves : List (Watched κ σ)) : List (Call κ) :=
  (phase.reached (fun leaf => (fault? leaf.label).isSome) leaves).map fun leaf =>
    ⟨leaf.label, Behaviour.agentId leaf.agent, phase.exchange ((fault? leaf.label).elim (.ok ()) .error)⟩

section Calls

variable [Behaviour ω σ] (phase : LifecyclePhase)

theorem lifeCalls_append (fault? : κ → Option (Fault AgentError)) (front back : List (Watched κ σ)) :
    lifeCalls phase fault? (front ++ back) =
      if phase = .start ∧ ∃ leaf ∈ front, (fault? leaf.label).isSome then lifeCalls phase fault? front
      else lifeCalls phase fault? front ++ lifeCalls phase fault? back := by
  rw [lifeCalls, LifecyclePhase.reached_append]
  split
  · rfl
  · rw [List.map_append]
    rfl

theorem lifeCalls_congr {fault? other? : κ → Option (Fault AgentError)} {leaves : List (Watched κ σ)}
    (same : ∀ leaf ∈ leaves, fault? leaf.label = other? leaf.label) :
    lifeCalls phase fault? leaves = lifeCalls phase other? leaves := by
  rw [lifeCalls, lifeCalls, LifecyclePhase.reached_congr fun leaf member => by rw [same leaf member]]
  refine List.map_congr_left fun leaf member => ?_
  rw [same leaf (LifecyclePhase.mem_of_mem_reached member)]

end Calls

namespace Agent

/-- The failure of an agent in a phase of its life as its chain notes it, by the faults of its leaves: a
leaf fails with the message of its fault, and a composite with the text of the error of its chain. -/
def failure? [Behaviour ω σ] (phase : LifecyclePhase) (fault? : κ → Option (Fault AgentError)) :
    Agent (Watched κ σ) → Option AgentFailure :=
  fold
    (fun leaf => (fault? leaf.label).map fun fault =>
      ⟨Behaviour.agentId leaf.agent, fault.toAgentError.message⟩)
    fun identity _ chain =>
      match phase.verdict (phase.known (chain.members.filterMap id)) with
      | .ok () => none
      | .error error => some ⟨identity.agentId, error.display⟩

section Failures

variable [Behaviour ω σ] (phase : LifecyclePhase) (fault? : κ → Option (Fault AgentError))

theorem failure?_composite (identity : Identity) (registry : RegistryKey)
    (chain : Chain (Agent (Watched κ σ))) :
    failure? phase fault? (.composite identity registry chain) =
      match phase.verdict (phase.known (chain.members.filterMap (failure? phase fault?))) with
      | .ok () => none
      | .error error => some ⟨identity.agentId, error.display⟩ := by
  rw [failure?, fold_composite, Chain.members_map, List.filterMap_map]
  rfl

theorem failures_ne_nil_iff {agents : List (Agent (Watched κ σ))} (fails : ∀ agent ∈ agents,
      ((failure? phase fault? agent).isSome ↔ ∃ leaf ∈ agent.fringe, (fault? leaf.label).isSome)) :
    agents.filterMap (failure? phase fault?) ≠ [] ↔
      ∃ leaf ∈ agents.flatMap fringe, (fault? leaf.label).isSome := by
  rw [ne_eq, List.filterMap_eq_nil_iff]
  push Not
  simp only [← Option.isSome_iff_ne_none, List.mem_flatMap]
  constructor
  · rintro ⟨agent, member, failed⟩
    obtain ⟨leaf, found, fault⟩ := (fails agent member).mp failed
    exact ⟨leaf, ⟨agent, member, found⟩, fault⟩
  · rintro ⟨leaf, ⟨agent, member, found⟩, fault⟩
    exact ⟨agent, member, (fails agent member).mpr ⟨leaf, found, fault⟩⟩

/-- An agent fails exactly when a leaf in it does. -/
theorem failure?_isSome (agent : Agent (Watched κ σ)) :
    (failure? phase fault? agent).isSome ↔ ∃ leaf ∈ agent.fringe, (fault? leaf.label).isSome := by
  induction agent using inductionOn with
  | leaf agent => simp [failure?, fringe, fold]
  | composite identity registry chain inside =>
    rw [failure?_composite, fringe_composite, Chain.fringe, ← failures_ne_nil_iff phase fault? inside,
      ne_eq, ← phase.known_eq_nil_iff, ← phase.verdict_eq_ok_iff]
    cases phase.verdict _ <;> simp

/-- An agent fails under its own id. -/
theorem failure?_agentId [Clock ω] {agent : Agent (Watched κ σ)} {failure : AgentFailure}
    (failed : failure? phase fault? agent = some failure) :
    failure.agentId = Behaviour.agentId agent := by
  cases agent with
  | leaf agent =>
    obtain ⟨fault, -, rfl⟩ := Option.map_eq_some_iff.mp failed
    rfl
  | composite identity registry chain =>
    rw [failure?_composite] at failed
    split at failed <;> cases failed
    rfl

/-- The failure of an agent is a matter of its own leaves. -/
theorem failure?_congr {fault? other? : κ → Option (Fault AgentError)} {agent : Agent (Watched κ σ)}
    (same : ∀ leaf ∈ agent.fringe, fault? leaf.label = other? leaf.label) :
    failure? phase fault? agent = failure? phase other? agent := by
  induction agent using inductionOn with
  | leaf agent => simp_all [failure?, fringe, fold]
  | composite identity registry chain inside =>
    rw [fringe_composite, Chain.fringe] at same
    have members : chain.members.filterMap (failure? phase fault?) =
        chain.members.filterMap (failure? phase other?) :=
      List.filterMap_congr fun agent member => inside agent member fun leaf found =>
        same leaf (List.mem_flatMap.mpr ⟨agent, member, found⟩)
    rw [failure?_composite, failure?_composite, members]

end Failures

section Calls

variable [Behaviour ω σ] [Clock ω] (phase : LifecyclePhase)

theorem call_leaf (agent : σ) (world : ω) :
    (phase.call (Agent.leaf agent)).effect world =
      let (reply, after) := (phase.call agent).effect world
      (reply.mapAgent .leaf, after) := by
  cases phase <;> rfl

theorem call_composite (identity : Identity) (registry : RegistryKey) (chain : Chain (Agent σ))
    (world : ω) :
    (phase.call (Agent.composite identity registry chain)).effect world =
      let (done, after) := (phase.live chain).effect world
      (lifecycleReply identity registry done, after) := by
  cases phase with
  | start => rw [LifecyclePhase.call, start_composite]; rfl
  | close => rw [LifecyclePhase.call, close_composite]; rfl

/-- A tree does what the same tree does with its leaves watched. -/
theorem shows_erased (agent : Agent (Watched κ σ)) :
    phase.Shows erased (Watch.world : Watch κ ω → ω) agent := by
  induction agent using inductionOn with
  | leaf leaf =>
    refine ⟨rfl, fun watch => ?_⟩
    rw [erased, fold, call_leaf, call_leaf, phase.call_watched]
    rfl
  | composite identity registry chain inside =>
    refine ⟨by rw [erased_composite]; rfl, fun watch => ?_⟩
    rw [erased_composite, call_composite, call_composite, LifecyclePhase.live_map inside]
    generalize (phase.live chain).effect watch = done
    obtain ⟨⟨chain, _ | _⟩, after⟩ := done
    · simp only [lifecycleReply, Reply.raise, Reply.mapAgent, erased_composite]
    · simp only [lifecycleReply, Reply.ok, Reply.mapAgent, erased_composite]

/-- In a phase the leaves of an agent are called as they should be, and the agent fails as they do. -/
def Orderly (agent : Agent (Watched κ σ)) : Prop :=
  ∀ watch : Watch κ ω, ∃ fault? : κ → Option (Fault AgentError),
    let (reply, after) := (phase.call agent).effect watch
    after.calls = watch.calls ++ lifeCalls phase fault? agent.fringe ∧
      noted (Behaviour.agentId agent) reply.result = failure? phase fault? agent

variable {phase}

/-- Agents in a row get the calls of all their leaves. -/
theorem visit_calls {agents : List (Agent (Watched κ σ))}
    (orderly : ∀ agent ∈ agents, Orderly phase agent)
    (apart : ((agents.flatMap fringe).map Watched.label).Nodup) (watch : Watch κ ω) :
    ∃ fault? : κ → Option (Fault AgentError),
      let ((_, failures), after) := (phase.visit agents).effect watch
      after.calls = watch.calls ++ lifeCalls phase fault? (agents.flatMap fringe) ∧
        failures = phase.known (agents.filterMap (failure? phase fault?)) := by
  induction agents generalizing watch with
  | nil =>
    refine ⟨fun _ => none, ?_⟩
    rw [phase.visit_nil]
    cases phase <;> exact ⟨(List.append_nil _).symm, rfl⟩
  | cons agent rest ih =>
    obtain ⟨first, others⟩ := List.forall_mem_cons.mp orderly
    rw [List.flatMap_cons, List.map_append, List.nodup_append'] at apart
    obtain ⟨-, apartRest, disjoint⟩ := apart
    have called := first watch
    rw [phase.visit_cons]
    generalize (phase.call agent).effect watch = step at called
    obtain ⟨⟨agent', result⟩, between⟩ := step
    obtain ⟨one, calls, failed⟩ := called
    dsimp only at calls failed ⊢
    rw [failed, List.flatMap_cons]
    by_cases halts : phase = .start ∧ (failure? phase one agent).isSome
    · -- What would become of the other leaves does not matter.
      rw [if_pos halts]
      refine ⟨one, ?_, ?_⟩
      · rw [lifeCalls_append, if_pos (halts.imp_right (failure?_isSome phase one agent).mp), calls]
      · obtain ⟨rfl, some⟩ := halts
        obtain ⟨failure, fails⟩ := Option.isSome_iff_exists.mp some
        rw [List.filterMap_cons_some fails, fails]
        rfl
    · -- Each leaf ends as it does when its turn comes.
      obtain ⟨other, laterCalls, laterFailures⟩ := ih others apartRest between
      obtain ⟨both, mine, yours⟩ := exists_joint disjoint one other
      have here : ∀ leaf ∈ agent.fringe, both leaf.label = one leaf.label :=
        fun leaf member => mine _ (List.mem_map_of_mem member)
      have there : ∀ leaf ∈ rest.flatMap fringe, both leaf.label = other leaf.label :=
        fun leaf member => yours _ (List.mem_map_of_mem member)
      have same := failure?_congr phase here
      have passes : ¬(phase = .start ∧ ∃ leaf ∈ agent.fringe, (both leaf.label).isSome) := by
        rwa [← failure?_isSome phase, same]
      have restSame : rest.filterMap (failure? phase both) = rest.filterMap (failure? phase other) :=
        List.filterMap_congr fun child member => failure?_congr phase fun leaf found =>
          there leaf (List.mem_flatMap.mpr ⟨child, member, found⟩)
      rw [if_neg halts]
      refine ⟨both, ?_, ?_⟩
      · rw [lifeCalls_append, if_neg passes, lifeCalls_congr phase here, lifeCalls_congr phase there,
          ← List.append_assoc, ← calls]
        exact laterCalls
      · rw [List.filterMap_eq_flatMap_toList, List.flatMap_cons, ← List.filterMap_eq_flatMap_toList,
          restSame, same]
        exact (congrArg _ laterFailures).trans (LifecyclePhase.known_append halts _)

/-- Every tree whose leaves are told apart is orderly. -/
theorem orderly_of_nodup (agent : Agent (Watched κ σ))
    (apart : (agent.fringe.map Watched.label).Nodup) : Orderly phase agent := by
  induction agent using inductionOn with
  | leaf leaf =>
    intro watch
    rw [call_leaf, phase.call_watched]
    generalize (phase.call leaf.agent).effect watch.world = called
    obtain ⟨⟨agent, result⟩, after⟩ := called
    refine ⟨fun _ => match result with | .ok () => none | .error fault => some fault, ?_⟩
    cases phase <;> cases result <;> exact ⟨rfl, rfl⟩
  | composite identity registry chain inside =>
    rw [fringe_composite, Chain.fringe] at apart
    have orderly : ∀ agent ∈ chain.members, Orderly phase agent := fun agent member =>
      inside agent member ((List.nodup_flatMap.mp (List.map_flatMap ▸ apart)).1 agent member)
    intro watch
    obtain ⟨fault?, calls, failures⟩ := visit_calls orderly apart watch
    rw [call_composite, phase.live_effect, fringe_composite]
    refine ⟨fault?, calls, ?_⟩
    rw [failure?_composite, ← failures]
    cases phase.verdict _ <;> rfl

end Calls

end Agent

namespace Chain

variable [Behaviour ω σ]

/-- A phase ends well for a chain if no leaf fails. -/
theorem verdict_eq_ok_iff (phase : LifecyclePhase) (fault? : κ → Option (Fault AgentError))
    (chain : Chain (Agent (Watched κ σ))) :
    phase.verdict (phase.known (chain.members.filterMap (Agent.failure? phase fault?))) = .ok () ↔
      ∀ leaf ∈ chain.fringe, fault? leaf.label = none := by
  have fails := Agent.failures_ne_nil_iff phase fault?
    fun agent (_ : agent ∈ chain.members) => agent.failure?_isSome phase fault?
  rw [phase.verdict_eq_ok_iff, phase.known_eq_nil_iff, ← not_iff_not, ← ne_eq, fails, Chain.fringe]
  push Not
  simp only [Option.isSome_iff_ne_none]

/-- The first agent that fails is the one with the first leaf that does. -/
theorem first_failure {phase : LifecyclePhase} {fault? : κ → Option (Fault AgentError)}
    {agents : List (Agent (Watched κ σ))} {failure : AgentFailure}
    (first : (agents.filterMap (Agent.failure? phase fault?)).head? = some failure) :
    ∃ agent ∈ agents, ∃ leaf ∈ agent.fringe,
      (agents.flatMap Agent.fringe).find? (fun leaf => (fault? leaf.label).isSome) = some leaf ∧
        agent.failure? phase fault? = some failure := by
  rw [List.head?_filterMap, List.findSome?_eq_some_iff] at first
  obtain ⟨front, agent, back, rfl, failed, before⟩ := first
  have fine : (front.flatMap Agent.fringe).find? (fun leaf => (fault? leaf.label).isSome) = none := by
    rw [List.find?_eq_none]
    intro leaf member fault
    obtain ⟨other, here, found⟩ := List.mem_flatMap.mp member
    have fails := (other.failure?_isSome phase fault?).mpr ⟨leaf, found, fault⟩
    rw [before other here] at fails
    cases fails
  have fails := (agent.failure?_isSome phase fault?).mp (Option.isSome_iff_exists.mpr ⟨failure, failed⟩)
  obtain ⟨leaf, found⟩ := Option.isSome_iff_exists.mp (List.find?_isSome.mpr fails)
  refine ⟨agent, by simp, leaf, List.mem_of_find?_eq_some found, ?_, failed⟩
  rw [List.flatMap_append, List.flatMap_cons, List.find?_append, fine, List.find?_append, found]
  rfl

variable [Clock ω]

/-- The agents that have failed are those with a leaf that has. -/
theorem failures_agentIds (phase : LifecyclePhase) (fault? : κ → Option (Fault AgentError))
    (agents : List (Agent (Watched κ σ))) :
    (agents.filterMap (Agent.failure? phase fault?)).map AgentFailure.agentId =
      (agents.filter fun agent => agent.fringe.any fun leaf => (fault? leaf.label).isSome).map
        Behaviour.agentId := by
  induction agents with
  | nil => rfl
  | cons agent rest ih =>
    have fails := agent.failure?_isSome phase fault?
    rw [← List.any_eq_true] at fails
    rw [List.filterMap_cons, List.filter_cons]
    cases failed : agent.failure? phase fault? with
    | none =>
      rw [failed] at fails
      rw [if_neg (by simpa using fails), ← ih]
    | some failure =>
      rw [failed] at fails
      rw [if_pos (fails.mp rfl), List.map_cons, List.map_cons, ih,
        Agent.failure?_agentId phase fault? failed]

/-- The leaves of a chain are called as they should be, and the phase ends for the chain as it does for
them. -/
theorem live_calls (phase : LifecyclePhase) (chain : Chain (Agent σ)) (world : ω) :
    ∃ fault? : List Place → Option (Fault AgentError),
      callsOf (phase.live (chain.located [])) world = lifeCalls phase fault? (chain.located []).fringe ∧
        ((phase.live chain).run world).value.2 = phase.verdict
          (phase.known ((chain.located []).members.filterMap (Agent.failure? phase fault?))) := by
  have orderly : ∀ agent ∈ (chain.located []).members, agent.Orderly phase := fun agent member =>
    agent.orderly_of_nodup
      ((List.nodup_flatMap.mp (List.map_flatMap ▸ chain.nodup_paths [])).1 agent member)
  obtain ⟨fault?, calls, failures⟩ := Agent.visit_calls orderly (chain.nodup_paths []) ⟨world, []⟩
  have watched := phase.live_effect (chain.located []) ⟨world, []⟩
  have shows : ∀ agent ∈ (chain.located []).members,
      phase.Shows Agent.erased (Watch.world : Watch (List Place) ω → ω) agent :=
    fun agent _ => agent.shows_erased phase
  have same := LifecyclePhase.live_map shows ⟨world, []⟩
  refine ⟨fault?, ?_, ?_⟩
  · exact (congrArg (·.2.calls) watched).trans calls
  · rw [chain.erased_located []] at same
    rw [← failures]
    exact (congrArg (·.1.2) same).trans (congrArg (·.1.2) watched)

/-- The life of a chain by its leaves, which are told apart by the paths of places that lead to them. A
start calls the leaves in order up to the first that fails; it succeeds if none does, and otherwise names
the one agent of the chain that holds this leaf. A close calls every leaf once, in order; it succeeds if
none fails, and otherwise lists, in order, exactly the agents of the chain that hold a leaf that fails,
each with its failure: a leaf with the message of its fault, and a composite with the text of the error of
its own chain. The reports of the chain are those of the same leaves in the same order. -/
theorem lifecycle_reaches_the_leaves (chain : Chain (Agent σ)) (world : ω) :
    let located := chain.located []
    let leaves := located.fringe
    located.map Agent.erased = chain ∧ leaves.map Watched.agent = chain.fringe ∧
      (leaves.map Watched.label).Nodup ∧
    (∃ fault? : List Place → Option (Fault AgentError),
      let result := (chain.start.run world).value.2
      callsOf located.start world = lifeCalls .start fault? leaves ∧
      (result = .ok () ↔ ∀ leaf ∈ leaves, fault? leaf.label = none) ∧
      ∀ error, result = .error error → ∃ child ∈ located.members, ∃ leaf ∈ child.fringe, ∃ failure,
        leaves.find? (fun leaf => (fault? leaf.label).isSome) = some leaf ∧
          child.failure? .start fault? = some failure ∧
            failure.agentId = Behaviour.agentId child ∧ error = ⟨.start, [failure]⟩) ∧
    (∃ fault? : List Place → Option (Fault AgentError),
      let result := (chain.close.run world).value.2
      callsOf located.close world = lifeCalls .close fault? leaves ∧
      (result = .ok () ↔ ∀ leaf ∈ leaves, fault? leaf.label = none) ∧
      ∀ error, result = .error error →
        error = ⟨.close, located.members.filterMap (Agent.failure? .close fault?)⟩ ∧
          error.agentIds = (located.members.filter fun child =>
            child.fringe.any fun leaf => (fault? leaf.label).isSome).map Behaviour.agentId) ∧
    chain.status = leaves.flatMap fun leaf => Behaviour.status leaf.agent := by
  refine ⟨chain.erased_located [], chain.fringe_located [], chain.nodup_paths [], ?_, ?_, ?_⟩
  · obtain ⟨fault?, calls, result⟩ := live_calls .start chain world
    have ok := verdict_eq_ok_iff .start fault? (chain.located [])
    rw [← result] at ok
    refine ⟨fault?, calls, ok, fun error failed => ?_⟩
    have ends := result.symm.trans failed
    have told := LifecyclePhase.eq_of_verdict_eq_error ends
    -- A start that fails has met a failure, and no more than one.
    cases first : ((chain.located []).members.filterMap (Agent.failure? .start fault?)).head? with
    | none =>
      rw [LifecyclePhase.known, first] at ends
      cases ends
    | some failure =>
      obtain ⟨child, member, leaf, found, firstLeaf, fails⟩ := first_failure first
      refine ⟨child, member, leaf, found, failure, firstLeaf, fails,
        Agent.failure?_agentId .start fault? fails, ?_⟩
      rw [told, LifecyclePhase.known, first]
      rfl
  · obtain ⟨fault?, calls, result⟩ := live_calls .close chain world
    have ok := verdict_eq_ok_iff .close fault? (chain.located [])
    rw [← result] at ok
    refine ⟨fault?, calls, ok, fun error failed => ?_⟩
    have told := LifecyclePhase.eq_of_verdict_eq_error (result.symm.trans failed)
    refine ⟨told, ?_⟩
    rw [told]
    exact failures_agentIds .close fault? _
  · rw [chain.status_eq_fringe, ← chain.fringe_located [], List.flatMap_map]

end Chain

end Conveyor
