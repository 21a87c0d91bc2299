import Conveyor.Agent.Tree

/-!
A composite (`CompositeAgentProcessor`) does exactly what its chain does. The hooks of a tree are
defined by levels; the main statements of this module say that the level does not show:
`start_composite`, `close_composite`, `process_composite` and `status_composite` give the hooks of a
composite by the operations of its chain, whose agents are trees again. They follow from one general
fact: two kinds of hooks that agree on a class of agents, which calls do not leave, make chains of such
agents do the same.
-/

namespace Conveyor

/-- Two kinds of hooks do the same to all agents of a class. -/
structure Agree {ω α : Type} (inside : α → Prop) (one other : Behaviour ω α) : Prop where
  agentId : ∀ {agent}, inside agent → one.agentId agent = other.agentId agent
  status : ∀ {agent}, inside agent → one.status agent = other.status agent
  start : ∀ {agent}, inside agent → one.start agent = other.start agent
  close : ∀ {agent}, inside agent → one.close agent = other.close agent
  process : ∀ {agent} records, inside agent → one.process records agent = other.process records agent

/-- Calls do not lead out of a class of agents. -/
structure Stays {ω α : Type} (inside : α → Prop) (hooks : Behaviour ω α) : Prop where
  start : ∀ {agent} world, inside agent → inside ((hooks.start agent).run world).value.agent
  close : ∀ {agent} world, inside agent → inside ((hooks.close agent).run world).value.agent
  process : ∀ {agent} records world, inside agent →
    inside ((hooks.process records agent).run world).value.agent

namespace Chain

variable {ω α : Type} {inside : α → Prop} {one other : Behaviour ω α}

theorem startEach_agree (agree : Agree inside one other) {agents : List α}
    (all : ∀ agent ∈ agents, inside agent) :
    @startEach ω α one agents = @startEach ω α other agents := by
  induction agents with
  | nil => rfl
  | cons agent rest ih =>
    simp only [List.forall_mem_cons] at all
    simp only [startEach, agree.start all.1, agree.agentId all.1, ih all.2]

theorem closeEach_agree (agree : Agree inside one other) {agents : List α}
    (all : ∀ agent ∈ agents, inside agent) :
    @closeEach ω α one agents = @closeEach ω α other agents := by
  induction agents with
  | nil => rfl
  | cons agent rest ih =>
    simp only [List.forall_mem_cons] at all
    simp only [closeEach, agree.close all.1, agree.agentId all.1, ih all.2]

theorem start_agree (agree : Agree inside one other) {chain : Chain α}
    (all : ∀ agent ∈ chain.members, inside agent) :
    @start ω α one chain = @start ω α other chain := by
  simp only [start, startEach_agree agree all]

theorem close_agree (agree : Agree inside one other) {chain : Chain α}
    (all : ∀ agent ∈ chain.members, inside agent) :
    @close ω α one chain = @close ω α other chain := by
  simp only [close, closeEach_agree agree all]

theorem status_agree (agree : Agree inside one other) {chain : Chain α}
    (all : ∀ agent ∈ chain.members, inside agent) :
    @status ω α one chain = @status ω α other chain := by
  simp only [status, List.flatMap]
  exact congrArg _ (List.map_congr_left fun agent member => agree.status (all agent member))

theorem invoke_agree (agree : Agree inside one other) {agent : α} (holds : inside agent)
    (records : List Handle) :
    @invoke ω α one agent records = @invoke ω α other agent records := by
  simp only [invoke, agree.process records holds, agree.agentId holds]

theorem invoke_stays (stays : Stays inside other) {agent : α} (holds : inside agent)
    (records : List Handle) (world : ω) :
    inside ((@invoke ω α other agent records).run world).value.1 := by
  have kept := stays.process records world holds
  simp only [invoke, Activity.run_bind]
  split <;> simpa using kept

theorem firstStage_agree (agree : Agree inside one other) {agent : α} (holds : inside agent)
    (records : List Handle) :
    @firstStage ω α one agent records = @firstStage ω α other agent records := by
  simp only [firstStage, invoke_agree agree holds, agree.agentId holds]

theorem firstStage_stays (stays : Stays inside other) {agent : α} (holds : inside agent)
    (records : List Handle) (world : ω) :
    inside ((@firstStage ω α other agent records).run world).value.1 := by
  have kept := invoke_stays stays holds records world
  simp only [firstStage, Activity.run_bind]
  revert kept
  generalize ((@invoke ω α other agent records).run world).value = outcome
  obtain ⟨processor, result⟩ := outcome
  intro kept
  cases result with
  | error error => simpa using kept
  | ok answers => dsimp only; split <;> simpa using kept

theorem advance_agree (agree : Agree inside one other) {agent : α} (holds : inside agent)
    (stage : Nat) (outcome : Outcome) :
    @advance ω α one stage agent outcome = @advance ω α other stage agent outcome := by
  cases outcome <;> simp only [advance, invoke_agree agree holds]

theorem advance_stays (stays : Stays inside other) {agent : α} (holds : inside agent)
    (stage : Nat) (outcome : Outcome) (world : ω) :
    inside ((@advance ω α other stage agent outcome).run world).value.1 := by
  cases outcome with
  | failed error => simpa [advance] using holds
  | records records =>
    have kept := invoke_stays stays holds records world
    simp only [advance, Activity.run_bind]
    revert kept
    generalize ((@invoke ω α other agent records).run world).value = outcome
    obtain ⟨processor, result⟩ := outcome
    intro kept
    cases result <;> simpa using kept

theorem laterStage_agree (agree : Agree inside one other) (stays : Stays inside other)
    {agent : α} (holds : inside agent) (stage : Nat) (entries : List Entry) :
    @laterStage ω α one stage agent entries = @laterStage ω α other stage agent entries := by
  induction entries generalizing agent with
  | nil => rfl
  | cons entry rest ih =>
    simp only [laterStage, advance_agree agree holds]
    exact Activity.bind_congr fun world => by
      rw [ih (advance_stays stays holds stage entry.outcome world)]

theorem laterStage_stays (stays : Stays inside other) {agent : α} (holds : inside agent)
    (stage : Nat) (entries : List Entry) (world : ω) :
    inside ((@laterStage ω α other stage agent entries).run world).value.1 := by
  induction entries generalizing agent world with
  | nil => simpa [laterStage] using holds
  | cons entry rest ih =>
    simp only [laterStage, Activity.run_bind]
    exact ih (advance_stays stays holds stage entry.outcome world) _

theorem laterStages_agree (agree : Agree inside one other) (stays : Stays inside other)
    {agents : List α} (all : ∀ agent ∈ agents, inside agent) (stage : Nat)
    (entries : List Entry) :
    @laterStages ω α one stage agents entries = @laterStages ω α other stage agents entries := by
  induction agents generalizing stage entries with
  | nil => rfl
  | cons agent rest ih =>
    simp only [List.forall_mem_cons] at all
    simp only [laterStages, laterStage_agree agree stays all.1, ih all.2]

theorem laterStages_stays (stays : Stays inside other) {agents : List α}
    (all : ∀ agent ∈ agents, inside agent) (stage : Nat) (entries : List Entry) (world : ω) :
    ∀ agent ∈ ((@laterStages ω α other stage agents entries).run world).value.1,
      inside agent := by
  induction agents generalizing stage entries world with
  | nil => simp [laterStages]
  | cons agent rest ih =>
    simp only [List.forall_mem_cons] at all
    simp only [laterStages, Activity.run_bind, Activity.run_pure, List.forall_mem_cons]
    exact ⟨laterStage_stays stays all.1 stage entries world, ih all.2 _ _ _⟩

theorem runStages_agree (agree : Agree inside one other) (stays : Stays inside other)
    {agents : List α} (all : ∀ agent ∈ agents, inside agent) (records : List Handle) :
    @runStages ω α one agents records = @runStages ω α other agents records := by
  cases agents with
  | nil => rfl
  | cons agent rest =>
    simp only [List.forall_mem_cons] at all
    simp only [runStages, firstStage_agree agree all.1, laterStages_agree agree stays all.2]

theorem runStages_stays (stays : Stays inside other) {agents : List α}
    (all : ∀ agent ∈ agents, inside agent) (records : List Handle) (world : ω) :
    ∀ agent ∈ ((@runStages ω α other agents records).run world).value.1, inside agent := by
  cases agents with
  | nil => simp [runStages]
  | cons agent rest =>
    simp only [List.forall_mem_cons] at all
    simp only [runStages, Activity.run_bind]
    split
    · simp only [Activity.run_bind, Activity.run_pure, List.forall_mem_cons]
      exact ⟨firstStage_stays stays all.1 records world, laterStages_stays stays all.2 _ _ _⟩
    · simp only [Activity.run_pure, List.forall_mem_cons]
      exact ⟨firstStage_stays stays all.1 records world, all.2⟩

/-- Starting keeps the number of agents, and calls do not lead out of their class. -/
theorem startEach_stays (stays : Stays inside other) {agents : List α}
    (all : ∀ agent ∈ agents, inside agent) (world : ω) :
    let after := ((@startEach ω α other agents).run world).value.1
    after.length = agents.length ∧ ∀ agent ∈ after, inside agent := by
  induction agents generalizing world with
  | nil => simp [startEach]
  | cons agent rest ih =>
    simp only [List.forall_mem_cons] at all
    have kept := stays.start world all.1
    simp only [startEach, Activity.run_bind]
    split
    · simpa using ⟨kept, all.2⟩
    · have after := ih all.2 (((other.start agent).run world).world)
      simpa using ⟨after.1, kept, after.2⟩

/-- Closing keeps the number of agents, and calls do not lead out of their class. -/
theorem closeEach_stays (stays : Stays inside other) {agents : List α}
    (all : ∀ agent ∈ agents, inside agent) (world : ω) :
    let after := ((@closeEach ω α other agents).run world).value.1
    after.length = agents.length ∧ ∀ agent ∈ after, inside agent := by
  induction agents generalizing world with
  | nil => simp [closeEach]
  | cons agent rest ih =>
    simp only [List.forall_mem_cons] at all
    have kept := stays.close world all.1
    have after := ih all.2 (((other.close agent).run world).world)
    simp only [closeEach, Activity.run_bind]
    split
    · simpa using ⟨after.1, kept, after.2⟩
    · simpa using ⟨after.1, kept, after.2⟩

theorem members_withMembers_stay {chain : Chain α} {agents : List α}
    (kept : agents.length = chain.members.length ∧ ∀ agent ∈ agents, inside agent) :
    ∀ agent ∈ (chain.withMembers agents).members, inside agent := by
  rw [members_withMembers chain agents kept.1]
  exact kept.2

theorem start_stays (stays : Stays inside other) {chain : Chain α}
    (all : ∀ agent ∈ chain.members, inside agent) (world : ω) :
    ∀ agent ∈ ((@start ω α other chain).run world).value.1.members, inside agent := by
  have kept := startEach_stays stays all world
  simp only [start, Activity.run_bind]
  split <;> simpa using members_withMembers_stay kept

theorem close_stays (stays : Stays inside other) {chain : Chain α}
    (all : ∀ agent ∈ chain.members, inside agent) (world : ω) :
    ∀ agent ∈ ((@close ω α other chain).run world).value.1.members, inside agent := by
  have kept := closeEach_stays stays all world
  simp only [close, Activity.run_bind]
  split <;> simpa using members_withMembers_stay kept

theorem process_agree [Clock ω] (agree : Agree inside one other) (stays : Stays inside other)
    {chain : Chain α} (all : ∀ agent ∈ chain.members, inside agent) (records : List Handle) :
    @process ω α one _ chain records = @process ω α other _ chain records := by
  have processors : ∀ agent ∈ chain.processors, inside agent := fun agent member =>
    all agent (by simp [members, member])
  simp only [process, runStages_agree agree stays processors]

theorem process_stays [Clock ω] (stays : Stays inside other) {chain : Chain α}
    (all : ∀ agent ∈ chain.members, inside agent) (records : List Handle) (world : ω) :
    ∀ agent ∈ ((@process ω α other _ chain records).run world).value.1.members, inside agent := by
  simp only [members, List.forall_mem_append] at all
  have kept := runStages_stays stays all.1.2 records world
  simp only [process, Activity.run_bind, Activity.run_look, Activity.run_log, Activity.run_pure,
    members, List.forall_mem_append]
  exact ⟨⟨all.1.1, kept⟩, all.2⟩

end Chain

namespace Agent

variable {ω σ : Type}

theorem depth_le_endDepth {side? : Option (Agent σ)} {agent : Agent σ}
    (member : agent ∈ side?.toList) : agent.depth ≤ endDepth side? := by
  cases side? with
  | none => simp at member
  | some other => simp_all [endDepth]

theorem depth_le_listDepth {agents : List (Agent σ)} {agent : Agent σ} (member : agent ∈ agents) :
    agent.depth ≤ listDepth agents := by
  induction agents with
  | nil => simp at member
  | cons first rest ih =>
    rw [listDepth]
    rcases List.mem_cons.mp member with rfl | later
    · exact Nat.le_max_left _ _
    · exact Nat.le_trans (ih later) (Nat.le_max_right _ _)

/-- The agents of a chain are no deeper than the chain. -/
theorem depth_le_chainDepth {chain : Chain (Agent σ)} {agent : Agent σ}
    (member : agent ∈ chain.members) : agent.depth ≤ chainDepth chain := by
  obtain ⟨source?, processors, sink?, metrics⟩ := chain
  simp only [Chain.members, List.mem_append] at member
  rw [chainDepth]
  rcases member with (source | processor) | sink
  · have := depth_le_endDepth source; omega
  · have := depth_le_listDepth processor; omega
  · have := depth_le_endDepth sink; omega

theorem endDepth_le {side? : Option (Agent σ)} {bound : Nat}
    (all : ∀ agent ∈ side?.toList, agent.depth ≤ bound) : endDepth side? ≤ bound := by
  cases side? with
  | none => simp [endDepth]
  | some other => simpa [endDepth] using all

theorem listDepth_le {agents : List (Agent σ)} {bound : Nat}
    (all : ∀ agent ∈ agents, agent.depth ≤ bound) : listDepth agents ≤ bound := by
  induction agents with
  | nil => simp [listDepth]
  | cons first rest ih =>
    simp only [List.forall_mem_cons] at all
    exact Nat.max_le.mpr ⟨all.1, ih all.2⟩

/-- A chain is as deep as its agents. -/
theorem chainDepth_le {chain : Chain (Agent σ)} {bound : Nat}
    (all : ∀ agent ∈ chain.members, agent.depth ≤ bound) : chainDepth chain ≤ bound := by
  obtain ⟨source?, processors, sink?, metrics⟩ := chain
  simp only [Chain.members, List.forall_mem_append] at all
  have := endDepth_le all.1.1
  have := listDepth_le all.1.2
  have := endDepth_le all.2
  rw [chainDepth]
  omega

variable [Behaviour ω σ] [Clock ω]

/-- A chain inside a tree is less deep than the tree. -/
theorem members_of_depth_le {identity : Identity} {registry : RegistryKey}
    {chain : Chain (Agent σ)} {level : Nat}
    (bound : (Agent.composite identity registry chain).depth ≤ level + 1) :
    ∀ agent ∈ chain.members, agent.depth ≤ level := fun _ member =>
  Nat.le_trans (depth_le_chainDepth member) (Nat.le_of_succ_le_succ (by simpa [depth] using bound))

section Within

variable (level : Nat) (agent : σ) (records : List Handle)

theorem start_within_leaf :
    (hooksWithin level).start (Agent.leaf agent) =
      (do return (← Behaviour.start agent).mapAgent .leaf : Activity ω (Reply (Agent σ) Unit)) := by
  cases level <;> rfl

theorem close_within_leaf :
    (hooksWithin level).close (Agent.leaf agent) =
      (do return (← Behaviour.close agent).mapAgent .leaf : Activity ω (Reply (Agent σ) Unit)) := by
  cases level <;> rfl

theorem process_within_leaf :
    (hooksWithin level).process records (Agent.leaf agent) =
      (do return (← Behaviour.process records agent).mapAgent .leaf :
        Activity ω (Reply (Agent σ) (List Entry))) := by
  cases level <;> rfl

variable (identity : Identity) (registry : RegistryKey) (chain : Chain (Agent σ))

theorem start_within_composite :
    (hooksWithin (level + 1)).start (Agent.composite identity registry chain) =
      (do return lifecycleReply identity registry (← @Chain.start ω _ (hooksWithin level) chain) :
        Activity ω (Reply (Agent σ) Unit)) := rfl

theorem close_within_composite :
    (hooksWithin (level + 1)).close (Agent.composite identity registry chain) =
      (do return lifecycleReply identity registry (← @Chain.close ω _ (hooksWithin level) chain) :
        Activity ω (Reply (Agent σ) Unit)) := rfl

theorem process_within_composite :
    (hooksWithin (level + 1)).process records (Agent.composite identity registry chain) =
      (do
        let (chain, results) ← @Chain.process ω _ (hooksWithin level) _ chain records
        return .ok (.composite identity registry chain) results :
        Activity ω (Reply (Agent σ) (List Entry))) := rfl

end Within

/-- What a composite makes of its chain is as deep as that chain. -/
theorem depth_lifecycleReply (identity : Identity) (registry : RegistryKey)
    (outcome : Chain (Agent σ) × Except LifecycleError Unit) :
    (lifecycleReply identity registry outcome).agent.depth = chainDepth outcome.1 + 1 := by
  obtain ⟨chain, result⟩ := outcome
  cases result <;> rfl

/-- Calls do not make a tree deeper. -/
theorem hooksWithin_stays (level : Nat) :
    Stays (fun agent : Agent σ => agent.depth ≤ level) (hooksWithin (ω := ω) level) := by
  induction level with
  | zero =>
    constructor <;> intro agent <;> intros <;> cases agent <;>
      simp_all [depth, Reply.mapAgent, start_within_leaf, close_within_leaf, process_within_leaf]
  | succ level ih =>
    constructor
    · intro agent world bound
      cases agent with
      | leaf agent => simp [depth, Reply.mapAgent, start_within_leaf]
      | composite identity registry chain =>
        have kept := Chain.start_stays ih (members_of_depth_le bound) world
        simpa [start_within_composite, depth_lifecycleReply] using chainDepth_le kept
    · intro agent world bound
      cases agent with
      | leaf agent => simp [depth, Reply.mapAgent, close_within_leaf]
      | composite identity registry chain =>
        have kept := Chain.close_stays ih (members_of_depth_le bound) world
        simpa [close_within_composite, depth_lifecycleReply] using chainDepth_le kept
    · intro agent records world bound
      cases agent with
      | leaf agent => simp [depth, Reply.mapAgent, process_within_leaf]
      | composite identity registry chain =>
        have kept := Chain.process_stays ih (members_of_depth_le bound) records world
        simpa [process_within_composite, Reply.ok, depth] using chainDepth_le kept

/-- A level that is high enough for a tree does to it what any higher level does. -/
theorem hooksWithin_agree {level higher : Nat} (order : level ≤ higher) :
    Agree (fun agent : Agent σ => agent.depth ≤ level)
      (hooksWithin (ω := ω) higher) (hooksWithin level) := by
  induction level generalizing higher with
  | zero =>
    have leaves : ∀ {agent : Agent σ}, agent.depth ≤ 0 → ∃ leaf, agent = .leaf leaf := fun {agent} bound => by
      cases agent with
      | leaf leaf => exact ⟨leaf, rfl⟩
      | composite => simp [depth] at bound
    cases higher <;> constructor <;> intros <;> obtain ⟨leaf, rfl⟩ := leaves ‹_› <;> rfl
  | succ level ih =>
    obtain ⟨higher, rfl⟩ : ∃ lower, higher = lower + 1 := ⟨higher - 1, by omega⟩
    have inner := ih (Nat.le_of_succ_le_succ order)
    constructor <;> intro agent
    · intro bound
      cases agent <;> rfl
    · intro bound
      cases agent with
      | leaf agent => rfl
      | composite identity registry chain =>
        exact Chain.status_agree inner (members_of_depth_le bound)
    · intro bound
      cases agent with
      | leaf agent => rfl
      | composite identity registry chain =>
        rw [start_within_composite, start_within_composite,
          Chain.start_agree inner (members_of_depth_le bound)]
    · intro bound
      cases agent with
      | leaf agent => rfl
      | composite identity registry chain =>
        rw [close_within_composite, close_within_composite,
          Chain.close_agree inner (members_of_depth_le bound)]
    · intro records bound
      cases agent with
      | leaf agent => rfl
      | composite identity registry chain =>
        rw [process_within_composite, process_within_composite,
          Chain.process_agree inner (hooksWithin_stays level) (members_of_depth_le bound)]

/-- The hooks of trees are those of any level that is high enough. -/
theorem agree_hooksWithin (level : Nat) :
    Agree (fun agent : Agent σ => agent.depth ≤ level) (inferInstance : Behaviour ω (Agent σ))
      (hooksWithin level) where
  agentId bound := ((hooksWithin_agree bound).agentId (Nat.le_refl _)).symm
  status bound := ((hooksWithin_agree bound).status (Nat.le_refl _)).symm
  start bound := ((hooksWithin_agree bound).start (Nat.le_refl _)).symm
  close bound := ((hooksWithin_agree bound).close (Nat.le_refl _)).symm
  process records bound := ((hooksWithin_agree bound).process records (Nat.le_refl _)).symm

section Composite

variable (identity : Identity) (registry : RegistryKey) (chain : Chain (Agent σ))

@[simp] theorem agentId_leaf (agent : σ) :
    Behaviour.agentId (Agent.leaf agent) = Behaviour.agentId agent := rfl

@[simp] theorem agentId_composite :
    Behaviour.agentId (Agent.composite identity registry chain) = identity.agentId := rfl

@[simp] theorem status_leaf (agent : σ) :
    Behaviour.status (Agent.leaf agent) = Behaviour.status agent := rfl

/-- A composite reports what its agents report. -/
@[simp] theorem status_composite :
    Behaviour.status (Agent.composite identity registry chain) = chain.status :=
  (Chain.status_agree (agree_hooksWithin (chainDepth chain))
    fun _ member => depth_le_chainDepth member).symm

@[simp] theorem start_leaf (agent : σ) :
    Behaviour.start (Agent.leaf agent) =
      (do return (← Behaviour.start agent).mapAgent .leaf : Activity ω (Reply (Agent σ) Unit)) := rfl

/-- A composite starts by starting its chain. -/
@[simp] theorem start_composite :
    Behaviour.start (Agent.composite identity registry chain) =
      (do return lifecycleReply identity registry (← chain.start) :
        Activity ω (Reply (Agent σ) Unit)) := by
  rw [Chain.start_agree (agree_hooksWithin (chainDepth chain))
    fun _ member => depth_le_chainDepth member]
  rfl

@[simp] theorem close_leaf (agent : σ) :
    Behaviour.close (Agent.leaf agent) =
      (do return (← Behaviour.close agent).mapAgent .leaf : Activity ω (Reply (Agent σ) Unit)) := rfl

/-- A composite closes by closing its chain. -/
@[simp] theorem close_composite :
    Behaviour.close (Agent.composite identity registry chain) =
      (do return lifecycleReply identity registry (← chain.close) :
        Activity ω (Reply (Agent σ) Unit)) := by
  rw [Chain.close_agree (agree_hooksWithin (chainDepth chain))
    fun _ member => depth_le_chainDepth member]
  rfl

@[simp] theorem process_leaf (agent : σ) (records : List Handle) :
    Behaviour.process records (Agent.leaf agent) =
      (do return (← Behaviour.process records agent).mapAgent .leaf :
        Activity ω (Reply (Agent σ) (List Entry))) := rfl

/-- A composite answers a batch with what its chain makes of it. -/
@[simp] theorem process_composite (records : List Handle) :
    Behaviour.process records (Agent.composite identity registry chain) =
      (do
        let (chain, results) ← chain.process records
        return .ok (.composite identity registry chain) results :
        Activity ω (Reply (Agent σ) (List Entry))) := by
  rw [Chain.process_agree (agree_hooksWithin (chainDepth chain))
    (hooksWithin_stays (chainDepth chain)) fun _ member => depth_le_chainDepth member]
  rfl

end Composite

end Agent

end Conveyor
