import Conveyor.Agent.Nesting
import Conveyor.Proofs.Watching
import Mathlib.Data.List.Nodup

/-! Trees of agents by their leaves. A fold goes through a tree from the leaves up, and what it makes of a
composite depends only on what it has made of the agents inside, in their places. The fringe of a tree is
such a fold: all its leaves in the order in which a chain goes through its agents, the source, the
processors and the sink, with whatever a composite holds in its place. Every leaf is found at a path of
places, and no two leaves at the same. -/
namespace Conveyor

variable {ω σ α β γ κ : Type}

namespace Chain

/-- The chain with something else in the place of every agent. -/
def map (f : α → β) (chain : Chain α) : Chain β where
  source? := chain.source?.map f
  processors := chain.processors.map f
  sink? := chain.sink?.map f
  metrics := chain.metrics

/-- The agents of a chain in order, each with its place. -/
def placed (chain : Chain α) : Chain (Place × α) where
  source? := chain.source?.map (.source, ·)
  processors := chain.processors.zipIdx.map fun (agent, position) => (.processor position, agent)
  sink? := chain.sink?.map (.sink, ·)
  metrics := chain.metrics

theorem members_map (f : α → β) (chain : Chain α) : (chain.map f).members = chain.members.map f := by
  obtain ⟨source?, processors, sink?, metrics⟩ := chain
  cases source? <;> cases sink? <;> simp [map, members]

theorem map_congr {f g : α → β} {chain : Chain α} (same : ∀ agent ∈ chain.members, f agent = g agent) :
    chain.map f = chain.map g := by
  obtain ⟨source?, processors, sink?, metrics⟩ := chain
  cases source? <;> cases sink? <;> simp_all [map, members]

theorem map_map (f : α → β) (g : β → γ) (chain : Chain α) : (chain.map f).map g = chain.map (g ∘ f) := by
  simp [map]

/-- Without the places there are just the agents. -/
theorem placed_map_snd (chain : Chain α) : chain.placed.map Prod.snd = chain := by
  simp [placed, map, Function.comp_def]

theorem placed_map (f : α → β) (chain : Chain α) :
    (chain.map f).placed = chain.placed.map fun (place, agent) => (place, f agent) := by
  simp [placed, map, Function.comp_def, List.zipIdx_map]

theorem snd_mem_of_mem_placed {chain : Chain α} {place : Place} {agent : α}
    (member : (place, agent) ∈ chain.placed.members) : agent ∈ chain.members := by
  have images := members_map Prod.snd chain.placed
  rw [placed_map_snd] at images
  rw [images]
  exact List.mem_map_of_mem member

/-- No two agents of a chain have the same place. -/
theorem nodup_places (chain : Chain α) : (chain.placed.members.map Prod.fst).Nodup := by
  have numbered : (chain.processors.zipIdx.map (Place.processor ∘ Prod.snd)).Nodup := by
    rw [← List.map_map, List.zipIdx_map_snd]
    exact List.Nodup.map (fun _ _ same => by cases same; rfl) List.nodup_range'
  have places : chain.placed.members.map Prod.fst = chain.source?.toList.map (fun _ => .source) ++
      chain.processors.zipIdx.map (Place.processor ∘ Prod.snd) ++
        chain.sink?.toList.map fun _ => .sink := by
    obtain ⟨source?, processors, sink?, metrics⟩ := chain
    cases source? <;> cases sink? <;> simp [placed, members, Function.comp_def]
  have between : ∀ place ∈ chain.processors.zipIdx.map (Place.processor ∘ Prod.snd),
      place ≠ .source ∧ place ≠ .sink := by
    intro place member
    obtain ⟨_, -, rfl⟩ := List.mem_map.mp member
    simp
  rw [places, List.nodup_append, List.nodup_append]
  cases chain.source? <;> cases chain.sink? <;> grind

end Chain

namespace Agent

mutual

/-- Folds a tree: leaves by one function, and composites by another from their folded agents. -/
def fold (leaf : σ → β) (node : Identity → RegistryKey → Chain β → β) : Agent σ → β
  | .leaf agent => leaf agent
  | .composite identity registry chain => node identity registry (foldChain leaf node chain)

/-- Folds the agents of a chain. -/
def foldChain (leaf : σ → β) (node : Identity → RegistryKey → Chain β → β) :
    Chain (Agent σ) → Chain β
  | ⟨source?, processors, sink?, metrics⟩ =>
    ⟨foldEnd leaf node source?, foldList leaf node processors, foldEnd leaf node sink?, metrics⟩

/-- Folds an end of a chain. -/
def foldEnd (leaf : σ → β) (node : Identity → RegistryKey → Chain β → β) : Option (Agent σ) → Option β
  | none => none
  | some agent => some (fold leaf node agent)

/-- Folds the agents of a list. -/
def foldList (leaf : σ → β) (node : Identity → RegistryKey → Chain β → β) : List (Agent σ) → List β
  | [] => []
  | agent :: rest => fold leaf node agent :: foldList leaf node rest

end

section Fold

variable (leaf : σ → β) (node : Identity → RegistryKey → Chain β → β)

theorem foldChain_eq (chain : Chain (Agent σ)) :
    foldChain leaf node chain = chain.map (fold leaf node) := by
  have ends : ∀ side?, foldEnd leaf node side? = side?.map (fold leaf node) := by
    intro side?
    cases side? <;> rfl
  have list : ∀ agents, foldList leaf node agents = agents.map (fold leaf node) := by
    intro agents
    induction agents with
    | nil => rfl
    | cons agent rest ih => rw [foldList, ih, List.map_cons]
  rw [foldChain, ends, ends, list, Chain.map]

theorem fold_composite (identity : Identity) (registry : RegistryKey) (chain : Chain (Agent σ)) :
    fold leaf node (.composite identity registry chain) =
      node identity registry (chain.map (fold leaf node)) := by
  rw [fold, foldChain_eq]

end Fold

/-- What holds of every leaf, and of a composite if it holds of the agents inside, holds of all trees. -/
theorem inductionOn {motive : Agent σ → Prop} (agent : Agent σ) (leaf : ∀ agent, motive (.leaf agent))
    (composite : ∀ identity registry (chain : Chain (Agent σ)),
      (∀ agent ∈ chain.members, motive agent) → motive (.composite identity registry chain)) :
    motive agent := by
  induction level : agent.depth using Nat.strongRecOn generalizing agent with
  | ind level ih =>
    subst level
    cases agent with
    | leaf agent => exact leaf agent
    | composite identity registry chain =>
      refine composite identity registry chain fun agent member => ih _ ?_ agent rfl
      exact Nat.lt_succ_of_le (depth_le_chainDepth member)

/-- All leaves of a tree, depth first. -/
def fringe : Agent σ → List σ :=
  fold (fun agent => [agent]) fun _ _ chain => chain.members.flatten

/-- A tree whose leaves are watched, each under the path of places that leads to it from the top. -/
def located : Agent σ → List Place → Agent (Watched (List Place) σ) :=
  fold (fun agent path => .leaf ⟨path, agent⟩) fun identity registry chain path =>
    .composite identity registry (chain.placed.map fun (place, within) => within (path ++ [place]))

/-- The tree with its leaves not watched any more. -/
def erased : Agent (Watched κ σ) → Agent σ :=
  fold (fun watched => .leaf watched.agent) .composite

end Agent

namespace Chain

/-- The leaves of the agents of a chain, in order. -/
def fringe (chain : Chain (Agent σ)) : List σ :=
  chain.members.flatMap Agent.fringe

/-- The chain with all leaves watched under the paths that lead to them, behind a path that leads to the
chain. -/
def located (chain : Chain (Agent σ)) (path : List Place) : Chain (Agent (Watched (List Place) σ)) :=
  chain.placed.map fun (place, agent) => agent.located (path ++ [place])

end Chain

namespace Agent

section Composite

variable (identity : Identity) (registry : RegistryKey)

theorem fringe_composite (chain : Chain (Agent σ)) :
    (Agent.composite identity registry chain).fringe = chain.fringe := by
  rw [fringe, fold_composite, Chain.members_map, Chain.fringe, List.flatMap_def]
  rfl

theorem located_composite (chain : Chain (Agent σ)) (path : List Place) :
    (Agent.composite identity registry chain).located path =
      .composite identity registry (chain.located path) := by
  rw [located, fold_composite, Chain.placed_map, Chain.map_map]
  rfl

theorem erased_composite (chain : Chain (Agent (Watched κ σ))) :
    (Agent.composite identity registry chain).erased =
      .composite identity registry (chain.map Agent.erased) :=
  fold_composite ..

end Composite

theorem erased_located (agent : Agent σ) (path : List Place) : (agent.located path).erased = agent := by
  induction agent using inductionOn generalizing path with
  | leaf agent => rfl
  | composite identity registry chain inside =>
    have same : chain.placed.map (fun (place, agent) => (agent.located (path ++ [place])).erased) =
        chain.placed.map Prod.snd :=
      Chain.map_congr fun (_, agent) member => inside agent (Chain.snd_mem_of_mem_placed member) _
    rw [Chain.placed_map_snd] at same
    rw [located_composite, erased_composite, Chain.located, Chain.map_map]
    exact congrArg _ same

/-- The tree has the same leaves when they are not watched. -/
theorem fringe_erased (agent : Agent (Watched κ σ)) :
    agent.erased.fringe = agent.fringe.map Watched.agent := by
  induction agent using inductionOn with
  | leaf leaf => rfl
  | composite identity registry chain inside =>
    rw [erased_composite, fringe_composite, fringe_composite, Chain.fringe, Chain.fringe,
      Chain.members_map, List.flatMap_map, List.map_flatMap]
    exact List.flatMap_congr inside

/-- A tree reports what its leaves report. -/
theorem status_eq_fringe [Behaviour ω σ] [Clock ω] (agent : Agent σ) :
    Behaviour.status agent = agent.fringe.flatMap Behaviour.status := by
  induction agent using inductionOn with
  | leaf agent => exact (List.append_nil _).symm
  | composite identity registry chain inside =>
    rw [status_composite, fringe_composite, Chain.status, Chain.fringe, List.flatMap_assoc]
    exact List.flatMap_congr inside

/-- The paths of the leaves of a tree differ, and all begin with the path of the tree. -/
theorem located_paths (agent : Agent σ) (path : List Place) :
    ((agent.located path).fringe.map Watched.label).Nodup ∧
      ∀ leaf ∈ (agent.located path).fringe, path <+: leaf.label := by
  induction agent using inductionOn generalizing path with
  | leaf agent => simp [located, fringe, fold]
  | composite identity registry chain inside =>
    have within : ∀ child ∈ chain.placed.members, ∀ path,
        ((child.2.located path).fringe.map Watched.label).Nodup ∧
          ∀ leaf ∈ (child.2.located path).fringe, path <+: leaf.label :=
      fun _ member => inside _ (Chain.snd_mem_of_mem_placed member)
    rw [located_composite, fringe_composite, Chain.fringe, Chain.located, Chain.members_map,
      List.flatMap_map, List.map_flatMap, List.nodup_flatMap]
    refine ⟨⟨fun child member => (within child member _).1, ?_⟩, fun leaf member => ?_⟩
    · -- Paths that begin with different places differ.
      refine (List.pairwise_map.mp chain.nodup_places).imp_of_mem fun {one other} here there differ => ?_
      intro label inOne inOther
      obtain ⟨leaf, mine, rfl⟩ := List.mem_map.mp inOne
      obtain ⟨leaf', yours, same⟩ := List.mem_map.mp inOther
      obtain ⟨rest, begins⟩ := (within one here _).2 leaf mine
      obtain ⟨rest', begins'⟩ := (within other there _).2 leaf' yours
      rw [← begins, ← begins', List.append_assoc, List.append_assoc, List.append_cancel_left_eq] at same
      exact differ (List.head_eq_of_cons_eq same).symm
    · obtain ⟨child, here, found⟩ := List.mem_flatMap.mp member
      exact (List.prefix_append path [child.1]).trans ((within child here _).2 leaf found)

end Agent

namespace Chain

theorem erased_located (chain : Chain (Agent σ)) (path : List Place) :
    (chain.located path).map Agent.erased = chain := by
  have whole := (Agent.composite default default chain).erased_located path
  rw [Agent.located_composite, Agent.erased_composite] at whole
  exact (Agent.composite.inj whole).2.2

theorem fringe_located (chain : Chain (Agent σ)) (path : List Place) :
    (chain.located path).fringe.map Watched.agent = chain.fringe := by
  have whole := (Agent.composite default default (chain.located path)).fringe_erased
  rw [Agent.erased_composite, erased_located, Agent.fringe_composite, Agent.fringe_composite] at whole
  exact whole.symm

/-- A chain reports what its leaves report. -/
theorem status_eq_fringe [Behaviour ω σ] [Clock ω] (chain : Chain (Agent σ)) :
    chain.status = chain.fringe.flatMap Behaviour.status := by
  rw [status, fringe, List.flatMap_assoc]
  exact List.flatMap_congr fun agent _ => agent.status_eq_fringe

/-- No two leaves of a chain are found at the same path. -/
theorem nodup_paths (chain : Chain (Agent σ)) (path : List Place) :
    ((chain.located path).fringe.map Watched.label).Nodup := by
  have whole := ((Agent.composite default default chain).located_paths path).1
  rwa [Agent.located_composite, Agent.fringe_composite] at whole

end Chain

end Conveyor
