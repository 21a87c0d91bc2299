import Conveyor.Proofs.Accounting
import Conveyor.Proofs.Statelessness

/-! Stages behind the first that can be exchanged for others. A row of later stages (`run_stages`) is told
apart from another by what it makes of lineages, by the world that it leaves and by what it does next time,
and by nothing else: the stages before and behind it get the same calls, and every batch comes to the same
results and counts. The agents of a chain whose calls are of interest may be watched, and the row that is
exchanged be made of guests, which work beside them without being watched. -/
namespace Conveyor

variable {ω α β γ κ : Type}

namespace Chain

section Rows

variable [Behaviour ω α]

/-- Rows of later stages of which one does for the other, now and from then on. -/
def Exchangeable (related : List α → List α → Prop) : Prop :=
  ∀ ⦃one other⦄, related one other → ∀ entries (world : ω),
    SameEnd related ((laterStages 1 one entries).effect world)
      ((laterStages 1 other entries).effect world)

/-- Processors of which one does for the other behind the first stage: whatever a call answers, the lineage
that it was made for ends the same way. -/
def SameOutcomes (related : α → α → Prop) : Prop :=
  ∀ ⦃one other⦄, related one other → ∀ records (world : ω),
    let mine := (Behaviour.process records one).effect world
    let yours := (Behaviour.process records other).effect world
    related mine.1.agent yours.1.agent ∧
      Outcome.ofReply (Behaviour.agentId one) mine.1.result =
        Outcome.ofReply (Behaviour.agentId other) yours.1.result ∧
      mine.2 = yours.2

theorem laterStage_sameOutcomes {related : α → α → Prop} (same : SameOutcomes related) {one other : α}
    (alike : related one other) (stage : Nat) (entries : List Entry) (world : ω) :
    SameEnd related ((laterStage stage one entries).effect world)
      ((laterStage stage other entries).effect world) := by
  induction entries generalizing one other world with
  | nil => exact ⟨alike, rfl, rfl⟩
  | cons entry rest ih =>
    obtain ⟨source, outcome⟩ := entry
    rw [laterStage_cons, laterStage_cons]
    cases outcome with
    | failed error =>
      obtain ⟨still, entries, left⟩ := ih alike world
      exact ⟨still, congrArg (_ :: ·) entries, left⟩
    | records records =>
      obtain ⟨moved, outcome, middle⟩ := same alike records world
      obtain ⟨still, entries, left⟩ := ih moved ((Behaviour.process records other).effect world).2
      rw [advance_effect, advance_effect]
      dsimp only
      rw [outcome, middle]
      exact ⟨still, congrArg (_ :: ·) entries, left⟩

/-- Rows of one processor each. -/
inductive Single (related : α → α → Prop) : List α → List α → Prop where
  | intro {one other : α} (alike : related one other) : Single related [one] [other]

theorem single_exchangeable {related : α → α → Prop} (same : SameOutcomes related) :
    Exchangeable (Single related) := by
  rintro _ _ ⟨alike⟩ entries world
  obtain ⟨still, results, left⟩ := laterStage_sameOutcomes same alike 1 entries world
  rw [laterStages_cons, laterStages_cons]
  exact ⟨.intro still, results, left⟩

/-- The processors of two chains, the same but for related rows behind the first one. -/
inductive Exchanged (related : List α → List α → Prop) : List α → List α → Prop where
  | intro (first : α) (front : List α) {one other : List α} (row : related one other)
      (back : List α) :
      Exchanged related (first :: front ++ (one ++ back)) (first :: front ++ (other ++ back))

variable {related : List α → List α → Prop}

/-- What comes to an exchanged row is what came to the row before, and the same leaves it. -/
theorem runStages_exchanged (exchangeable : Exchangeable related) {one other : List α}
    (exchanged : Exchanged related one other) (batch : List Handle) (world : ω) :
    SameEnd (Exchanged related) ((runStages one batch).effect world)
      ((runStages other batch).effect world) := by
  obtain @⟨first, front, one, other, row, back⟩ := exchanged
  obtain ⟨first', front', shape⟩ := runStages_cons first front batch world
  rw [runStages_append, runStages_append]
  generalize (runStages (first :: front) batch).effect world = done at shape ⊢
  obtain ⟨⟨before, between⟩, middle⟩ := done
  cases shape
  obtain ⟨still, entries, left⟩ := exchangeable row between middle
  simp only [laterStages_append, entries, left]
  exact ⟨.intro first' front' still _, rfl, rfl⟩

/-- A chain, and the same with a row of its later stages exchanged. -/
structure ExchangedIn (related : List α → List α → Prop) (one other : Chain α) : Prop where
  source : one.source? = other.source?
  processors : Exchanged related one.processors other.processors
  sink : one.sink? = other.sink?
  metrics : one.metrics = other.metrics

variable [Clock ω]

theorem process_exchanged (exchangeable : Exchangeable related) {one other : Chain α}
    (exchanged : ExchangedIn related one other) (batch : List Handle) (world : ω) :
    SameEnd (ExchangedIn related) ((one.process batch).effect world)
      ((other.process batch).effect world) := by
  obtain ⟨still, entries, left⟩ :=
    runStages_exchanged exchangeable exchanged.processors batch world
  rw [process_effect, process_effect]
  refine ⟨⟨exchanged.source, still, exchanged.sink, ?_⟩, entries, left⟩
  dsimp only
  rw [exchanged.metrics, entries, left]

/-- Exchanging a row of later stages changes nothing about any number of batches. -/
theorem processAll_exchanged (exchangeable : Exchangeable related) {one other : Chain α}
    (exchanged : ExchangedIn related one other) (batches : List (List Handle)) (world : ω) :
    SameEnd (ExchangedIn related) ((one.processAll batches).effect world)
      ((other.processAll batches).effect world) :=
  processAll_alike (fun alike => process_exchanged exchangeable alike) exchanged batches world

end Rows

end Chain

/-- Worlds with an environment in them. -/
class Hosts (ω : Type) where
  environment : ω → Environment
  withEnvironment : Environment → ω → ω
  unchanged : ∀ world, withEnvironment (environment world) world = world

instance : Hosts Environment := ⟨id, fun environment _ => environment, fun _ => rfl⟩

instance [Hosts ω] : Hosts (Watch κ ω) where
  environment watch := Hosts.environment watch.world
  withEnvironment environment watch :=
    { watch with world := Hosts.withEnvironment environment watch.world }
  unchanged watch := by rw [Hosts.unchanged]

/-- An agent that works in the environment of a world, whatever else there is in that world. -/
structure Guest (ω α : Type) where
  agent : α

namespace Guest

variable [Hosts ω]

/-- Does something in the environment of a world. -/
def inside (activity : Activity Environment β) : Activity ω β := fun world =>
  let done := activity.run (Hosts.environment world)
  ⟨done.value, Hosts.withEnvironment done.world world, done.log⟩

/-- Calls the agent. -/
def call (guest : Guest ω α) (hook : α → Activity Environment (Reply α β)) :
    Activity ω (Reply (Guest ω α) β) := do
  return (← inside (hook guest.agent)).mapAgent Guest.mk

instance [Behaviour Environment α] : Behaviour ω (Guest ω α) where
  agentId guest := Behaviour.agentId guest.agent
  agentType guest := Behaviour.agentType guest.agent
  status guest := Behaviour.status guest.agent
  capabilities guest := Behaviour.capabilities guest.agent
  setContext context guest := do return ⟨← inside (Behaviour.setContext context guest.agent)⟩
  start guest := guest.call Behaviour.start
  close guest := guest.call Behaviour.close
  process records guest := guest.call (Behaviour.process records)
  read guest := guest.call Behaviour.read
  commit records guest := guest.call (Behaviour.commit records)
  permanentFailure record error guest := guest.call (Behaviour.permanentFailure record error)
  write records guest := guest.call (Behaviour.write records)

theorem process_effect [Behaviour Environment α] (guest : Guest ω α) (records : List Handle)
    (world : ω) :
    (Behaviour.process records guest).effect world =
      let (reply, after) :=
        (Behaviour.process records guest.agent).effect (Hosts.environment world)
      (reply.mapAgent Guest.mk, Hosts.withEnvironment after world) := rfl

end Guest

/-- Agents that are watched, and trees of stock agents among them that are not. -/
abbrev Company (κ ω π : Type) := Guest (Watch κ ω) (Agent StockAgent) ⊕ Watched κ π

end Conveyor
