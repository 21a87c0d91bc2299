import Conveyor.Chain.Process

/-! What the stages of a chain do (`run_stages`), apart from what they log. The log tells where in the chain
a stage stands; its results and the state it leaves do not depend on that. A stage is described by the
replies of its processor, and consecutive stages by the stages one after the other. -/
namespace Conveyor

variable {ω α β γ : Type}

namespace Activity

/-- The value in which an activity ends and the world that it leaves. -/
def effect (activity : Activity ω β) (world : ω) : β × ω :=
  ((activity.run world).value, (activity.run world).world)

@[simp] theorem effect_pure (value : β) (world : ω) :
    (pure value : Activity ω β).effect world = (value, world) := rfl

@[simp] theorem effect_bind (first : Activity ω β) (next : β → Activity ω γ) (world : ω) :
    (first >>= next).effect world =
      (next (first.effect world).1).effect (first.effect world).2 := rfl

@[simp] theorem effect_log (event : LogEvent) (world : ω) :
    (log event : Activity ω Unit).effect world = ((), world) := rfl

@[simp] theorem effect_look (world : ω) :
    (look : Activity ω ω).effect world = (world, world) := rfl

end Activity

open Activity (effect)

/-- What becomes of a lineage by the reply to the call that carried its records: the records of all
answers in their order unless an answer has failed, else the failure of the first that has. -/
def Outcome.ofReply (agentId : String) : Except (Fault AgentError) (List Entry) → Outcome
  | .ok answers =>
    match answers.findSome? Entry.error? with
    | some error => .failed error
    | none => .records (answers.flatMap fun answer => answer.produced?.getD [])
  | .error (.raised error) => .failed ⟨agentId, error.kind, error.message⟩
  | .error (.panicked (some text)) => .failed ⟨agentId, .panic, "panicked: " ++ text⟩
  | .error (.panicked none) => .failed ⟨agentId, .panic, "panicked"⟩

theorem Outcome.ofReply_error (agentId : String) (fault : Fault AgentError) :
    ofReply agentId (.error fault) = .failed (.ofAgent agentId fault.toAgentError) := by
  cases fault with
  | raised error => rfl
  | panicked message? => cases message? <;> rfl

theorem Outcome.ofReply_ok (agentId : String) (answers : List Entry) :
    ofReply agentId (.ok answers) = flatten answers := by
  induction answers with
  | nil => rfl
  | cons entry rest ih =>
    obtain ⟨source, outcome⟩ := entry
    cases outcome with
    | failed error => rfl
    | records produced =>
      rw [flatten, ← ih]
      have alive : Entry.error? ⟨source, .records produced⟩ = none := rfl
      cases failure : rest.findSome? Entry.error? <;>
        simp [ofReply, alive, failure, Entry.produced?, Outcome.produced?]

theorem Outcome.ofReply_passThrough (agentId : String) (records : List Handle) :
    ofReply agentId (.ok (records.map Entry.passThrough)) = .records records := by
  rw [ofReply_ok]
  induction records with
  | nil => rfl
  | cons record rest ih =>
    rw [List.map_cons, flatten, ih]
    rfl

namespace Chain

variable [Behaviour ω α]

theorem invoke_effect (processor : α) (records : List Handle) (world : ω) :
    (invoke processor records).effect world =
      let (reply, after) := (Behaviour.process records processor).effect world
      ((reply.agent, reply.result.mapError
        fun fault => .ofAgent (Behaviour.agentId processor) fault.toAgentError), after) := by
  simp only [invoke, Activity.effect_bind]
  generalize (Behaviour.process records processor).effect world = done
  obtain ⟨⟨agent, result⟩, after⟩ := done
  cases result <;> rfl

/-- The entries of a batch after the first stage, by the reply of the processor: the answers lined up
with the batch, or the failure of the call for every record. -/
def firstEntries (agentId : String) (records : List Handle) :
    Except (Fault AgentError) (List Entry) → List Entry
  | .ok answers => (Reconciled.ofAnswers agentId records answers).entries
  | .error fault => records.map fun record => ⟨record, .ofReply agentId (.error fault)⟩

/-- A call that fails fails every lineage of its batch. -/
theorem firstEntries_failed (agentId : String) (records : List Handle) (fault : Fault AgentError) :
    ∀ entry ∈ firstEntries agentId records (.error fault), entry.isFailed := by
  intro entry member
  obtain ⟨record, _, rfl⟩ := List.mem_map.mp member
  rw [Outcome.ofReply_error]
  rfl

theorem firstStage_effect (processor : α) (records : List Handle) (world : ω) :
    (firstStage processor records).effect world =
      let (reply, after) := (Behaviour.process records processor).effect world
      ((reply.agent, firstEntries (Behaviour.agentId processor) records reply.result,
        reply.result.isOk), after) := by
  simp only [firstStage, Activity.effect_bind, invoke_effect]
  generalize (Behaviour.process records processor).effect world = done
  obtain ⟨⟨agent, result⟩, after⟩ := done
  cases result with
  | error fault =>
    simp only [firstEntries, Outcome.ofReply_error]
    rfl
  | ok answers =>
    change (if (Reconciled.ofAnswers (Behaviour.agentId processor) records answers).isMismatch
      then _ else _ : Activity ω _).effect after = _
    split <;> rfl

theorem advance_effect (stage : Nat) (processor : α) (records : List Handle) (world : ω) :
    (advance stage processor (.records records)).effect world =
      let (reply, after) := (Behaviour.process records processor).effect world
      ((reply.agent, .ofReply (Behaviour.agentId processor) reply.result), after) := by
  simp only [advance, Activity.effect_bind, invoke_effect]
  generalize (Behaviour.process records processor).effect world = done
  obtain ⟨⟨agent, result⟩, after⟩ := done
  cases result with
  | error fault =>
    rw [Outcome.ofReply_error]
    rfl
  | ok answers =>
    rw [Outcome.ofReply_ok]
    rfl

@[simp] theorem advance_failed (stage : Nat) (processor : α) (error : ProcessingError) (world : ω) :
    (advance stage processor (.failed error)).effect world =
      ((processor, .failed error), world) := rfl

theorem laterStage_cons (stage : Nat) (processor : α) (entry : Entry) (rest : List Entry)
    (world : ω) :
    (laterStage stage processor (entry :: rest)).effect world =
      let ((between, outcome), middle) := (advance stage processor entry.outcome).effect world
      let ((after, entries), final) := (laterStage stage between rest).effect middle
      ((after, ⟨entry.source, outcome⟩ :: entries), final) := rfl

theorem laterStages_cons (stage : Nat) (processor : α) (rest : List α) (entries : List Entry)
    (world : ω) :
    (laterStages stage (processor :: rest) entries).effect world =
      let ((after, between), middle) := (laterStage stage processor entries).effect world
      let ((others, results), final) := (laterStages (stage + 1) rest between).effect middle
      ((after :: others, results), final) := rfl

theorem advance_anywhere (stage other : Nat) (processor : α) (outcome : Outcome) (world : ω) :
    (advance stage processor outcome).effect world =
      (advance other processor outcome).effect world := by
  cases outcome with
  | failed error => rfl
  | records records => rw [advance_effect, advance_effect]

theorem laterStage_anywhere (stage other : Nat) (processor : α) (entries : List Entry)
    (world : ω) :
    (laterStage stage processor entries).effect world =
      (laterStage other processor entries).effect world := by
  induction entries generalizing processor world with
  | nil => rfl
  | cons entry rest ih =>
    simp only [laterStage_cons, advance_anywhere stage other, ih]

/-- Where in the chain the later stages stand shows in the log only. -/
theorem laterStages_anywhere (stage other : Nat) (processors : List α) (entries : List Entry)
    (world : ω) :
    (laterStages stage processors entries).effect world =
      (laterStages other processors entries).effect world := by
  induction processors generalizing stage other entries world with
  | nil => rfl
  | cons processor rest ih =>
    simp only [laterStages_cons, laterStage_anywhere stage other, ih (stage + 1) (other + 1)]

/-- Later stages come one after the other. -/
theorem laterStages_append (stage : Nat) (front back : List α) (entries : List Entry) (world : ω) :
    (laterStages stage (front ++ back) entries).effect world =
      let ((before, between), middle) := (laterStages stage front entries).effect world
      let ((after, results), final) := (laterStages stage back between).effect middle
      ((before ++ after, results), final) := by
  induction front generalizing stage entries world with
  | nil => rfl
  | cons processor rest ih =>
    simp only [List.cons_append, laterStages_cons, ih]
    rw [laterStages_anywhere (stage + 1) stage back]

/-- A stage leaves failed lineages alone, and so is not called when all have failed. -/
theorem laterStage_all_failed (stage : Nat) (processor : α) {entries : List Entry}
    (failed : ∀ entry ∈ entries, entry.isFailed) (world : ω) :
    (laterStage stage processor entries).effect world = ((processor, entries), world) := by
  induction entries with
  | nil => rfl
  | cons entry rest ih =>
    obtain ⟨source, outcome⟩ := entry
    obtain ⟨first, others⟩ := List.forall_mem_cons.mp failed
    cases outcome with
    | records => simp [Entry.isFailed, Outcome.isFailed] at first
    | failed error => simp [laterStage_cons, ih others]

theorem laterStages_all_failed (stage : Nat) (processors : List α) {entries : List Entry}
    (failed : ∀ entry ∈ entries, entry.isFailed) (world : ω) :
    (laterStages stage processors entries).effect world = ((processors, entries), world) := by
  induction processors generalizing stage with
  | nil => rfl
  | cons processor rest ih => simp [laterStages_cons, laterStage_all_failed _ _ failed, ih]

/-- All stages of a chain, by the reply of the first processor. If its call fails then every lineage
has failed, so nothing depends on whether the later stages are entered. -/
theorem runStages_effect (first : α) (rest : List α) (records : List Handle) (world : ω) :
    (runStages (first :: rest) records).effect world =
      let (reply, middle) := (Behaviour.process records first).effect world
      let ((others, results), final) := (laterStages 1 rest
        (firstEntries (Behaviour.agentId first) records reply.result)).effect middle
      ((reply.agent :: others, results), final) := by
  simp only [runStages, Activity.effect_bind, firstStage_effect]
  cases ((Behaviour.process records first).effect world).1.result with
  | ok answers => rfl
  | error fault =>
    rw [laterStages_all_failed 1 rest (firstEntries_failed _ records fault)]
    rfl

/-- The first processor is still in front after a batch. -/
theorem runStages_cons (first : α) (rest : List α) (records : List Handle) (world : ω) :
    ∃ after others, ((runStages (first :: rest) records).effect world).1.1 = after :: others :=
  ⟨_, _, by rw [runStages_effect]⟩

/-- Processors behind others get what those leave of the batch. -/
theorem runStages_append (first : α) (rest back : List α) (records : List Handle) (world : ω) :
    (runStages (first :: rest ++ back) records).effect world =
      let ((before, between), middle) := (runStages (first :: rest) records).effect world
      let ((after, results), final) := (laterStages 1 back between).effect middle
      ((before ++ after, results), final) := by
  rw [List.cons_append, runStages_effect, runStages_effect]
  simp only [laterStages_append]
  rfl

/-- Processing a batch runs it through the stages and counts it. -/
theorem process_effect [Clock ω] (chain : Chain α) (records : List Handle) (world : ω) :
    (chain.process records).effect world =
      let ((processors, results), after) := (runStages chain.processors records).effect world
      (({ chain with
        processors, metrics := chain.metrics.count records.length results (Clock.now after) },
          results), after) := rfl

end Chain

end Conveyor
