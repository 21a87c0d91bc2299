import Conveyor.Proofs.Conservation
import Conveyor.Proofs.FailureChannels

/-! A processor that has to warm up fails its first calls and none after them (`FailingProcessor`). How many
lineages that costs depends on where it stands. Behind the first stage it is called once for each lineage,
also for one without records, so that over all batches just as many records are lost as calls fail. In front
it is called once for each batch, and loses the batch as a whole. Either way the count goes on from one
batch to the next, and the other processors, as long as they fail nothing, have no part in it. -/
namespace Conveyor

open Testing

variable {ω α : Type}

section Fates

/-- The record that a lineage started from, and the failure that has ended it, if one has. -/
def Entry.fate (entry : Entry) : Handle × Option ProcessingError := (entry.source, entry.error?)

/-- The fates of records of which the first so many have failed. -/
def firstFailed (failure : ProcessingError) (count : Nat) (records : List Handle) :
    List (Handle × Option ProcessingError) :=
  records.mapIdx fun position record => (record, if position < count then some failure else none)

variable {failure : ProcessingError}

theorem firstFailed_cons (count : Nat) (record : Handle) (rest : List Handle) :
    firstFailed failure count (record :: rest) =
      (record, if 0 < count then some failure else none) :: firstFailed failure (count - 1) rest := by
  rw [firstFailed, List.mapIdx_cons, firstFailed]
  refine congrArg _ (List.mapIdx_eq_mapIdx_iff.mpr fun position _ => ?_)
  simp only [Nat.lt_sub_iff_add_lt]

theorem firstFailed_append (count : Nat) (records others : List Handle) :
    firstFailed failure count (records ++ others) =
      firstFailed failure count records ++ firstFailed failure (count - records.length) others := by
  induction records generalizing count with
  | nil => rfl
  | cons record rest ih =>
    rw [List.cons_append, firstFailed_cons, firstFailed_cons, ih, List.length_cons, Nat.sub_add_eq,
      Nat.sub_right_comm]
    rfl

theorem countP_firstFailed (failure : ProcessingError) (count : Nat) (records : List Handle) :
    (firstFailed failure count records).countP (·.2.isSome) = min count records.length := by
  induction records generalizing count with
  | nil => simp [firstFailed]
  | cons record rest ih =>
    rw [firstFailed_cons, List.countP_cons, ih, List.length_cons]
    cases count with
    | zero => simp
    | succ count =>
      simp only [Nat.zero_lt_succ, if_true, Option.isSome_some, Nat.add_sub_cancel]
      omega

theorem countFailed_eq_fates (entries : List Entry) :
    Entry.countFailed entries = (entries.map Entry.fate).countP (·.2.isSome) := by
  rw [List.countP_map]
  refine List.countP_congr fun entry _ => ?_
  obtain ⟨source, outcome⟩ := entry
  cases outcome <;> simp [Entry.fate, Entry.error?, Entry.isFailed, Outcome.error?, Outcome.isFailed]

theorem fates_alive {entries : List Entry} (alive : ∀ entry ∈ entries, entry.isFailed = false) :
    entries.map Entry.fate = (entries.map Entry.source).map (·, none) := by
  rw [List.map_map]
  refine List.map_congr_left fun entry member => ?_
  obtain ⟨source, outcome⟩ := entry
  cases outcome with
  | records produced => rfl
  | failed error => cases alive _ member

/-- The fates of the records of batches, if they depend for each batch on how many calls are left to fail,
and each batch costs some of these. -/
def fatesOver (cost : List Handle → Nat) (fates : Nat → List Handle → List (Handle × Option ProcessingError))
    (left : Nat) : List (List Handle) → List (List (Handle × Option ProcessingError))
  | [] => []
  | batch :: batches => fates left batch :: fatesOver cost fates (left - cost batch) batches

/-- The fates of the records of a batch that succeeds or fails as a whole. -/
def wholeFailed (failure : ProcessingError) (left : Nat) (batch : List Handle) :
    List (Handle × Option ProcessingError) :=
  batch.map (·, if 0 < left then some failure else none)

/-- When each record costs a call, then what is left for a batch is what earlier records have left. -/
theorem flatten_fatesOver (left : Nat) (batches : List (List Handle)) :
    (fatesOver List.length (firstFailed failure) left batches).flatten =
      firstFailed failure left batches.flatten := by
  induction batches generalizing left with
  | nil => rfl
  | cons batch batches ih =>
    rw [fatesOver, List.flatten_cons, ih, List.flatten_cons, firstFailed_append]

/-- When each batch costs a call, then it depends on the position of a batch whether one is left for it. -/
theorem fatesOver_whole (left : Nat) (batches : List (List Handle)) :
    fatesOver (fun _ => 1) (wholeFailed failure) left batches = batches.mapIdx fun position batch =>
      batch.map (·, if position < left then some failure else none) := by
  induction batches generalizing left with
  | nil => rfl
  | cons batch batches ih =>
    rw [fatesOver, ih, List.mapIdx_cons, wholeFailed]
    simp only [Nat.lt_sub_iff_add_lt]

end Fates

/-- A processor that fails nothing. -/
def Unfailing [Behaviour ω α] : α → Prop :=
  Henceforth fun agent => ∀ records (world : ω), ∃ answers,
    ((Behaviour.process records agent).effect world).1.result = .ok answers ∧
      answers.map Entry.source = records ∧ ∀ answer ∈ answers, answer.isFailed = false

theorem StockAgent.unfailing {agent : StockAgent} (known : agent.fanOut?.isSome) : Unfailing agent := by
  refine Henceforth.of_kept (fun agent => agent.fanOut?.isSome) ?_ ?_ known
  · intro agent records world known
    obtain ⟨count, known⟩ := Option.isSome_iff_exists.mp known
    rw [(process_fanOut known records world).1]
    rfl
  · intro agent known records world
    obtain ⟨count, known⟩ := Option.isSome_iff_exists.mp known
    obtain ⟨function, answered, same⟩ := recordFunction_fanOut known
    obtain ⟨-, answers, replied, seen⟩ := process_recordFunction answered records world
    obtain ⟨sources, alive, -⟩ := countRecords_seen same seen
    exact ⟨answers, replied, sources, alive⟩

theorem StockAgent.leaves_unfailing {agents : List StockAgent}
    (known : ∀ agent ∈ agents, agent.fanOut?.isSome) :
    ∀ agent ∈ agents.map Agent.leaf, Unfailing agent :=
  List.forall_mem_map.mpr fun agent member =>
    Henceforth.leaf (fun now => now) (StockAgent.unfailing (known agent member))

namespace Chain

section Unfailing

variable [Behaviour ω α]

/-- A later stage that fails nothing decides no fate. -/
theorem laterStage_unfailing {processor : α} (unfailing : Unfailing processor) (stage : Nat)
    (entries : List Entry) (world : ω) :
    ((laterStage stage processor entries).effect world).1.2.map Entry.fate =
      entries.map Entry.fate := by
  induction entries generalizing processor world with
  | nil => rfl
  | cons entry rest ih =>
    obtain ⟨source, outcome⟩ := entry
    rw [laterStage_cons]
    cases outcome with
    | failed error => exact congrArg (_ :: ·) (ih unfailing world)
    | records records =>
      obtain ⟨answers, replied, -, alive⟩ := unfailing.now records world
      simp only [advance_effect, replied, ofReply_alive _ alive]
      exact congrArg (_ :: ·) (ih (unfailing.after records world) _)

theorem laterStages_unfailing {processors : List α} (unfailing : ∀ agent ∈ processors, Unfailing agent)
    (stage : Nat) (entries : List Entry) (world : ω) :
    ((laterStages stage processors entries).effect world).1.2.map Entry.fate =
      entries.map Entry.fate := by
  induction processors generalizing stage entries world with
  | nil => rfl
  | cons processor rest ih =>
    obtain ⟨head, others⟩ := List.forall_mem_cons.mp unfailing
    rw [laterStages_cons]
    exact (ih others _ _ _).trans (laterStage_unfailing head stage entries world)

/-- Behind a first processor that fails nothing there is a lineage for every record, and none has failed. -/
theorem runStages_unfailing {processors : List α} (unfailing : ∀ agent ∈ processors, Unfailing agent)
    (batch : List Handle) (world : ω) :
    ((runStages processors batch).effect world).1.2.map Entry.fate = batch.map (·, none) := by
  cases processors with
  | nil => exact List.map_map
  | cons first rest =>
    obtain ⟨head, others⟩ := List.forall_mem_cons.mp unfailing
    obtain ⟨answers, replied, sources, alive⟩ := head.now batch world
    simp only [runStages_effect, replied, firstEntries_of_sources _ sources]
    rw [laterStages_unfailing others, fates_alive alive, sources]

end Unfailing

section Runs

variable [Behaviour ω α] [Clock ω]

/-- What a row of processors does to a batch, by the calls that are left to fail, it does to one batch after
the other. -/
theorem processAll_fates {row : Nat → List α → Prop} {cost : List Handle → Nat}
    {fates : Nat → List Handle → List (Handle × Option ProcessingError)}
    (step : ∀ {left processors}, row left processors → ∀ batch (world : ω),
      let ((after, results), _) := (runStages processors batch).effect world
      results.map Entry.fate = fates left batch ∧ row (left - cost batch) after)
    {left : Nat} {chain : Chain α} (begin : row left chain.processors) (batches : List (List Handle))
    (world : ω) :
    let ((after, results), _) := (chain.processAll batches).effect world
    results.map (·.map Entry.fate) = fatesOver cost fates left batches ∧
      row (left - (batches.map cost).sum) after.processors := by
  induction batches generalizing left chain world with
  | nil => exact ⟨rfl, begin⟩
  | cons batch batches ih =>
    obtain ⟨first, still⟩ := step begin batch world
    have stillRow : row (left - cost batch) ((chain.process batch).effect world).1.1.processors := still
    have others := ih stillRow ((chain.process batch).effect world).2
    rw [List.map_cons, List.sum_cons, Nat.sub_add_eq]
    exact ⟨List.cons_eq_cons.mpr ⟨first, others.1⟩, others.2⟩

/-- A chain counts the records of all batches, and the lineages among them that have failed. -/
theorem processAll_counts (chain : Chain α) (batches : List (List Handle)) (world : ω) :
    let ((after, results), _) := (chain.processAll batches).effect world
    after.metrics.recordsIn = chain.metrics.recordsIn + batches.flatten.length ∧
      after.metrics.failedLineages = chain.metrics.failedLineages + Entry.countFailed results.flatten := by
  induction batches generalizing chain world with
  | nil => exact ⟨rfl, rfl⟩
  | cons batch batches ih =>
    obtain ⟨recordsIn, failed⟩ := ih ((chain.process batch).effect world).1.1
      ((chain.process batch).effect world).2
    refine ⟨recordsIn.trans ?_, failed.trans ?_⟩
    · rw [List.flatten_cons, List.length_append, ← Nat.add_assoc]
      rfl
    · change _ = _ + List.countP _ (_ ++ _)
      rw [List.countP_append, ← Nat.add_assoc]
      rfl

end Runs

end Chain

/-- A processor that has some calls left to fail, with this failure, before it passes everything on. -/
inductive WarmingUp (failure : ProcessingError) (left : Nat) : Agent StockAgent → Prop where
  | intro {agent : Failing} {count : Nat} (policy : agent.policy = .firstCalls count)
      (same : agent.failure = failure) (remain : count - agent.calls = left) :
      WarmingUp failure left (.leaf (.failing agent))

namespace WarmingUp

variable {failure : ProcessingError} {left : Nat} {agent : Agent StockAgent}

theorem agentId (warming : WarmingUp failure left agent) : Behaviour.agentId agent = failure.agentId := by
  obtain ⟨-, rfl, -⟩ := warming
  rfl

/-- Every call takes one off what is left to fail, whatever records it carries. -/
theorem process (warming : WarmingUp failure left agent) (records : List Handle) (world : Environment) :
    let reply := ((Behaviour.process records agent).effect world).1
    WarmingUp failure (left - 1) reply.agent ∧
      reply.result = if 0 < left then .error (.raised ⟨failure.kind, failure.message⟩)
        else .ok (records.map .passThrough) := by
  obtain @⟨agent, count, policy, rfl, rfl⟩ := warming
  have passes : agent.answer = Entry.passThrough := by
    funext record
    rw [Failing.answer, policy]
  have fails : Failing.failsCall { agent with calls := agent.calls + 1 } records =
      decide (0 < count - agent.calls) := by
    simp only [Failing.failsCall, policy, Nat.sub_pos_iff_lt, Nat.succ_le_iff]
  have called : ((Behaviour.process records (Agent.leaf (StockAgent.failing agent))).effect world).1 =
      ((Behaviour.process records agent).effect world).1.mapAgent fun agent =>
        Agent.leaf (StockAgent.failing agent) := rfl
  dsimp only
  rw [called, Failing.process_effect]
  dsimp only
  rw [fails, passes]
  by_cases early : 0 < count - agent.calls
  · simp only [early, decide_true, if_true]
    exact ⟨.intro policy rfl (Nat.sub_sub ..).symm, rfl⟩
  · simp only [early, decide_false, if_false]
    exact ⟨.intro policy rfl (Nat.sub_sub ..).symm, rfl⟩

/-- What becomes of the lineage that such a call is made for. -/
theorem outcome (warming : WarmingUp failure left agent) (records : List Handle) (world : Environment) :
    Outcome.ofReply (Behaviour.agentId agent) ((Behaviour.process records agent).effect world).1.result =
      if 0 < left then .failed failure else .records records := by
  rw [(warming.process records world).2, warming.agentId]
  split
  · rfl
  · exact Outcome.ofReply_passThrough _ records

/-- As a later stage such a processor fails the first lineages, if none has failed before. -/
theorem laterStage (warming : WarmingUp failure left agent) (stage : Nat) {entries : List Entry}
    {records : List Handle} (alive : entries.map Entry.fate = records.map (·, none))
    (world : Environment) :
    let ((after, results), _) := (Chain.laterStage stage agent entries).effect world
    results.map Entry.fate = firstFailed failure left records ∧
      WarmingUp failure (left - records.length) after := by
  induction entries generalizing left agent records world with
  | nil =>
    cases records with
    | nil => exact ⟨rfl, warming⟩
    | cons record rest => cases alive
  | cons entry entries ih =>
    cases records with
    | nil => cases alive
    | cons record rest =>
      obtain ⟨source, outcome⟩ := entry
      obtain ⟨here, others⟩ := List.cons_eq_cons.mp alive
      cases outcome with
      | failed error => cases here
      | records produced =>
        obtain ⟨rfl, -⟩ : source = record ∧ (none : Option ProcessingError) = none := Prod.mk.inj here
        have called := warming.outcome produced world
        obtain ⟨fates, still⟩ := ih (warming.process produced world).1 others
          ((Behaviour.process produced agent).effect world).2
        rw [Chain.laterStage_cons, Chain.advance_effect, firstFailed_cons, List.length_cons, Nat.add_comm,
          Nat.sub_add_eq]
        refine ⟨List.cons_eq_cons.mpr ⟨?_, fates⟩, still⟩
        refine (congrArg (fun outcome => Entry.fate ⟨source, outcome⟩) called).trans ?_
        split <;> rfl

end WarmingUp

/-- Such a processor behind a first processor, among processors that fail nothing. -/
inductive WarmingBehind (failure : ProcessingError) (left : Nat) : List (Agent StockAgent) → Prop where
  | intro {first agent : Agent StockAgent} {front back : List (Agent StockAgent)}
      (ahead : ∀ other ∈ first :: front, Unfailing other) (warming : WarmingUp failure left agent)
      (behind : ∀ other ∈ back, Unfailing other) :
      WarmingBehind failure left (first :: front ++ agent :: back)

/-- Such a processor in front of processors that fail nothing. -/
inductive WarmingInFront (failure : ProcessingError) (left : Nat) : List (Agent StockAgent) → Prop where
  | intro {agent : Agent StockAgent} {back : List (Agent StockAgent)}
      (warming : WarmingUp failure left agent) (behind : ∀ other ∈ back, Unfailing other) :
      WarmingInFront failure left (agent :: back)

section Batches

variable {failure : ProcessingError} {left : Nat} {processors : List (Agent StockAgent)}

theorem WarmingBehind.runStages (warming : WarmingBehind failure left processors) (batch : List Handle)
    (world : Environment) :
    let ((after, results), _) := (Chain.runStages processors batch).effect world
    results.map Entry.fate = firstFailed failure left batch ∧
      WarmingBehind failure (left - batch.length) after := by
  obtain @⟨first, agent, front, back, ahead, warming, behind⟩ := warming
  have alive := Chain.runStages_unfailing ahead batch world
  have stillAhead := Henceforth.all_along ahead (Chain.runStages_reach (first :: front) batch world)
  obtain ⟨first', front', shape⟩ := Chain.runStages_cons first front batch world
  rw [Chain.runStages_append]
  generalize (Chain.runStages (first :: front) batch).effect world = done at alive stillAhead shape ⊢
  obtain ⟨⟨before, between⟩, middle⟩ := done
  cases shape
  obtain ⟨fates, still⟩ := warming.laterStage 1 alive middle
  dsimp only
  rw [Chain.laterStages_cons]
  dsimp only
  rw [Chain.laterStages_unfailing behind]
  exact ⟨fates, .intro stillAhead still (Henceforth.all_along behind (Chain.laterStages_reach ..))⟩

theorem WarmingInFront.runStages (warming : WarmingInFront failure left processors) (batch : List Handle)
    (world : Environment) :
    let ((after, results), _) := (Chain.runStages processors batch).effect world
    results.map Entry.fate = wholeFailed failure left batch ∧ WarmingInFront failure (left - 1) after := by
  obtain @⟨agent, back, warming, behind⟩ := warming
  obtain ⟨still, replied⟩ := warming.process batch world
  rw [Chain.runStages_effect]
  dsimp only
  rw [Chain.laterStages_unfailing behind]
  refine ⟨?_, .intro still (Henceforth.all_along behind (Chain.laterStages_reach ..))⟩
  rw [replied, warming.agentId, wholeFailed]
  by_cases early : 0 < left
  · simp only [early, if_true, Chain.firstEntries, List.map_map]
    rfl
  · have sources : (batch.map Entry.passThrough).map Entry.source = batch := by
      simp [Function.comp_def, Entry.passThrough, Entry.ofRecords]
    simp only [early, if_false, Chain.firstEntries_of_sources _ sources, List.map_map]
    rfl

/-- The next call of the first processor succeeds if no call is left to fail. -/
theorem WarmingInFront.next (warming : WarmingInFront failure left processors) :
    ∃ first rest, processors = first :: rest ∧ ∀ batch (world : Environment),
      ((Behaviour.process batch first).run world).value.result.isOk ↔ left = 0 := by
  obtain @⟨agent, back, warming, -⟩ := warming
  refine ⟨agent, back, rfl, fun batch world => ?_⟩
  have replied := (warming.process batch world).2
  change ((Behaviour.process batch agent).run world).value.result = _ at replied
  rw [replied]
  cases left with
  | zero => exact iff_of_true rfl rfl
  | succ left => exact iff_of_false Bool.noConfusion (Nat.succ_ne_zero left)

/-- What a new chain has counted is what its lineages have come to. -/
theorem WarmingBehind.counts {chain : Chain (Agent StockAgent)} (uncounted : chain.metrics = {})
    (warming : WarmingBehind failure left chain.processors) (batches : List (List Handle))
    (world : Environment) :
    let ((after, results), _) := (chain.processAll batches).effect world
    (results.map (·.map Entry.fate)).flatten = firstFailed failure left batches.flatten ∧
      after.metrics.recordsIn = batches.flatten.length ∧
      after.metrics.failedLineages = min left after.metrics.recordsIn := by
  obtain ⟨came, -⟩ := Chain.processAll_fates WarmingBehind.runStages warming batches world
  obtain ⟨recordsIn, failed⟩ := chain.processAll_counts batches world
  rw [uncounted, Nat.zero_add] at recordsIn failed
  have fates := (congrArg List.flatten came).trans (flatten_fatesOver left batches)
  refine ⟨fates, recordsIn, failed.trans ?_⟩
  rw [recordsIn, ← countP_firstFailed failure, ← fates, countFailed_eq_fates, List.map_flatten]

end Batches

/-- In a chain of a processor that has to warm up and of others that pass records on, drop them, put a
header on them or double them, the warm-up costs just its calls. Behind the first processor it fails the
first lineages, counted over all batches, as many as there are calls to fail or records. In front it fails
all lineages of the first batches, where an empty batch is a call like any other; so the call for the next
batch, with whatever records, succeeds as soon as there have been enough batches. -/
theorem warm_up_costs_its_calls (source? sink? : Option (Agent StockAgent)) {front back : List StockAgent}
    (others : ∀ other ∈ front ++ back, other.fanOut?.isSome) (agentId message : String) (count : Nat)
    (now : Instant) (batches : List (List Handle)) (world : Environment) :
    let warming := StockAgent.failing (.create agentId (.firstCalls count) message now)
    let processors : List (Agent StockAgent) := (front ++ warming :: back).map .leaf
    let chain : Chain (Agent StockAgent) := { source?, processors, sink? }
    let failure : ProcessingError := ⟨agentId, .processing, message⟩
    let done := (chain.processAll batches).run world
    let metrics := done.value.1.metrics
    let fates := done.value.2.map (·.map Entry.fate)
    (front ≠ [] →
      fates.flatten = firstFailed failure count batches.flatten ∧
        metrics.recordsIn = batches.flatten.length ∧
        metrics.failedLineages = min count metrics.recordsIn) ∧
    (front = [] →
      fates = batches.mapIdx (fun position batch =>
        batch.map (·, if position < count then some failure else none)) ∧
        ∃ first rest, done.value.1.processors = first :: rest ∧ ∀ batch,
          ((Behaviour.process batch first).run done.world).value.result.isOk ↔
            count ≤ batches.length) := by
  intro warming processors chain failure done metrics fates
  obtain ⟨ahead, behind⟩ := List.forall_mem_append.mp others
  have start : WarmingUp failure count (.leaf warming) := .intro rfl rfl (Nat.sub_zero count)
  constructor
  · intro later
    obtain ⟨first, front, rfl⟩ := List.exists_cons_of_ne_nil later
    have begun : WarmingBehind failure count chain.processors := by
      have row := WarmingBehind.intro (StockAgent.leaves_unfailing ahead) start
        (StockAgent.leaves_unfailing behind)
      simpa [chain, processors] using row
    exact begun.counts rfl batches world
  · rintro rfl
    have begun : WarmingInFront failure count chain.processors :=
      .intro start (StockAgent.leaves_unfailing behind)
    obtain ⟨came, still⟩ := Chain.processAll_fates WarmingInFront.runStages begun batches world
    rw [List.map_const', List.sum_replicate_nat, Nat.mul_one] at still
    obtain ⟨first, rest, shape, next⟩ := still.next
    refine ⟨came.trans (fatesOver_whole count batches), first, rest, shape, fun batch => ?_⟩
    exact (next batch done.world).trans Nat.sub_eq_zero_iff_le

/-- Behind a processor that drops everything, records are lost until three calls have failed, be it in
the batch in which the third call is made; a batch without records costs no call. -/
theorem warm_up_behind_drop_costs_its_calls :
    let front : List StockAgent := [.discard (.ofIdentity ⟨"drop", "drop", ⟨0, 0⟩⟩)]
    let back : List StockAgent := [.duplicate (.create "double" ⟨0, 0⟩)]
    let warming := StockAgent.failing (.create "flaky" (.firstCalls 3) "warming up" ⟨0, 0⟩)
    let processors : List (Agent StockAgent) := (front ++ warming :: back).map .leaf
    let chain : Chain (Agent StockAgent) := { processors }
    let record (serial : Nat) : Handle := ⟨serial, .ofText "r"⟩
    let failure : ProcessingError := ⟨"flaky", .processing, "warming up"⟩
    let done := (chain.processAll [[record 0, record 1], [], [record 2, record 3]]).run
      { clock := ⟨0, 0⟩ }
    let fates := (done.value.2.map (·.map Entry.fate)).flatten
    (∀ other ∈ front ++ back, other.fanOut?.isSome) ∧ front ≠ [] ∧
      fates = [(record 0, some failure), (record 1, some failure), (record 2, some failure),
        (record 3, none)] := by
  intro front back warming processors chain record failure done fates
  have known : ∀ other ∈ front ++ back, other.fanOut?.isSome := by decide
  obtain ⟨behind, -⟩ := warm_up_costs_its_calls none none known "flaky" "warming up" 3 ⟨0, 0⟩
    [[record 0, record 1], [], [record 2, record 3]] { clock := ⟨0, 0⟩ }
  have later : front ≠ [] := by simp [front]
  obtain ⟨came, -⟩ := behind later
  exact ⟨known, later, came⟩

end Conveyor
