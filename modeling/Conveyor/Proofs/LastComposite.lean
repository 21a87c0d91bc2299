import Conveyor.Proofs.Statelessness
import Conveyor.Stock.Agent

/-! A composite (`CompositeAgentProcessor`) around the last processor of a chain, and around nothing else.
Inside it the processor gets the same calls, for the chain inside passes on what it is given. A failure of
the call comes out as one failed entry for each record of the call, and these put together are that failure
again, as long as there was a record to carry it. So the two chains differ in the lineages that come to the
last stage without records and fail there, and in nothing else. -/
namespace Conveyor

variable {ω α κ : Type}

/-- A processor that answers each record of a call by one entry, in their order, unless the call fails. -/
def AnswersInOrder [Behaviour ω α] (agent : α) : Prop :=
  ∀ records world answers,
    ((Behaviour.process records agent).effect world).1.result = .ok answers →
      answers.map Entry.source = records

/-- The calls that the last stage makes of the agent under a label for the lineages that come to it,
and what becomes of the lineages by the replies, for the bare agent and for the agent in a composite. -/
inductive LastCalls (label : κ) :
    List Entry → List (Call κ) → List Entry → List Entry → Prop where
  | done : LastCalls label [] [] [] []
  | passed (source : Handle) (error : ProcessingError)
      (rest : LastCalls label before calls bare boxed) :
      LastCalls label (⟨source, .failed error⟩ :: before) calls
        (⟨source, .failed error⟩ :: bare) (⟨source, .failed error⟩ :: boxed)
  /-- An answer, and a failure with a record to carry it, come to the same. -/
  | called (source : Handle) (records : List Handle) (agentId : String)
      (reply : Except (Fault AgentError) (List Entry)) (told : records ≠ [] ∨ reply.isOk)
      (rest : LastCalls label before calls bare boxed) :
      LastCalls label (⟨source, .records records⟩ :: before)
        (⟨label, agentId, .process records reply⟩ :: calls)
        (⟨source, .ofReply agentId reply⟩ :: bare) (⟨source, .ofReply agentId reply⟩ :: boxed)
  /-- A failure without a record gets lost in the composite. -/
  | lost (source : Handle) (agentId : String) (fault : Fault AgentError)
      (rest : LastCalls label before calls bare boxed) :
      LastCalls label (⟨source, .records []⟩ :: before)
        (⟨label, agentId, .process [] (.error fault)⟩ :: calls)
        (⟨source, .failed (.ofAgent agentId fault.toAgentError)⟩ :: bare)
        (⟨source, .records []⟩ :: boxed)

/-- A reply comes out of a composite of its own as it is, if the call has a record to carry a failure. -/
theorem Outcome.ofReply_boxed (outer agentId : String) {records : List Handle}
    {reply : Except (Fault AgentError) (List Entry)} (told : records ≠ [] ∨ reply.isOk)
    (ordered : ∀ answers, reply = .ok answers → answers.map Entry.source = records) :
    ofReply outer (.ok (Chain.firstEntries agentId records reply)) = ofReply agentId reply := by
  cases reply with
  | ok answers =>
    rw [Chain.firstEntries_of_sources agentId (ordered answers rfl), ofReply_ok, ofReply_ok]
  | error fault =>
    have some : records ≠ [] := by simpa [Except.isOk, Except.toBool] using told
    obtain ⟨record, rest, rfl⟩ := List.exists_cons_of_ne_nil some
    rw [ofReply_ok, Chain.firstEntries, ofReply_error]
    rfl

namespace Chain

variable [Behaviour ω α] [Clock ω]

/-- A composite of one processor makes the call that it gets of that processor, and answers it. -/
theorem lone_effect {σ : Type} [Behaviour ω σ] (identity : Identity) (registry : RegistryKey)
    (agent : Agent σ) (metrics : ChainMetrics) (records : List Handle) (world : ω) :
    (Behaviour.process records
      (Agent.composite identity registry { processors := [agent], metrics })).effect world =
      let (reply, after) := (Behaviour.process records agent).effect world
      let results := firstEntries (Behaviour.agentId agent) records reply.result
      let counted := metrics.count records.length results (Clock.now after)
      (.ok (.composite identity registry { processors := [reply.agent], metrics := counted }) results,
        after) := by
  rw [composite_effect, runStages_effect]
  rfl

/-- The call of a watched agent that is a leaf is written down once, with its reply. -/
theorem watched_leaf_effect (label : κ) (agent : α) (records : List Handle) (watch : Watch κ ω) :
    (Behaviour.process records (Agent.leaf (⟨label, agent⟩ : Watched κ α))).effect watch =
      let (reply, after) := (Behaviour.process records agent).effect watch.world
      (⟨.leaf ⟨label, reply.agent⟩, reply.result⟩, ⟨after, watch.calls ++
        [⟨label, Behaviour.agentId agent, .process records reply.result⟩]⟩) := rfl

/-- A watched agent, and the agent in a composite of its own. -/
inductive Boxed (identity : Identity) (registry : RegistryKey) (label : κ) :
    Agent (Watched κ α) → Agent (Watched κ α) → Prop where
  | intro (agent : α) (metrics : ChainMetrics) (inOrder : Henceforth AnswersInOrder agent) :
      Boxed identity registry label (.leaf ⟨label, agent⟩)
        (.composite identity registry { processors := [.leaf ⟨label, agent⟩], metrics })

/-- The last stage makes the same calls with the agent in a composite, and the lineages come to the
same but for failures without a record. -/
theorem laterStage_boxed {identity : Identity} {registry : RegistryKey} {label : κ}
    {bare boxed : Agent (Watched κ α)} (alike : Boxed identity registry label bare boxed)
    (stage : Nat) (entries : List Entry) (watch : Watch κ ω) :
    let one := (laterStage stage bare entries).effect watch
    let other := (laterStage stage boxed entries).effect watch
    Boxed identity registry label one.1.1 other.1.1 ∧ other.2 = one.2 ∧
      ∃ calls, one.2.calls = watch.calls ++ calls ∧
        LastCalls label entries calls one.1.2 other.1.2 := by
  induction entries generalizing bare boxed watch with
  | nil => exact ⟨alike, rfl, [], (List.append_nil _).symm, .done⟩
  | cons entry rest ih =>
    obtain ⟨source, outcome⟩ := entry
    rw [laterStage_cons, laterStage_cons]
    cases outcome with
    | failed error =>
      obtain ⟨still, same, calls, noted, last⟩ := ih alike watch
      exact ⟨still, same, calls, noted, .passed source error last⟩
    | records records =>
      obtain ⟨agent, metrics, inOrder⟩ := alike
      rw [advance_effect, advance_effect, lone_effect, watched_leaf_effect]
      have ordered := inOrder.now records watch.world
      have later := inOrder.after records watch.world
      generalize (Behaviour.process records agent).effect watch.world = done at ordered later ⊢
      obtain ⟨⟨moved, reply⟩, after⟩ := done
      obtain ⟨still, same, calls, noted, last⟩ := ih (.intro moved
        (metrics.count records.length (firstEntries (Behaviour.agentId agent) records reply)
          (Clock.now after)) later)
        ⟨after, watch.calls ++ [⟨label, Behaviour.agentId agent, .process records reply⟩]⟩
      refine ⟨still, same, _, noted.trans (List.append_assoc _ [_] _), ?_⟩
      dsimp only [Reply.ok]
      by_cases told : records ≠ [] ∨ reply.isOk
      · rw [Outcome.ofReply_boxed _ _ told ordered]
        exact .called source records _ reply told last
      · obtain ⟨rfl, failed⟩ : records = [] ∧ ¬reply.isOk := by simpa using told
        cases reply with
        | ok answers => exact absurd rfl failed
        | error fault =>
          rw [Outcome.ofReply_error]
          exact .lost source _ fault last

/-- Processors, and the same with the last of several in a composite of its own. -/
inductive EndsBoxed (identity : Identity) (registry : RegistryKey) (label : κ) :
    List (Agent (Watched κ α)) → List (Agent (Watched κ α)) → Prop where
  | intro (first : Agent (Watched κ α)) (rest : List (Agent (Watched κ α)))
      (alike : Boxed identity registry label bare boxed) :
      EndsBoxed identity registry label (first :: rest ++ [bare]) (first :: rest ++ [boxed])

/-- A batch comes to the last stage as the processors before it leave it, and the last stage does the
same with the last processor in a composite, but for failures without a record. -/
theorem runStages_boxed {identity : Identity} {registry : RegistryKey} {label : κ}
    {plain wrapped : List (Agent (Watched κ α))}
    (alike : EndsBoxed identity registry label plain wrapped) (batch : List Handle)
    (watch : Watch κ ω) :
    let front := (runStages plain.dropLast batch).effect watch
    let one := (runStages plain batch).effect watch
    let other := (runStages wrapped batch).effect watch
    EndsBoxed identity registry label one.1.1 other.1.1 ∧ other.2 = one.2 ∧
      ∃ calls, one.2.calls = front.2.calls ++ calls ∧
        LastCalls label front.1.2 calls one.1.2 other.1.2 := by
  obtain @⟨bare, boxed, first, rest, alike⟩ := alike
  obtain ⟨first', rest', shape⟩ := runStages_cons first rest batch watch
  obtain ⟨still, same, last⟩ := laterStage_boxed alike 1
    ((runStages (first :: rest) batch).effect watch).1.2
    ((runStages (first :: rest) batch).effect watch).2
  rw [List.dropLast_concat, runStages_append, runStages_append]
  simp only [laterStages_cons]
  rw [shape]
  exact ⟨.intro first' rest' still, same, last⟩

/-- The two chains stay alike over any number of batches, and leave the same world and calls. -/
theorem processAll_boxed {identity : Identity} {registry : RegistryKey} {label : κ}
    {plain wrapped : Chain (Agent (Watched κ α))}
    (alike : EndsBoxed identity registry label plain.processors wrapped.processors)
    (batches : List (List Handle)) (watch : Watch κ ω) :
    let one := (plain.processAll batches).effect watch
    let other := (wrapped.processAll batches).effect watch
    EndsBoxed identity registry label one.1.1.processors other.1.1.processors ∧
      other.2 = one.2 := by
  induction batches generalizing plain wrapped watch with
  | nil => exact ⟨alike, rfl⟩
  | cons batch batches ih =>
    obtain ⟨still, same, _⟩ := runStages_boxed alike batch watch
    have processed : ((plain.process batch).effect watch).2 =
        ((wrapped.process batch).effect watch).2 := by
      rw [process_effect, process_effect, same]
    have kept : EndsBoxed identity registry label
        ((plain.process batch).effect watch).1.1.processors
        ((wrapped.process batch).effect watch).1.1.processors := still
    simp only [processAll, Activity.effect_bind, Activity.effect_pure, ← processed]
    exact ih kept ((plain.process batch).effect watch).2

end Chain

/-- Putting the last of several processors into a composite of its own changes nothing but lineages
without records. If the processor, as any calls may leave it, fails a call or answers its records one
by one in order, then over any batches all agents get the same calls with the same records in the same
order, and leave the same world. After any batches, every lineage of the next one has the same outcome
with the composite as without, except that a lineage that comes to the processor without records, and on
which its call fails, is failed by it and completed with no records with the composite. -/
theorem last_composite_loses_blank_failures [Behaviour ω α] [Clock ω]
    (chain : Chain (Agent (Watched κ α))) (first : Agent (Watched κ α))
    (rest : List (Agent (Watched κ α))) (last : Watched κ α) (identity : Identity)
    (registry : RegistryKey) (metrics : ChainMetrics)
    (inOrder : Henceforth AnswersInOrder last.agent) (batches : List (List Handle))
    (watch : Watch κ ω) :
    let bareLast := Agent.leaf last
    let composite := Agent.composite identity registry { processors := [bareLast], metrics }
    let plain := { chain with processors := first :: rest ++ [bareLast] }
    let wrapped := { chain with processors := first :: rest ++ [composite] }
    let one := (plain.processAll batches).run watch
    let other := (wrapped.processAll batches).run watch
    other.world = one.world ∧
      ∀ batch,
        let front := (Chain.runStages one.value.1.processors.dropLast batch).run one.world
        let bare := (one.value.1.process batch).run one.world
        let boxed := (other.value.1.process batch).run other.world
        boxed.world = bare.world ∧
          ∃ calls, bare.world.calls = front.world.calls ++ calls ∧
            LastCalls last.label front.value.2 calls bare.value.2 boxed.value.2 := by
  intro bareLast composite plain wrapped one other
  have alike : Chain.EndsBoxed identity registry last.label plain.processors wrapped.processors :=
    .intro first rest (.intro last.agent metrics inOrder)
  obtain ⟨still, same⟩ := Chain.processAll_boxed alike batches watch
  refine ⟨same, fun batch => ?_⟩
  have next := Chain.runStages_boxed still batch one.world
  have world : other.world = one.world := same
  simp only [world]
  exact ⟨next.2.1, next.2.2⟩

/-- A record that is dropped still costs a call of the last processor, and the failure of that call is
seen without the composite only. -/
theorem panic_after_drop_gets_lost :
    let last : Watched Nat StockAgent := ⟨1, .panicking (.create "strict" ⟨0, 0⟩)⟩
    let first : Agent (Watched Nat StockAgent) :=
      .leaf ⟨0, .discard (.ofIdentity ⟨"drop", "drop", ⟨0, 0⟩⟩)⟩
    let composite :=
      Agent.composite ⟨"outer", "composite-agent", ⟨0, 0⟩⟩ ⟨0⟩ { processors := [.leaf last] }
    let plain : Chain (Agent (Watched Nat StockAgent)) := { processors := [first, .leaf last] }
    let wrapped : Chain (Agent (Watched Nat StockAgent)) := { processors := [first, composite] }
    let watch : Watch Nat Environment := { world := { clock := ⟨0, 0⟩ } }
    let record : Handle := ⟨0, .ofText "r"⟩
    Henceforth AnswersInOrder last.agent ∧
      ((plain.process [record]).run watch).value.2 = [⟨record,
        .failed ⟨"strict", .panic, "panicked: strict cannot handle 0 record(s)"⟩⟩] ∧
      ((wrapped.process [record]).run watch).value.2 = [⟨record, .records []⟩] ∧
      ∃ calls, LastCalls 1 [⟨record, .records []⟩] calls
        ((plain.process [record]).run watch).value.2
        ((wrapped.process [record]).run watch).value.2 := by
  intro last first composite plain wrapped watch record
  have inOrder : Henceforth AnswersInOrder last.agent := by
    refine Henceforth.of_kept (fun stock => ∃ agent, stock = .panicking agent) ?_ ?_ ⟨_, rfl⟩
    · rintro _ records world ⟨agent, rfl⟩
      exact ⟨agent, rfl⟩
    · rintro _ ⟨agent, rfl⟩ records world answers ⟨⟩
  obtain ⟨_, next⟩ := last_composite_loses_blank_failures plain first [] last
    ⟨"outer", "composite-agent", ⟨0, 0⟩⟩ ⟨0⟩ {} inOrder [] watch
  obtain ⟨_, calls, _, told⟩ := next [record]
  exact ⟨inOrder, rfl, rfl, calls, told⟩

end Conveyor
