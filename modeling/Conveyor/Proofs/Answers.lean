import Conveyor.Proofs.Dispatch
import Conveyor.Proofs.Leaves
import Conveyor.Stock.Agent

/-! Which entries of an answer count. The first stage (`reconcile`) looks for the entries of every record of
its batch: a record that was given none fails, and entries of other records are as if they had not been
given. A later stage (`flatten`) takes an answer as a whole. Its entries need not belong to the records of
the call, nor need these have any: the first failure among the entries fails the lineage, and without one
the lineage goes on with all that the entries hold. -/
namespace Conveyor

variable {ω α : Type}

/-- A way to rewrite the answer to a call with some records. -/
abbrev Edit := List Handle → List Entry → List Entry

namespace Edit

/-- Leaves every answer as it is. -/
def keep : Edit := fun _ answers => answers

/-- Deletes the entries of records that were not in the call. -/
def dropForeign : Edit := fun records answers => answers.filter (·.source ∈ records)

/-- The records of the call are answered as before, each by the same entries in the same order. -/
def SparesOwn (edit : Edit) : Prop :=
  ∀ records answers, ∀ record ∈ records,
    (edit records answers).filter (·.isFrom record) = answers.filter (·.isFrom record)

/-- The answers as a whole come to the same as before. -/
def SparesOutcome (edit : Edit) : Prop :=
  ∀ records answers, Outcome.flatten (edit records answers) = Outcome.flatten answers

theorem keep_sparesOwn : keep.SparesOwn := fun _ _ _ _ => rfl

theorem dropForeign_sparesOwn : dropForeign.SparesOwn := by
  intro records answers record member
  rw [dropForeign, List.filter_filter]
  refine List.filter_congr fun answer _ => ?_
  by_cases own : answer.source = record
  · simp [Entry.isFrom, own, member]
  · simp [Entry.isFrom, own]

end Edit

/-- Deleting entries that have completed with no records changes no outcome. -/
theorem Outcome.flatten_filter {answers : List Entry} {kept : Entry → Bool}
    (blank : ∀ answer ∈ answers, kept answer = false → answer.outcome = .records []) :
    flatten (answers.filter kept) = flatten answers := by
  induction answers with
  | nil => rfl
  | cons answer rest ih =>
    obtain ⟨here, later⟩ := List.forall_mem_cons.mp blank
    have others := ih later
    by_cases stays : kept answer = true
    · rw [List.filter_cons_of_pos stays, flatten, flatten, others]
    · rw [List.filter_cons_of_neg stays, others, flatten, here (by simpa using stays)]
      cases flatten rest <;> rfl

/-- Deletes the entries of records that were not in the call, if they have completed with no records. -/
def Edit.dropBlankForeign : Edit := fun records answers =>
  answers.filter fun answer => answer.source ∈ records || answer.outcome ≠ .records []

theorem Edit.dropBlankForeign_sparesOutcome : dropBlankForeign.SparesOutcome := by
  intro records answers
  refine Outcome.flatten_filter fun answer _ dropped => ?_
  simpa using (Bool.or_eq_false_iff.mp dropped).2

/-- An agent whose answers to batches are rewritten, each call in its own way. -/
structure Edited (α : Type) where
  agent : α
  /-- How the answer to a call is rewritten before which there were so many others. -/
  edit : Nat → Edit
  calls : Nat := 0

namespace Edited

/-- The same rewriting of another agent's answers. -/
def withAgent (edited : Edited α) (agent : α) : Edited α :=
  { edited with agent }

variable [Behaviour ω α]

instance : Behaviour ω (Edited α) where
  agentId edited := Behaviour.agentId edited.agent
  agentType edited := Behaviour.agentType edited.agent
  status edited := Behaviour.status edited.agent
  capabilities edited := Behaviour.capabilities edited.agent
  setContext context edited := do
    return edited.withAgent (← Behaviour.setContext context edited.agent)
  start edited := do return (← Behaviour.start edited.agent).mapAgent edited.withAgent
  close edited := do return (← Behaviour.close edited.agent).mapAgent edited.withAgent
  process records edited := do
    let reply ← Behaviour.process records edited.agent
    return ⟨{ edited with agent := reply.agent, calls := edited.calls + 1 },
      reply.result.map (edited.edit edited.calls records)⟩
  read edited := do return (← Behaviour.read edited.agent).mapAgent edited.withAgent
  commit records edited := do
    return (← Behaviour.commit records edited.agent).mapAgent edited.withAgent
  permanentFailure record error edited := do
    return (← Behaviour.permanentFailure record error edited.agent).mapAgent edited.withAgent
  write records edited := do
    return (← Behaviour.write records edited.agent).mapAgent edited.withAgent

theorem process_effect (edited : Edited α) (records : List Handle) (world : ω) :
    (Behaviour.process records edited).effect world =
      let (reply, after) := (Behaviour.process records edited.agent).effect world
      (⟨{ edited with agent := reply.agent, calls := edited.calls + 1 },
        reply.result.map (edited.edit edited.calls records)⟩, after) := rfl

end Edited

/-- A lineage that a later stage finds alive is worth a call with its records, whose reply decides what
becomes of it. -/
theorem stage_reply {place : Place} {before after : List Outcome} {calls : List (Call Place)}
    (stage : StageCalls place before calls after) {lineage : Nat} {records : List Handle}
    (alive : before[lineage]? = some (.records records)) :
    ∃ agentId reply, (⟨place, agentId, .process records reply⟩ : Call Place) ∈ calls ∧
      after[lineage]? = some (.ofReply agentId reply) := by
  induction stage generalizing lineage with
  | done => simp at alive
  | passed error rest ih =>
    cases lineage with
    | zero => simp at alive
    | succ lineage => exact ih alive
  | called others agentId reply rest ih =>
    cases lineage with
    | zero =>
      simp only [List.getElem?_cons_zero, Option.some.injEq, Outcome.records.injEq] at alive
      subst alive
      exact ⟨agentId, reply, List.mem_cons_self, rfl⟩
    | succ lineage =>
      obtain ⟨agentId, reply, called, decided⟩ := ih alive
      exact ⟨agentId, reply, List.mem_cons_of_mem _ called, decided⟩

/-- Consecutive outcomes in a course are before and after the calls of one stage. -/
theorem course_stage {start : Nat} {history : List (List Outcome)} {calls : List (Call Place)}
    (course : Course start history calls) {stage : Nat} {before after : List Outcome}
    (here : history[stage]? = some before) (next : history[stage + 1]? = some after) :
    ∃ made, StageCalls (.processor (start + stage)) before made after ∧ made ⊆ calls := by
  induction course generalizing stage with
  | done start outcomes => simp at next
  | next first rest ih =>
    cases stage with
    | zero =>
      cases here
      cases next
      exact ⟨_, first, List.subset_append_left _ _⟩
    | succ stage =>
      obtain ⟨made, calls, inside⟩ := ih here next
      rw [Nat.add_assoc, Nat.add_comm 1] at calls
      exact ⟨made, calls, List.subset_append_of_subset_right _ inside⟩

namespace Chain

variable [Behaviour ω α]

/-- The first stage does not notice edits that spare the entries of its records. -/
theorem firstEntries_edited (agentId : String) (records : List Handle) {edit : Edit}
    (own : edit.SparesOwn) (reply : Except (Fault AgentError) (List Entry)) :
    firstEntries agentId records (reply.map (edit records)) = firstEntries agentId records reply := by
  cases reply with
  | error fault => rfl
  | ok answers =>
    change (Reconciled.ofAnswers agentId records (edit records answers)).entries =
      (Reconciled.ofAnswers agentId records answers).entries
    rw [Reconciled.ofAnswers_eq_search, Reconciled.ofAnswers_eq_search]
    exact Reconciled.search_congr agentId (own records answers)

theorem ofReply_edited (agentId : String) (records : List Handle) {edit : Edit}
    (outcome : edit.SparesOutcome) (reply : Except (Fault AgentError) (List Entry)) :
    Outcome.ofReply agentId (reply.map (edit records)) = Outcome.ofReply agentId reply := by
  cases reply with
  | error fault => rfl
  | ok answers =>
    change Outcome.ofReply agentId (.ok (edit records answers)) = _
    rw [Outcome.ofReply_ok, Outcome.ofReply_ok, outcome records answers]

theorem laterStage_edited (stage : Nat) {edited : Edited α}
    (outcome : ∀ call, (edited.edit call).SparesOutcome) (entries : List Entry) (world : ω) :
    Prod.map (Prod.map Edited.agent id) id ((laterStage stage edited entries).effect world) =
      (laterStage stage edited.agent entries).effect world := by
  induction entries generalizing edited world with
  | nil => rfl
  | cons entry rest ih =>
    obtain ⟨source, before⟩ := entry
    rw [laterStage_cons, laterStage_cons]
    cases before with
    | failed error =>
      simp only [advance_failed, ← ih outcome]
      rfl
    | records records =>
      simp only [advance_effect, Edited.process_effect, ofReply_edited _ _ (outcome _)]
      generalize (Behaviour.process records edited.agent).effect world = done
      obtain ⟨reply, after⟩ := done
      have others :=
        @ih { edited with agent := reply.agent, calls := edited.calls + 1 } outcome after
      simp only [← others]
      rfl

/-- Later stages do not notice edits that spare the outcome. -/
theorem laterStages_edited (stage : Nat) {edited : List (Edited α)}
    (outcome : ∀ later ∈ edited, ∀ call, (later.edit call).SparesOutcome) (entries : List Entry)
    (world : ω) :
    Prod.map (Prod.map (List.map Edited.agent) id) id
        ((laterStages stage edited entries).effect world) =
      (laterStages stage (edited.map Edited.agent) entries).effect world := by
  induction edited generalizing stage entries world with
  | nil => rfl
  | cons first rest ih =>
    obtain ⟨here, others⟩ := List.forall_mem_cons.mp outcome
    rw [List.map_cons, laterStages_cons, laterStages_cons, ← laterStage_edited stage here]
    simp only [Prod.map, id, ← ih (stage + 1) others]
    rfl

theorem runStages_edited {first : Edited α} {rest : List (Edited α)}
    (own : ∀ call, (first.edit call).SparesOwn)
    (outcome : ∀ later ∈ rest, ∀ call, (later.edit call).SparesOutcome) (records : List Handle)
    (world : ω) :
    Prod.map (Prod.map (List.map Edited.agent) id) id
        ((runStages (first :: rest) records).effect world) =
      (runStages (first.agent :: rest.map Edited.agent) records).effect world := by
  rw [runStages_effect, runStages_effect]
  simp only [Edited.process_effect, ← laterStages_edited 1 outcome]
  rw [firstEntries_edited _ _ (own _)]
  rfl

/-- A chain whose answers are edited so that it makes no difference does what the chain does. -/
theorem process_edited [Clock ω] {edited : Chain (Edited α)} {first : Edited α}
    {rest : List (Edited α)} (shape : edited.processors = first :: rest)
    (own : ∀ call, (first.edit call).SparesOwn)
    (outcome : ∀ later ∈ rest, ∀ call, (later.edit call).SparesOutcome) (batch : List Handle)
    (world : ω) :
    Prod.map (Prod.map (Chain.map Edited.agent) id) id ((edited.process batch).effect world) =
      ((edited.map Edited.agent).process batch).effect world := by
  have stages := runStages_edited own outcome batch world
  rw [process_effect, process_effect, map, shape, List.map_cons, ← stages]
  rfl

/-- A record that occurs nowhere among the entries of an answer is not answered. -/
theorem first_stage_unanswered [Clock ω] {chain : Chain α} {first : α} {rest : List α}
    (shape : chain.processors = first :: rest) {batch : List Handle} {world : ω} {answers : List Entry}
    (answered : ((Behaviour.process batch first).run world).value.result = .ok answers) {position : Nat}
    {record : Handle} (there : batch[position]? = some record)
    (nowhere : ∀ answer ∈ answers, answer.source ≠ record) :
    ((chain.process batch).run world).value.2[position]? =
      some (Reconciled.unansweredEntry (Behaviour.agentId first) record) := by
  have continues := runStages_continues first rest batch world
  change List.Forall₂ _ (firstEntries _ _ ((Behaviour.process batch first).run world).value.result) _
    at continues
  rw [answered, firstEntries, Reconciled.ofAnswers_eq_search, ← shape] at continues
  refine Entry.continues_failed continues ?_ rfl
  have few : answers.countP (·.isFrom record) ≤ (batch.take position).count record := by
    rw [List.countP_eq_zero.mpr fun answer member => by simpa [Entry.isFrom] using nowhere answer member]
    exact Nat.zero_le _
  rw [Reconciled.search_getElem?, there, Option.map_some, Reconciled.answerAt_unanswered few]

/-- What an answer counts for. A record of the batch for which the first stage gives no entry ends as a
failure, and deleting entries of records outside the batch from answers of the first stage, of whichever
calls, changes neither the results nor anything else but the log. The later stages are called for each
lineage that is alive, and do not line up what is answered: the first failure among the entries is what
the lineage ends with, and if there is none it goes on with the records of all entries, whosoever they
are and whether or not every record of the call was answered. So rewriting their answers changes nothing
as long as each comes to the same as a whole. -/
theorem answers_count_by_stage [Clock ω] {chain : Chain α} {first : α} {rest : List α}
    (shape : chain.processors = first :: rest) (batch : List Handle) (world : ω) :
    let reply := ((Behaviour.process batch first).run world).value.result
    let entered := (firstEntries (Behaviour.agentId first) batch reply).map Entry.outcome
    let results := ((chain.process batch).run world).value.2
    (∀ answers, reply = .ok answers → ∀ (position : Nat) record, batch[position]? = some record →
      (∀ answer ∈ answers, answer.source ≠ record) →
        results[position]? =
          some (Reconciled.unansweredEntry (Behaviour.agentId first) record)) ∧
    (∀ edited : Chain (Edited α), edited.map Edited.agent = chain →
      (∀ agent ∈ edited.processors.head?, ∀ call,
        agent.edit call = .keep ∨ agent.edit call = .dropForeign) →
      (∀ agent ∈ edited.processors.tail, ∀ call, (agent.edit call).SparesOutcome) →
        Prod.map (Prod.map (Chain.map Edited.agent) id) id ((edited.process batch).effect world) =
          (chain.process batch).effect world) ∧
    ∃ history later,
      callsOf (chain.watched.process batch) world =
        ⟨.processor 0, Behaviour.agentId first, .process batch reply⟩ :: later ∧
      history.length = rest.length ∧
      (entered :: history).getLast? = some (results.map Entry.outcome) ∧
      ∀ (stage lineage : Nat) before after records, (entered :: history)[stage]? = some before →
        history[stage]? = some after → before[lineage]? = some (.records records) →
          ∃ agentId reply,
            (⟨.processor (1 + stage), agentId, .process records reply⟩ : Call Place) ∈ later ∧
              ∀ answers, reply = .ok answers →
                match answers.findSome? Entry.error? with
                | some error => results[lineage]?.map Entry.outcome = some (.failed error)
                | none => after[lineage]? =
                  some (.records (answers.flatMap fun answer => answer.produced?.getD [])) := by
  intro reply entered results
  refine ⟨fun answers answered position record there nowhere =>
    first_stage_unanswered shape answered there nowhere, ?_, ?_⟩
  · rintro edited rfl own outcome
    rw [map, List.map_eq_cons_iff] at shape
    obtain ⟨agent, others, shape, -, -⟩ := shape
    rw [shape] at own outcome
    refine process_edited shape (fun call => ?_) outcome batch world
    rcases own agent rfl call with kept | dropped
    · exact kept ▸ Edit.keep_sparesOwn
    · exact dropped ▸ Edit.dropForeign_sparesOwn
  · obtain ⟨history, later, calls, course, count, last⟩ := process_course chain shape batch world
    refine ⟨history, later, calls, count, last,
      fun stage lineage before after records here next alive => ?_⟩
    obtain ⟨made, stage, inside⟩ := course_stage course here next
    obtain ⟨agentId, reply, called, decided⟩ := stage_reply stage alive
    refine ⟨agentId, reply, inside called, ?_⟩
    rintro answers rfl
    cases failure : answers.findSome? Entry.error? with
    | none =>
      simp only [decided, Outcome.ofReply, failure]
    | some error =>
      have failed : after[lineage]? = some (.failed error) := by
        simp only [decided, Outcome.ofReply, failure]
      have passed : after ∈ entered :: history := List.mem_cons_of_mem _ (List.mem_of_getElem? next)
      have final := course_keeps_failure course passed last failed
      rwa [List.getElem?_map] at final

end Chain

section Silence

open Testing

/-- Passes every record on. -/
def answering : StockAgent := .echo (.create "answering" ⟨0, 0⟩)

/-- Answers for none of its records. -/
def silent : StockAgent := .partialAnswer (.create "silent" 0 none ⟨0, 0⟩)

/-- Answers for one of its records, and for a stray one. -/
def straying (stray : Handle) : StockAgent := .partialAnswer (.create "straying" 1 (some stray) ⟨0, 0⟩)

/-- Behind the first stage, a record that is not answered does not fail its lineage, and deleting the
entry of a stray record changes the result. -/
theorem later_answers_are_not_lined_up :
    let world : Environment := { clock := ⟨0, 0⟩ }
    let record : Handle := ⟨0, .ofText "r"⟩
    let stray : Handle := ⟨1, .ofText "stray"⟩
    let chain : Chain StockAgent := { processors := [answering, silent] }
    let edited : Chain (Edited StockAgent) :=
      { processors := [⟨answering, fun _ => .keep, 0⟩, ⟨straying stray, fun _ => .dropForeign, 0⟩] }
    callsOf (chain.watched.process [record]) world =
      [⟨.processor 0, "answering", .process [record] (.ok [.passThrough record])⟩,
        ⟨.processor 1, "silent", .process [record] (.ok [])⟩] ∧
    ((chain.process [record]).run world).value.2 = [.ofRecords record []] ∧
    (((edited.map Edited.agent).process [record]).run world).value.2 =
      [.ofRecords record [record, stray]] ∧
    ((edited.process [record]).run world).value.2 = [.ofRecords record [record]] :=
  ⟨rfl, rfl, rfl, rfl⟩

/-- The first of two records is answered beside a stray one, so the second fails, with or without the
stray entry. -/
theorem answers_count_by_stage_at_straying :
    let world : Environment := { clock := ⟨0, 0⟩ }
    let one : Handle := ⟨0, .ofText "one"⟩
    let other : Handle := ⟨1, .ofText "other"⟩
    let stray : Handle := ⟨2, .ofText "stray"⟩
    let chain : Chain StockAgent := { processors := [straying stray, answering] }
    let edited : Chain (Edited StockAgent) := { processors :=
      [⟨straying stray, fun _ => .dropForeign, 0⟩, ⟨answering, fun _ => .dropBlankForeign, 0⟩] }
    chain.processors = [straying stray, answering] ∧
    ((chain.process [one, other]).run world).value.2[1]? =
      some (Reconciled.unansweredEntry "straying" other) ∧
    Prod.map (Prod.map (Chain.map Edited.agent) id) id ((edited.process [one, other]).effect world) =
      (chain.process [one, other]).effect world := by
  intro world one other stray chain edited
  have shape : chain.processors = [straying stray, answering] := rfl
  obtain ⟨unanswered, deleted, -⟩ := Chain.answers_count_by_stage shape [one, other] world
  refine ⟨shape, unanswered [.passThrough one, .passThrough stray] rfl 1 other rfl (by decide),
    deleted edited rfl ?_ ?_⟩
  · rintro agent ⟨⟩ call
    exact .inr rfl
  · intro agent member call
    rw [List.mem_singleton.mp member]
    exact Edit.dropBlankForeign_sparesOutcome

end Silence

end Conveyor
