import Conveyor.Proofs.Reconciliation
import Conveyor.Proofs.Stages
import Mathlib.Data.List.Forall2

/-! No record of a batch vanishes and none is made up. Whatever the processors answer, `process` ends in one
entry for each of its positions, keyed by the handle at that position: the first stage lines its answers up
with the batch, and a later stage only continues lineages. A lineage that has failed stays as it is, so a
record that the first stage did not answer shows as a failure at the end. -/
namespace Conveyor

variable {ω α : Type}

/-- What a stage may make of a lineage: another outcome of the same source, and none but the same
failure if it has failed. -/
structure Entry.Continues (before after : Entry) : Prop where
  source : after.source = before.source
  failed : ∀ {error}, before.outcome = .failed error → after = before

namespace Entry

theorem Continues.refl (entry : Entry) : Continues entry entry := ⟨rfl, fun _ => rfl⟩

theorem Continues.trans {first second third : Entry} (one : Continues first second)
    (other : Continues second third) : Continues first third := by
  refine ⟨other.source.trans one.source, fun {error} failed => ?_⟩
  have same := one.failed failed
  rw [same] at other
  exact other.failed failed

/-- Lineages that are continued one by one have the same sources. -/
theorem continues_sources {before after : List Entry} (all : List.Forall₂ Continues before after) :
    after.map source = before.map source := by
  induction all with
  | nil => rfl
  | cons head _ ih => simp [head.source, ih]

/-- A failure among lineages that are continued stays at its position. -/
theorem continues_failed {before after : List Entry} (all : List.Forall₂ Continues before after)
    {position : Nat} {entry : Entry} {error : ProcessingError}
    (there : before[position]? = some entry) (failed : entry.outcome = .failed error) :
    after[position]? = some entry := by
  induction all generalizing position with
  | nil => simp at there
  | cons head _ ih =>
    cases position with
    | zero =>
      simp only [List.getElem?_cons_zero, Option.some.injEq] at there ⊢
      subst there
      exact head.failed failed
    | succ position => exact ih there

theorem continues_trans {first second third : List Entry} (one : List.Forall₂ Continues first second)
    (other : List.Forall₂ Continues second third) : List.Forall₂ Continues first third := by
  induction one generalizing third with
  | nil => exact other
  | cons head _ ih =>
    cases other with
    | cons head' tail' => exact .cons (head.trans head') (ih tail')

end Entry

namespace Chain

variable [Behaviour ω α]

theorem laterStage_continues (stage : Nat) (processor : α) (entries : List Entry) (world : ω) :
    List.Forall₂ Entry.Continues entries
      ((laterStage stage processor entries).effect world).1.2 := by
  induction entries generalizing processor world with
  | nil => exact .nil
  | cons entry rest ih =>
    rw [laterStage_cons]
    refine .cons ⟨rfl, fun {error} failed => ?_⟩ (ih _ _)
    obtain ⟨source, outcome⟩ := entry
    cases failed
    rfl

/-- The later stages only continue lineages. -/
theorem laterStages_continue (stage : Nat) (processors : List α) (entries : List Entry) (world : ω) :
    List.Forall₂ Entry.Continues entries
      ((laterStages stage processors entries).effect world).1.2 := by
  induction processors generalizing stage entries world with
  | nil => exact List.forall₂_same.mpr fun entry _ => .refl entry
  | cons processor rest ih =>
    exact Entry.continues_trans (laterStage_continues stage processor entries world) (ih _ _ _)

/-- Every entry after the first stage is keyed by the record at its position. -/
theorem firstEntries_sources (agentId : String) (records : List Handle)
    (reply : Except (Fault AgentError) (List Entry)) :
    (firstEntries agentId records reply).map Entry.source = records := by
  cases reply with
  | error fault => simp [firstEntries, Function.comp_def]
  | ok answers =>
    rw [firstEntries, Reconciled.ofAnswers_eq_search]
    exact Reconciled.search_sources agentId records answers

/-- The results of a batch continue the entries of the first stage. -/
theorem runStages_continues (first : α) (rest : List α) (records : List Handle) (world : ω) :
    List.Forall₂ Entry.Continues
      (firstEntries (Behaviour.agentId first) records
        ((Behaviour.process records first).effect world).1.result)
      ((runStages (first :: rest) records).effect world).1.2 := by
  rw [runStages_effect]
  exact laterStages_continue 1 rest _ _

/-- Whatever the processors do, every position of a batch keeps one entry of its own. -/
theorem runStages_sources (processors : List α) (records : List Handle) (world : ω) :
    ((runStages processors records).effect world).1.2.map Entry.source = records := by
  cases processors with
  | nil => simp [runStages, Entry.passThrough, Entry.ofRecords, Function.comp_def]
  | cons first rest =>
    rw [Entry.continues_sources (runStages_continues first rest records world),
      firstEntries_sources]

/-- Processing a batch answers each of its positions once, in order, by an entry keyed by the handle
at that position; there is no other way for it to end, whatever the processors answer or however they
fail. If the call of the first processor fails then so does every lineage, with that failure. If it
answers, then a record that occurs more often than it was answered ends as a failure from there on. -/
theorem process_answers_every_record [Clock ω] (chain : Chain α) (records : List Handle)
    (world : ω) :
    let results := ((chain.process records).run world).value.2
    results.map Entry.source = records ∧
      match chain.processors with
      | [] => results = records.map Entry.passThrough
      | first :: _ =>
        match ((Behaviour.process records first).run world).value.result with
        | .error fault => results = records.map fun record =>
          ⟨record, .ofReply (Behaviour.agentId first) (.error fault)⟩
        | .ok answers => ∀ position record, records[position]? = some record →
          answers.countP (·.isFrom record) ≤ (records.take position).count record →
          results[position]? =
            some (Reconciled.unansweredEntry (Behaviour.agentId first) record) := by
  have results : ((chain.process records).run world).value.2 =
      ((runStages chain.processors records).effect world).1.2 := rfl
  rw [results]
  refine ⟨runStages_sources chain.processors records world, ?_⟩
  cases chain.processors with
  | nil => rfl
  | cons first rest =>
    dsimp only
    change match ((Behaviour.process records first).effect world).1.result with
      | .error fault => _
      | .ok answers => _
    cases reply : ((Behaviour.process records first).effect world).1.result with
    | error fault =>
      dsimp only
      rw [runStages_effect]
      dsimp only
      rw [reply, laterStages_all_failed 1 rest (firstEntries_failed _ records fault)]
      rfl
    | ok answers =>
      have continues := runStages_continues first rest records world
      rw [reply, firstEntries, Reconciled.ofAnswers_eq_search] at continues
      intro position record there few
      refine Entry.continues_failed continues ?_ rfl
      rw [Reconciled.search_getElem?, there, Option.map_some, Reconciled.answerAt_unanswered few]

end Chain

end Conveyor
