import Conveyor.Pipeline.Definition
import Mathlib.Data.List.Nodup

/-! When a pipeline can be resolved (`resolve`), and into what. Everything that is asked of a pipeline is a
list of checks, each with the error that is due if it fails: of the pipeline itself, and then of its steps
in order. Resolving goes through this list. The first check that fails decides the error, and if none fails
every step is settled for itself: by its id or the one made for it, and by what it or the pipeline asks for,
or one. -/
namespace Conveyor

/-- A letter or a digit. -/
def IdStart (c : Char) : Prop :=
  ('A' ≤ c ∧ c ≤ 'Z') ∨ ('a' ≤ c ∧ c ≤ 'z') ∨ ('0' ≤ c ∧ c ≤ '9')

/-- A letter, a digit or one of the three signs that may stand behind one. -/
def IdRest (c : Char) : Prop :=
  IdStart c ∨ c = '.' ∨ c = '_' ∨ c = '-'

/-- The whole text is a letter or digit with any number of letters, digits and signs behind it. -/
def IsId (text : String) : Prop :=
  ∃ first rest, text.toList = first :: rest ∧ IdStart first ∧ ∀ c ∈ rest, IdRest c

theorem isIdStart_iff {c : Char} : isIdStart c = true ↔ IdStart c := by
  change (decide (c.val ≥ 'A'.val ∧ c.val ≤ 'Z'.val) ||
    (decide (c.val ≥ 'a'.val) && decide (c.val ≤ 'z'.val)) ||
    (decide (c.val ≥ '0'.val) && decide (c.val ≤ '9'.val))) = true ↔ _
  simp only [Bool.or_eq_true, Bool.and_eq_true, decide_eq_true_eq, or_assoc]
  rfl

theorem isIdRest_iff {c : Char} : isIdRest c = true ↔ IdRest c := by
  simp [isIdRest, IdRest, isIdStart_iff, or_assoc]

theorem isValidId_iff {text : String} : isValidId text = true ↔ IsId text := by
  unfold isValidId IsId
  cases text.toList with
  | nil => simp
  | cons first rest => simp [isIdStart_iff, isIdRest_iff]

/-- Something that is asked for, and the error that is due if it is not so. -/
structure Check where
  holds : Prop
  error : ConfigurationError

/-- What going through a list of checks comes to: the value if all of them hold, and otherwise the error of
the first that does not. -/
inductive Follows {β : Type} : List Check → Except ConfigurationError β → β → Prop where
  | passed {checks value} (all : ∀ check ∈ checks, check.holds) : Follows checks (.ok value) value
  | refused {front check back value} (before : ∀ passed ∈ front, passed.holds) (fails : ¬check.holds) :
      Follows (front ++ check :: back) (.error check.error) value

namespace Follows

variable {β γ : Type} {checks : List Check} {outcome : Except ConfigurationError β} {value : β}

/-- A check in front of others. -/
theorem guard {check : Check} {wrong : Prop} [Decidable wrong] (fails : wrong ↔ ¬check.holds)
    (rest : Follows checks outcome value) :
    Follows (check :: checks) (if wrong then .error check.error else outcome) value := by
  by_cases holds : check.holds
  · rw [if_neg (by simpa [fails] using holds)]
    cases rest with
    | passed all => exact .passed (List.forall_mem_cons.mpr ⟨holds, all⟩)
    | @refused front other back _ before fails =>
      exact @refused β (check :: front) other back _ (List.forall_mem_cons.mpr ⟨holds, before⟩) fails
  · rw [if_pos (fails.mpr holds)]
    exact @refused β [] check checks _ (by simp) holds

/-- Checks whose success is followed by more checks. -/
theorem bind {more : List Check} {next : β → Except ConfigurationError γ} {final : γ}
    (first : Follows checks outcome value) (rest : Follows more (next value) final) :
    Follows (checks ++ more) (outcome.bind next) final := by
  cases first with
  | @refused front check back _ before fails =>
    rw [List.append_assoc]
    exact refused before fails
  | passed all =>
    change Follows (checks ++ more) (next value) final
    generalize next value = ended at rest
    cases rest with
    | passed others =>
      exact .passed (List.forall_mem_append.mpr ⟨all, others⟩)
    | @refused front check back _ before fails =>
      rw [← List.append_assoc]
      exact refused (List.forall_mem_append.mpr ⟨all, before⟩) fails

theorem map (f : β → γ) (follows : Follows checks outcome value) :
    Follows checks (f <$> outcome) (f value) := by
  cases follows with
  | passed all => exact .passed all
  | refused before fails => exact .refused before fails

/-- The checks in front of the first that fails are determined, and so is the error. -/
theorem error_iff (follows : Follows checks outcome value) {error : ConfigurationError} :
    outcome = .error error ↔ ∃ front check back, checks = front ++ check :: back ∧
      (∀ passed ∈ front, passed.holds) ∧ ¬check.holds ∧ error = check.error := by
  constructor
  · rintro rfl
    cases follows with
    | refused before fails => exact ⟨_, _, _, rfl, before, fails, rfl⟩
  · rintro ⟨front, check, back, rfl, before, fails, rfl⟩
    generalize whole : front ++ check :: back = checks at follows
    cases follows with
    | passed all =>
      subst whole
      exact absurd (all check (List.mem_append_right _ List.mem_cons_self)) fails
    | @refused front' check' back' _ before' fails' =>
      -- The shorter of two such fronts is followed by a check that holds in the longer one.
      obtain ⟨between, longer, rest⟩ | ⟨between, longer, rest⟩ := List.append_eq_append_iff.mp whole
      · cases between with
        | nil =>
          cases rest
          rfl
        | cons other between =>
          cases rest
          exact absurd (before' check (by simp [longer])) fails
      · cases between with
        | nil =>
          cases rest
          rfl
        | cons other between =>
          cases rest
          exact absurd (before check' (by simp [longer])) fails'

end Follows

/-- The checks of a request, made on behalf of an id. -/
def resourceChecks (agentId : String) (resources? : Option ResourcesSpec) : List Check :=
  [⟨resources?.bind (·.parallelism?) ≠ some 0,
      { ConfigurationError.invalidField "parallelism" "must be positive" with agentId? := some agentId }⟩,
    ⟨resources?.bind (·.size?) ≠ some 0,
      { ConfigurationError.invalidField "size" "must be positive" with agentId? := some agentId }⟩]

/-- What is granted of one field of a request: what the step asks for, else what the pipeline does, else
one. -/
def granted (field : ResourcesSpec → Option UInt32) (step? defaults? : Option ResourcesSpec) : UInt32 :=
  ((step?.bind field).or (defaults?.bind field)).getD 1

theorem resolve_granted (step? defaults? : Option ResourcesSpec) :
    EffectiveResources.resolve step? defaults? =
      ⟨granted (·.parallelism?) step? defaults?, granted (·.size?) step? defaults?⟩ := by
  cases step? <;> cases defaults? <;> rfl

namespace PipelineDefinition

variable (pipeline : PipelineDefinition)

/-- The steps with their positions, counted from one. -/
def numbered : List (StepDefinition × Nat) := pipeline.steps.zipIdx 1

/-- The ids of all steps, given or made. -/
def effectiveIds : List String :=
  pipeline.numbered.map fun (step, position) => stepId pipeline.id position step

/-- What is asked of the step at a position, in order. -/
def stepChecks (step : StepDefinition) (position : Nat) : List Check :=
  let id := stepId pipeline.id position step
  [⟨IsId id, .invalidField "id" ("'" ++ id ++ "' is not a valid step id")⟩,
    ⟨step.agentType ≠ "", { ConfigurationError.missingField "type" with agentId? := some id }⟩,
    ⟨id ∉ pipeline.effectiveIds.take (position - 1),
      { message := "duplicate step id '" ++ id ++ "'", agentId? := some id }⟩] ++
    resourceChecks id step.resources?

/-- Everything that is asked of a pipeline, in order. -/
def checks : List Check :=
  ⟨IsId pipeline.id, .invalidField "id" ("'" ++ pipeline.id ++ "' is not a valid pipeline id")⟩ ::
    (resourceChecks pipeline.id pipeline.resources? ++
      pipeline.numbered.flatMap fun (step, position) => pipeline.stepChecks step position)

/-- The step at a position once it is settled. -/
def settled (step : StepDefinition) (position : Nat) : ResolvedStep where
  id := stepId pipeline.id position step
  agentType := step.agentType
  configuration := step.configuration
  resources :=
    ⟨granted (·.parallelism?) step.resources? pipeline.resources?,
      granted (·.size?) step.resources? pipeline.resources?⟩

theorem resources_follow (agentId : String) (resources? : Option ResourcesSpec) :
    Follows (resourceChecks agentId resources?)
      (match resources? with
      | none => .ok ()
      | some resources => blaming agentId resources.validate) () := by
  cases resources? with
  | none => exact .passed (by simp [resourceChecks])
  | some resources =>
    have checked : blaming agentId resources.validate =
        if resources.parallelism? = some 0 then
          .error { ConfigurationError.invalidField "parallelism" "must be positive" with
            agentId? := some agentId }
        else if resources.size? = some 0 then
          .error { ConfigurationError.invalidField "size" "must be positive" with
            agentId? := some agentId }
        else .ok () := by
      unfold ResourcesSpec.validate
      split
      · rfl
      · split <;> rfl
    dsimp only
    rw [checked]
    exact .guard (by simp) (.guard (by simp) (.passed (by simp)))

theorem checkStep_follows {earlier : List String} {step : StepDefinition} {position : Nat}
    (before : ∀ id, id ∈ earlier ↔ id ∈ pipeline.effectiveIds.take (position - 1)) :
    Follows (pipeline.stepChecks step position)
      (checkStep earlier (stepId pipeline.id position step) step) () := by
  refine .guard (by simp [← isValidId_iff]) (.guard (by simp) (.guard ?_ (resources_follow _ _)))
  simp [before]

theorem resolveFrom_cons (earlier : List String) (position : Nat) (step : StepDefinition)
    (rest : List StepDefinition) :
    pipeline.resolveFrom earlier position (step :: rest) =
      (checkStep earlier (stepId pipeline.id position step) step).bind fun _ =>
        (pipeline.settled step position :: ·) <$>
          pipeline.resolveFrom (stepId pipeline.id position step :: earlier) (position + 1) rest := by
  simp only [resolveFrom, resolve_granted, settled, map_eq_pure_bind]
  rfl

/-- The steps that are left follow their checks, if the ids seen so far are those of the steps in front. -/
theorem resolveFrom_follows {front rest : List StepDefinition} (all : pipeline.steps = front ++ rest)
    {earlier : List String}
    (before : ∀ id, id ∈ earlier ↔ id ∈ pipeline.effectiveIds.take front.length) :
    Follows
      ((rest.zipIdx (front.length + 1)).flatMap fun (step, position) => pipeline.stepChecks step position)
      (pipeline.resolveFrom earlier (front.length + 1) rest)
      ((rest.zipIdx (front.length + 1)).map fun (step, position) => pipeline.settled step position) := by
  induction rest generalizing front earlier with
  | nil => exact .passed (by simp)
  | cons step rest ih =>
    let id := stepId pipeline.id (front.length + 1) step
    have own : pipeline.effectiveIds.take (front.length + 1) =
        pipeline.effectiveIds.take front.length ++ [id] := by
      rw [List.take_add_one]
      simp [effectiveIds, numbered, all, id, Nat.add_comm]
    -- With the id of this step, the ids seen are those of one step more.
    have further := @ih (front ++ [step]) (by simp [all]) (id :: earlier) fun other => by
      rw [List.length_append, List.length_singleton, own]
      simp [before, or_comm]
    rw [List.length_append, List.length_singleton] at further
    rw [resolveFrom_cons]
    exact .bind (pipeline.checkStep_follows before) (further.map _)

theorem resolve_follows :
    Follows pipeline.checks pipeline.resolve
      (pipeline.numbered.map fun (step, position) => pipeline.settled step position) := by
  have steps := @resolveFrom_follows pipeline [] pipeline.steps rfl [] (by simp)
  have unfolded : pipeline.resolve =
      if !isValidId pipeline.id then
        .error (.invalidField "id" ("'" ++ pipeline.id ++ "' is not a valid pipeline id"))
      else
        (match pipeline.resources? with
        | none => Except.ok ()
        | some resources => blaming pipeline.id resources.validate).bind fun _ =>
          pipeline.resolveFrom [] 1 pipeline.steps := by
    obtain ⟨id, resources?, steps⟩ := pipeline
    unfold resolve
    cases isValidId id <;> cases resources? <;> rfl
  rw [unfolded]
  exact .guard (by simp [← isValidId_iff]) (.bind (resources_follow _ _) steps)

theorem nodup_iff_forall_not_mem_take {α : Type} {items : List α} :
    items.Nodup ↔ ∀ (index : Nat) (below : index < items.length), items[index] ∉ items.take index := by
  rw [List.nodup_iff_pairwise_ne, List.pairwise_iff_getElem]
  constructor
  · intro distinct index below repeated
    obtain ⟨earlier, before, same⟩ := List.mem_take_iff_getElem.mp repeated
    exact distinct earlier index (by omega) below (by omega) same
  · intro fresh earlier index _ below before same
    exact fresh index below (List.mem_take_iff_getElem.mpr ⟨earlier, by omega, same⟩)

theorem forall_numbered_iff {holds : StepDefinition → Prop} :
    (∀ item ∈ pipeline.numbered, holds item.1) ↔ ∀ step ∈ pipeline.steps, holds step := by
  have same : pipeline.numbered.map Prod.fst = pipeline.steps := List.zipIdx_map_fst 1 pipeline.steps
  rw [← same, List.forall_mem_map]

/-- No step repeats the id of one in front of it. -/
theorem forall_fresh_iff :
    (∀ item ∈ pipeline.numbered,
      stepId pipeline.id item.2 item.1 ∉ pipeline.effectiveIds.take (item.2 - 1)) ↔
      pipeline.effectiveIds.Nodup := by
  rw [nodup_iff_forall_not_mem_take, List.forall_mem_iff_getElem]
  simp [effectiveIds, numbered]

/-- A made id may turn out to be the given id of an earlier step. -/
example :
    resolve {
      id := "p"
      steps := [{ agentType := "echo", id? := some "p-echo-2" }, { agentType := "echo" }] } =
      .error { message := "duplicate step id 'p-echo-2'", agentId? := some "p-echo-2" } := by
  decide +kernel

end PipelineDefinition

end Conveyor
