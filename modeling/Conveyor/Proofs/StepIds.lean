import Conveyor.Proofs.Resolution

/-! The ids that `resolve` makes for steps. Such an id joins the id of the pipeline, the type of the step
and its position, and ends in the digits behind its last hyphen. These digits are the position, whatever
hyphens and digits stand in front of them, so no two steps of a pipeline are given the same id by being left
without one. Only an id that was written down can repeat another. -/
namespace Conveyor

/-- What stands in front of the last separator and what stands behind it are both determined. -/
theorem eq_of_last_separator {α : Type} {separator : α} {front front' back back' : List α}
    (last : separator ∉ back) (last' : separator ∉ back')
    (same : front ++ separator :: back = front' ++ separator :: back') : front = front' ∧ back = back' := by
  obtain ⟨between, longer, rest⟩ | ⟨between, longer, rest⟩ := List.append_eq_append_iff.mp same
  · cases between with
    | nil =>
      cases rest
      exact ⟨(List.append_nil front).symm.trans longer.symm, rfl⟩
    | cons first between =>
      cases rest
      exact absurd (List.mem_append_right between List.mem_cons_self) last
  · cases between with
    | nil =>
      cases rest
      exact ⟨longer.trans (List.append_nil front'), rfl⟩
    | cons first between =>
      cases rest
      exact absurd (List.mem_append_right between List.mem_cons_self) last'

/-- A number is written without hyphens. -/
theorem hyphen_not_mem_number (number : Nat) : '-' ∉ (toString number).toList := by
  intro member
  rw [Nat.toString_eq_repr, Nat.toList_repr] at member
  have digit := Nat.isDigit_of_mem_toDigits (by decide) (by decide) member
  revert digit
  decide

/-- A number can be told from its digits. -/
theorem number_inj {one other : Nat} (same : (toString one).toList = (toString other).toList) :
    one = other := by
  have numbers := congrArg (fun digits => Nat.ofDigitChars 10 digits 0) same
  simpa [Nat.toString_eq_repr, Nat.toList_repr] using numbers

namespace PipelineDefinition

/-- A text with a hyphen and a number behind it is made of that text and that number only. -/
theorem numbered_text_inj {front front' : String} {number number' : Nat}
    (same : front ++ "-" ++ toString number = front' ++ "-" ++ toString number') :
    front = front' ∧ number = number' := by
  have characters := congrArg String.toList same
  simp only [String.toList_append, List.append_assoc] at characters
  obtain ⟨fronts, numbers⟩ := eq_of_last_separator (hyphen_not_mem_number number)
    (hyphen_not_mem_number number') characters
  exact ⟨String.toList_inj.mp fronts, number_inj numbers⟩

/-- Two steps of a pipeline without ids of their own get the same id only if they are of the same type and
at the same position. -/
theorem stepId_inj {pipelineId : String} {one other : StepDefinition} {position position' : Nat}
    (unnamed : one.id? = none) (unnamed' : other.id? = none)
    (same : stepId pipelineId position one = stepId pipelineId position' other) :
    one.agentType = other.agentType ∧ position = position' := by
  rw [stepId, stepId, unnamed, unnamed'] at same
  obtain ⟨fronts, positions⟩ := numbered_text_inj same
  exact ⟨(String.append_right_inj _).mp fronts, positions⟩

variable (pipeline : PipelineDefinition)

theorem getElem_numbered {index : Nat} (below : index < pipeline.numbered.length) :
    (pipeline.numbered[index]).2 = index + 1 := by
  simp [numbered, Nat.add_comm]

/-- A position has one step. -/
theorem numbered_inj {one other : StepDefinition × Nat} (member : one ∈ pipeline.numbered)
    (member' : other ∈ pipeline.numbered) (same : one.2 = other.2) : one = other := by
  obtain ⟨index, below, rfl⟩ := List.getElem_of_mem member
  obtain ⟨index', below', rfl⟩ := List.getElem_of_mem member'
  rw [getElem_numbered, getElem_numbered] at same
  cases Nat.succ.inj same
  rfl

/-- An id among those in front of a position is that of a step in front of it. -/
theorem exists_earlier {id : String} {position : Nat}
    (repeated : id ∈ pipeline.effectiveIds.take (position - 1)) :
    ∃ earlier ∈ pipeline.numbered, earlier.2 < position ∧ stepId pipeline.id earlier.2 earlier.1 = id := by
  obtain ⟨index, below, same⟩ := List.mem_take_iff_getElem.mp repeated
  have inside : index < pipeline.numbered.length := by
    simpa [effectiveIds] using (Nat.lt_min.mp below).2
  refine ⟨pipeline.numbered[index], List.getElem_mem inside, ?_, ?_⟩
  · have before := (Nat.lt_min.mp below).1
    rw [getElem_numbered]
    omega
  · simpa [effectiveIds] using same

/-- The text of the error about an id that is repeated. -/
def repeatedIdText (id : String) : String := "duplicate step id '" ++ id ++ "'"

theorem repeatedIdText_inj {id other : String} (same : repeatedIdText id = repeatedIdText other) :
    id = other :=
  (String.append_right_inj _).mp ((String.append_left_inj _).mp same)

theorem first_append {start rest : String} {first : Char} (begins : start.toList.head? = some first) :
    (start ++ rest).toList.head? = some first := by
  rw [String.toList_append, List.head?_append, begins]
  rfl

theorem first_repeatedIdText (id : String) : (repeatedIdText id).toList.head? = some 'd' :=
  first_append (first_append (by decide +kernel))

theorem first_invalidField (field reason : String) :
    (ConfigurationError.invalidField field reason).message.toList.head? = some 'i' :=
  first_append (first_append (first_append (by decide +kernel)))

theorem first_missingField (field : String) :
    (ConfigurationError.missingField field).message.toList.head? = some 'm' :=
  first_append (first_append (by decide +kernel))

/-- Of all that is asked of a pipeline, only that no step repeats an id is refused with this text. -/
theorem check_of_repeatedIdText {check : Check} (asked : check ∈ pipeline.checks) {id : String}
    (text : check.error.message = repeatedIdText id) :
    ∃ item ∈ pipeline.numbered, stepId pipeline.id item.2 item.1 = id ∧
      (check.holds ↔ id ∉ pipeline.effectiveIds.take (item.2 - 1)) := by
  -- The texts of all other errors begin with another letter.
  have start : check.error.message.toList.head? = some 'd' := text ▸ first_repeatedIdText id
  have noResources {agentId : String} {resources? : Option ResourcesSpec}
      (member : check ∈ resourceChecks agentId resources?) : False := by
    simp only [resourceChecks, List.mem_cons, List.not_mem_nil, or_false] at member
    rcases member with rfl | rfl <;> cases (first_invalidField _ _).symm.trans start
  simp only [checks, stepChecks, List.mem_cons, List.mem_append, List.mem_flatMap, List.not_mem_nil,
    or_false] at asked
  rcases asked with rfl | defaults | ⟨item, numbered, (rfl | rfl | rfl) | own⟩
  · cases (first_invalidField _ _).symm.trans start
  · exact (noResources defaults).elim
  · cases (first_invalidField _ _).symm.trans start
  · cases (first_missingField _).symm.trans start
  · have same : stepId pipeline.id item.2 item.1 = id := repeatedIdText_inj text
    exact ⟨item, numbered, same, by rw [same]⟩
  · exact (noResources own).elim

variable {pipeline}

/-- Steps without ids of their own get the same id only if they are the same. -/
theorem made_ids_distinct {one other : StepDefinition × Nat} (member : one ∈ pipeline.numbered)
    (member' : other ∈ pipeline.numbered) (unnamed : one.1.id? = none) (unnamed' : other.1.id? = none)
    (same : stepId pipeline.id one.2 one.1 = stepId pipeline.id other.2 other.1) : one = other :=
  pipeline.numbered_inj member member' (stepId_inj unnamed unnamed' same).2

/-- If an id occurs twice then one of the two steps was given it. -/
theorem named_of_repeated {earlier later : StepDefinition × Nat} (member : earlier ∈ pipeline.numbered)
    (member' : later ∈ pipeline.numbered) (before : earlier.2 < later.2) {id : String}
    (mine : stepId pipeline.id earlier.2 earlier.1 = id) (yours : stepId pipeline.id later.2 later.1 = id) :
    earlier.1.id? = some id ∨ later.1.id? = some id := by
  cases named : earlier.1.id? with
  | some text =>
    rw [stepId, named] at mine
    exact .inl (congrArg some mine)
  | none =>
    cases named' : later.1.id? with
    | some text =>
      rw [stepId, named'] at yours
      exact .inr (congrArg some yours)
    | none =>
      cases made_ids_distinct member member' named named' (mine.trans yours.symm)
      exact absurd before (Nat.lt_irrefl _)

variable (pipeline)

/-- An id is that of two steps, and one of them at least was given it. -/
def GivenTwice (id : String) : Prop :=
  ∃ earlier ∈ pipeline.numbered, ∃ later ∈ pipeline.numbered, earlier.2 < later.2 ∧
    stepId pipeline.id earlier.2 earlier.1 = id ∧ stepId pipeline.id later.2 later.1 = id ∧
    (earlier.1.id? = some id ∨ later.1.id? = some id)

/-- An id that resolving fails over was given to one of the steps that have it. -/
theorem givenTwice_of_refused {id : String} {error : ConfigurationError}
    (text : error.message = repeatedIdText id) (failed : pipeline.resolve = .error error) :
    pipeline.GivenTwice id := by
  obtain ⟨front, check, back, asked, -, fails, rfl⟩ := pipeline.resolve_follows.error_iff.mp failed
  obtain ⟨later, member, mine, fresh⟩ := pipeline.check_of_repeatedIdText (by rw [asked]; simp) text
  obtain ⟨earlier, member', before, yours⟩ :=
    pipeline.exists_earlier (not_not.mp fun new => fails (fresh.mpr new))
  exact ⟨earlier, member', later, member, before, yours, mine,
    named_of_repeated member' member before yours mine⟩

/-- Steps that are left without an id never get the same id, however often types repeat and whatever hyphens
and digits are in them. So if resolving fails over an id that is repeated, it is the id of two steps of which
one at least was given it, and a pipeline that names none of its steps never fails so. -/
theorem made_ids_never_clash :
    (∀ one ∈ pipeline.numbered, ∀ other ∈ pipeline.numbered, one.1.id? = none → other.1.id? = none →
      stepId pipeline.id one.2 one.1 = stepId pipeline.id other.2 other.1 → one = other) ∧
    (∀ (id : String) (error : ConfigurationError), error.message = "duplicate step id '" ++ id ++ "'" →
      pipeline.resolve = .error error → pipeline.GivenTwice id) ∧
    ((∀ step ∈ pipeline.steps, step.id? = none) → pipeline.effectiveIds.Nodup ∧
      ∀ (id : String) (error : ConfigurationError), error.message = "duplicate step id '" ++ id ++ "'" →
        pipeline.resolve ≠ .error error) := by
  refine ⟨fun one member other member' => made_ids_distinct member member',
    fun _ _ => pipeline.givenTwice_of_refused, fun unnamed => ?_⟩
  rw [← pipeline.forall_numbered_iff] at unnamed
  refine ⟨pipeline.forall_fresh_iff.mp fun later member again => ?_, fun id error text failed => ?_⟩
  · obtain ⟨earlier, member', before, same⟩ := pipeline.exists_earlier again
    cases made_ids_distinct member' member (unnamed _ member') (unnamed _ member) same
    exact absurd before (Nat.lt_irrefl _)
  · obtain ⟨earlier, member, later, member', -, -, -, named | named⟩ :=
      pipeline.givenTwice_of_refused text failed
    · cases (unnamed earlier member).symm.trans named
    · cases (unnamed later member').symm.trans named

/-- A pipeline whose second step is left without an id, and whose first step was given the one that is made
for it. -/
def foreseen : PipelineDefinition where
  id := "p"
  steps := [{ agentType := "echo", id? := some "p-echo-2" }, { agentType := "echo" }]

/-- A made id clashes with one that was given. -/
theorem foreseen_is_given :
    foreseen.resolve = .error { message := repeatedIdText "p-echo-2", agentId? := some "p-echo-2" } ∧
      foreseen.GivenTwice "p-echo-2" := by
  have failed : foreseen.resolve =
      .error { message := repeatedIdText "p-echo-2", agentId? := some "p-echo-2" } := by decide +kernel
  exact ⟨failed, foreseen.made_ids_never_clash.2.1 "p-echo-2" _ rfl failed⟩

end PipelineDefinition

end Conveyor
