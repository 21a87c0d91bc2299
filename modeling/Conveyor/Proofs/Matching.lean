import Mathlib.Data.List.Count
import Mathlib.Data.List.Nodup
import Mathlib.Data.List.Perm.Basic
import Conveyor.Proofs.Stages
import Conveyor.Proofs.Reconciliation

/-! Lining up (`reconcile`) pairs the positions of a batch with the places of the answers. A position takes
the place of the answer of its own occurrence, if there is one; no place is taken twice, and the places that
remain are the stray answers. So the two counts in the warning follow from each other, and what a second
lining up or another order of distinct answers gives can be read off the pairing. -/
namespace Conveyor.Reconciled

/-- The place of the answer that a position of a batch takes: if its record occurs there for the k-th
time, the place of the k-th answer of that record. -/
def place? (records : List Handle) (answers : List Entry) (position : Nat) : Option Nat :=
  records[position]?.bind fun record =>
    (answers.findIdxs (·.isFrom record))[(records.take position).count record]?

/-- The places that a batch takes, in the order of its positions. -/
def taken (records : List Handle) (answers : List Entry) : List Nat :=
  (List.range records.length).filterMap (place? records answers)

theorem place?_eq_some_iff {records : List Handle} {answers : List Entry} {position place : Nat} :
    place? records answers position = some place ↔
      ∃ record, records[position]? = some record ∧
        (answers.findIdxs (·.isFrom record))[(records.take position).count record]? = some place := by
  simp only [place?, Option.bind_eq_some_iff]

/-- A position takes no place exactly when all answers of its record went to earlier occurrences. -/
theorem place?_eq_none_iff {records : List Handle} {answers : List Entry} {position : Nat} :
    place? records answers position = none ↔
      ∀ record, records[position]? = some record →
        answers.countP (·.isFrom record) ≤ (records.take position).count record := by
  simp only [place?, Option.bind_eq_none_iff, List.getElem?_eq_none_iff, List.length_findIdxs]

/-- The place that a position takes holds an answer of its record, the one of its occurrence. -/
theorem answer_of_place {records : List Handle} {answers : List Entry} {position place : Nat}
    (takes : place? records answers position = some place) :
    ∃ record answer, records[position]? = some record ∧ answers[place]? = some answer ∧
      answer.source = record ∧
        (answers.filter (·.isFrom record))[(records.take position).count record]? = some answer := by
  obtain ⟨record, there, found⟩ := place?_eq_some_iff.mp takes
  obtain ⟨bound, rfl⟩ := List.getElem?_eq_some_iff.mp found
  have inside : (records.take position).count record <
      (answers.filter (·.isFrom record)).length := by
    rwa [← List.countP_eq_length_filter, ← List.length_findIdxs (s := 0)]
  have here := List.getElem_filter_eq_getElem_getElem_findIdxs inside
  have own := (List.mem_filter.mp (List.getElem_mem inside)).2
  refine ⟨record, _, there, ?_, by simpa [Entry.isFrom] using own, List.getElem?_eq_getElem inside⟩
  rw [here, List.getElem?_eq_getElem]

/-- A position is given the answer at the place that it takes. -/
theorem search_at_place (agentId : String) {records : List Handle} {answers : List Entry}
    {position place : Nat} (takes : place? records answers position = some place) :
    ∃ answer, answers[place]? = some answer ∧
      (search agentId records answers).entries[position]? = some answer := by
  obtain ⟨record, answer, there, here, _, own⟩ := answer_of_place takes
  refine ⟨answer, here, ?_⟩
  rw [search_getElem?, there, Option.map_some, answerAt, own, Option.getD_some]

/-- An occurrence of a record comes after those at earlier positions. -/
theorem count_take_lt {records : List Handle} {record : Handle} {one two : Nat}
    (there : records[one]? = some record) (less : one < two) :
    (records.take one).count record < (records.take two).count record := by
  have through : (records.take (one + 1)).count record = (records.take one).count record + 1 := by
    simp [List.take_add_one, there]
  have upTo : (records.take (one + 1)).count record ≤ (records.take two).count record :=
    ((List.take_prefix_take_left less).sublist).count_le record
  omega

/-- No two positions take the same place: the record of the answer there is the record of both, and
so is the number of its occurrence. -/
theorem place?_injective {records : List Handle} {answers : List Entry} {one two place : Nat}
    (first : place? records answers one = some place)
    (second : place? records answers two = some place) : one = two := by
  have before : ∀ {one two : Nat}, place? records answers one = some place →
      place? records answers two = some place → ¬ one < two := by
    intro one two first second less
    obtain ⟨record, answer, there, here, own, _⟩ := answer_of_place first
    obtain ⟨other, same, there', here', own', _⟩ := answer_of_place second
    obtain rfl : answer = same := Option.some.inj (here.symm.trans here')
    obtain rfl : record = other := own.symm.trans own'
    obtain ⟨_, at_, first⟩ := place?_eq_some_iff.mp first
    obtain ⟨_, at_', second⟩ := place?_eq_some_iff.mp second
    obtain rfl := Option.some.inj (there.symm.trans at_)
    obtain rfl := Option.some.inj (there'.symm.trans at_')
    have later := count_take_lt there less
    have inside := (List.getElem?_eq_some_iff.mp first).1
    have same := (List.getElem?_inj inside List.nodup_findIdxs).mp (first.trans second.symm)
    omega
  rcases Nat.lt_trichotomy one two with less | same | more
  · exact absurd less (before first second)
  · exact same
  · exact absurd more (before second first)

/-- No answer is used twice. -/
theorem taken_nodup (records : List Handle) (answers : List Entry) :
    (taken records answers).Nodup := by
  refine List.Nodup.filterMap ?_ List.nodup_range
  intro one two place first second
  exact place?_injective first second

/-- What the search finds is one of the answers, and the others stay. -/
theorem takeFor_perm {record : Handle} {answers others : List Entry} {answer : Entry}
    (found : takeFor record answers = some (answer, others)) : answers.Perm (answer :: others) := by
  induction answers generalizing others with
  | nil => simp [takeFor] at found
  | cons head rest ih =>
    rw [takeFor] at found
    split at found
    · simp only [Option.some.injEq, Prod.mk.injEq] at found
      obtain ⟨rfl, rfl⟩ := found
      exact .refl _
    · obtain ⟨⟨taken, left⟩, later, pair⟩ := Option.map_eq_some_iff.mp found
      simp only [Prod.mk.injEq] at pair
      obtain ⟨rfl, rfl⟩ := pair
      exact ((ih later).cons head).trans (.swap _ _ _)

/-- Each record is answered or not, each answer is used or stray: the counts balance. -/
theorem search_balance (agentId : String) (records : List Handle) (answers : List Entry) :
    (search agentId records answers).stray + records.length =
      answers.length + (search agentId records answers).unanswered := by
  induction records generalizing answers with
  | nil => simp [search]
  | cons record records ih =>
    rw [search]
    cases found : takeFor record answers with
    | none =>
      have rest := ih answers
      simp only [List.length_cons]
      omega
    | some pair =>
      obtain ⟨answer, others⟩ := pair
      have rest := ih others
      have length := (takeFor_perm found).length_eq
      simp only [List.length_cons] at length ⊢
      omega

/-- The positions behind the first choose among what it leaves, in which their records occur once
less if they are its record. -/
theorem place?_behind {first : Handle} {records : List Handle} {answers others : List Entry}
    (left : ∀ record earlier, answers.countP (·.isFrom record) ≤
      earlier + (if first == record then 1 else 0) ↔ others.countP (·.isFrom record) ≤ earlier)
    (position : Nat) :
    (place? (first :: records) answers (position + 1)).isNone =
      (place? records others position).isNone := by
  rw [Bool.eq_iff_iff, Option.isNone_iff_eq_none, Option.isNone_iff_eq_none, place?_eq_none_iff,
    place?_eq_none_iff]
  simp only [List.getElem?_cons_succ, List.take_succ_cons, List.count_cons, left]

/-- The unanswered records are the positions that take no place. -/
theorem search_unanswered (agentId : String) (records : List Handle) (answers : List Entry) :
    (search agentId records answers).unanswered =
      (List.range records.length).countP fun position => (place? records answers position).isNone := by
  induction records generalizing answers with
  | nil => rfl
  | cons record records ih =>
    rw [search, List.length_cons, List.range_succ_eq_map, List.countP_cons, List.countP_map]
    cases found : takeFor record answers with
    | none =>
      have empty := takeFor_eq_none_iff.mp found
      have here : place? (record :: records) answers 0 = none := by
        rw [place?_eq_none_iff]
        rintro _ ⟨⟩
        simp [List.countP_eq_length_filter, empty]
      have left : ∀ other earlier, answers.countP (·.isFrom other) ≤
          earlier + (if record == other then 1 else 0) ↔ answers.countP (·.isFrom other) ≤ earlier := by
        intro other earlier
        by_cases same : record = other
        · subst same
          simp [List.countP_eq_length_filter, empty]
        · simp [same]
      change (search agentId records answers).unanswered + 1 = _
      rw [ih answers, here]
      exact congrArg (· + 1) (List.countP_congr fun position _ => by
        rw [Function.comp_apply, place?_behind left])
    | some pair =>
      obtain ⟨answer, others⟩ := pair
      obtain ⟨own, foreign⟩ := takeFor_found found
      have here : place? (record :: records) answers 0 ≠ none := by
        rw [Ne, place?_eq_none_iff]
        intro none
        have few := none record rfl
        simp [List.countP_eq_length_filter, own] at few
      have left : ∀ other earlier, answers.countP (·.isFrom other) ≤
          earlier + (if record == other then 1 else 0) ↔ others.countP (·.isFrom other) ≤ earlier := by
        intro other earlier
        by_cases same : record = other
        · subst same
          simp [List.countP_eq_length_filter, own]
        · simp [List.countP_eq_length_filter, same, foreign other (Ne.symm same)]
      change (search agentId records others).unanswered = _
      rw [ih others, Option.isNone_eq_false_iff.mpr (Option.isSome_iff_ne_none.mpr here)]
      exact List.countP_congr fun position _ => by
        rw [Function.comp_apply, place?_behind left]

/-- The stray answers are those at the places that no position takes. -/
theorem search_stray (agentId : String) (records : List Handle) (answers : List Entry) :
    (search agentId records answers).stray =
      (List.range answers.length).countP (· ∉ taken records answers) := by
  have inside : ∀ place ∈ taken records answers, place < answers.length := by
    intro place member
    obtain ⟨position, _, takes⟩ := List.mem_filterMap.mp member
    obtain ⟨_, _, _, here, _⟩ := answer_of_place takes
    exact (List.getElem?_eq_some_iff.mp here).1
  have used : (List.range answers.length).countP (· ∈ taken records answers) =
      (taken records answers).length := by
    rw [List.countP_eq_length_filter]
    refine ((List.perm_ext_iff_of_nodup (List.nodup_range.filter _)
      (taken_nodup records answers)).mpr fun place => ?_).length_eq
    simp only [List.mem_filter, List.mem_range, decide_eq_true_eq, and_iff_right_iff_imp]
    exact inside place
  have places := List.length_eq_countP_add_countP (l := List.range answers.length)
    (· ∈ taken records answers)
  have positions := List.length_eq_countP_add_countP (l := List.range records.length)
    fun position => (place? records answers position).isSome
  have balance := search_balance agentId records answers
  have others : (List.range records.length).countP
      (fun position => decide ¬(place? records answers position).isSome = true) =
        (search agentId records answers).unanswered := by
    rw [search_unanswered]
    exact List.countP_congr fun position _ => by simp
  rw [taken, List.length_filterMap_eq_countP] at used
  simp only [List.length_range, decide_eq_true_eq] at places positions others
  rw [taken] at places ⊢
  omega

/-- Answers of distinct records in another order are lined up alike. -/
theorem search_perm (agentId : String) (records : List Handle) {answers others : List Entry}
    (reordered : answers.Perm others) (distinct : (answers.map Entry.source).Nodup) :
    search agentId records others = search agentId records answers := by
  have same : ∀ record, others.filter (·.isFrom record) = answers.filter (·.isFrom record) := by
    intro record
    have few : (answers.filter (·.isFrom record)).length ≤ 1 := by
      have once := List.nodup_iff_count_le_one.mp distinct record
      rwa [List.count, List.countP_map, List.countP_eq_length_filter] at once
    have kept := reordered.filter (·.isFrom record)
    rcases none : answers.filter (·.isFrom record) with _ | ⟨answer, rest⟩
    · rw [none] at kept ⊢
      exact kept.nil_eq.symm
    · obtain rfl : rest = [] := by simpa [none] using few
      rw [none] at kept ⊢
      exact List.perm_singleton.mp kept.symm
  have entries : (search agentId records others).entries = (search agentId records answers).entries :=
    search_congr agentId fun record _ => same record
  have unanswered : (search agentId records others).unanswered =
      (search agentId records answers).unanswered := by
    rw [search_unanswered, search_unanswered]
    refine List.countP_congr fun position _ => ?_
    simp only [Option.isNone_iff_eq_none, place?_eq_none_iff, List.countP_eq_length_filter, same]
  have stray : (search agentId records others).stray = (search agentId records answers).stray := by
    have balance := search_balance agentId records answers
    have balance' := search_balance agentId records others
    have length := reordered.length_eq
    omega
  exact Reconciled.ext entries unanswered stray

/-- After the log of its processor the first stage warns of answers that do not match the batch. -/
theorem firstStage_log {ω α : Type} [Behaviour ω α] {processor : α} {records : List Handle}
    {world : ω} {answers : List Entry}
    (answered : ((Behaviour.process records processor).run world).value.result = .ok answers) :
    let agentId := Behaviour.agentId processor
    let lined := ofAnswers agentId records answers
    ((Chain.firstStage processor records).run world).log =
      ((Behaviour.process records processor).run world).log ++
        if 0 < lined.unanswered ∨ 0 < lined.stray then
          [.resultsMismatched agentId lined.unanswered lined.stray]
        else [] := by
  intro agentId lined
  simp only [Chain.firstStage, Chain.invoke, Activity.run_bind, answered]
  by_cases mismatch : 0 < lined.unanswered ∨ 0 < lined.stray
  · simp [isMismatch, mismatch, lined, agentId]
  · simp [isMismatch, mismatch, lined, agentId]

/-- Each position of the batch gets the answer at the place that it takes, and a failure if it takes
none. -/
theorem search_places (agentId : String) {records : List Handle} (answers : List Entry)
    {position : Nat} {record : Handle} (there : records[position]? = some record) :
    (search agentId records answers).entries[position]? =
      some (((place? records answers position).bind (answers[·]?)).getD
        (unansweredEntry agentId record)) := by
  cases takes : place? records answers position with
  | none =>
    have few := place?_eq_none_iff.mp takes record there
    rw [search_getElem?, there, Option.map_some, answerAt_unanswered few]
    rfl
  | some place =>
    obtain ⟨answer, here, given⟩ := search_at_place agentId takes
    rw [given, Option.bind_some, here, Option.getD_some]

/-- A second lining up finds every record answered and no answer left over. -/
theorem search_again (agentId : String) (records : List Handle) (answers : List Entry) :
    let entries := (search agentId records answers).entries
    ofAnswers agentId records entries = ⟨entries, 0, 0⟩ := by
  intro entries
  have lined : aligned records entries = true := by
    have own := aligned_sources entries
    rwa [search_sources] at own
  rw [ofAnswers, if_pos lined]

/-- Lining up matches occurrences. The k-th occurrence of a record in a batch gets the k-th answer of
that record, and a failure of the stage if there are fewer, whether or not the answers line up already.
The answers so given stand at distinct places, the stray ones are those at the other places, and the
warning tells these counts when one of them is positive. Lining up a second time changes nothing, nor
does another order of answers of distinct records. -/
theorem occurrences_are_matched {ω α : Type} [Behaviour ω α] (agentId : String)
    (records : List Handle) (answers : List Entry) :
    let lined := ofAnswers agentId records answers
    lined.entries.length = records.length ∧
    (∀ position record, records[position]? = some record →
      lined.entries[position]? = some
        ((answers.filter (·.isFrom record))[(records.take position).count record]?.getD
          ⟨record, .failed ⟨agentId, .processing, "no result for record"⟩⟩)) ∧
    lined = search agentId records answers ∧
    (∀ position record, records[position]? = some record →
      lined.entries[position]? = some
        (((place? records answers position).bind (answers[·]?)).getD
          ⟨record, .failed ⟨agentId, .processing, "no result for record"⟩⟩)) ∧
    (taken records answers).Nodup ∧
    lined.unanswered =
      (List.range records.length).countP (fun position => (place? records answers position).isNone) ∧
    lined.stray = (List.range answers.length).countP (· ∉ taken records answers) ∧
    lined.stray + records.length = answers.length + lined.unanswered ∧
    (∀ (processor : α) (world : ω), Behaviour.agentId processor = agentId →
      let reply := (Behaviour.process records processor).run world
      let stage := (Chain.firstStage processor records).run world
      reply.value.result = .ok answers →
        stage.value.2.1 = lined.entries ∧
        stage.log = reply.log ++
          if 0 < lined.unanswered ∨ 0 < lined.stray then
            [.resultsMismatched agentId lined.unanswered lined.stray]
          else []) ∧
    ofAnswers agentId records lined.entries = ⟨lined.entries, 0, 0⟩ ∧
    (∀ others, answers.Perm others → (answers.map Entry.source).Nodup →
      ofAnswers agentId records others = lined) := by
  intro lined
  have searched : lined = search agentId records answers := ofAnswers_eq_search agentId records answers
  have sources : lined.entries.map Entry.source = records := by
    rw [searched, search_sources]
  refine ⟨?_, ?_, searched, ?_, taken_nodup records answers, ?_, ?_, ?_, ?_, ?_, ?_⟩
  · have length := congrArg List.length sources
    rwa [List.length_map] at length
  · intro position record there
    rw [searched, search_getElem?, there]
    rfl
  · intro position record there
    rw [searched]
    exact search_places agentId answers there
  · rw [searched, search_unanswered]
  · rw [searched, search_stray]
  · rw [searched, search_balance]
  · rintro processor world rfl reply stage answered
    have entries : stage.value.2.1 =
        Chain.firstEntries (Behaviour.agentId processor) records reply.value.result :=
      congrArg (·.1.2.1) (Chain.firstStage_effect processor records world)
    rw [answered] at entries
    exact ⟨entries, firstStage_log answered⟩
  · rw [searched, search_again]
  · intro others reordered distinct
    rw [searched, ofAnswers_eq_search, search_perm agentId records reordered distinct]

/-- Answers for the third record and twice for the first: the second is left without one, and one
answer is left over. -/
example :
    let record : Nat → Handle := fun id => ⟨id, default⟩
    let answers := [Entry.passThrough (record 2), .passThrough (record 0), .passThrough (record 0)]
    taken [record 0, record 1, record 2] answers = [1, 0] ∧
      ofAnswers "stage" [record 0, record 1, record 2] answers = ⟨[.passThrough (record 0),
        unansweredEntry "stage" (record 1), .passThrough (record 2)], 1, 1⟩ := by
  decide

end Conveyor.Reconciled
