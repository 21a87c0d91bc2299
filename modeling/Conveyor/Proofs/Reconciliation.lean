import Conveyor.Chain.Reconcile

/-! Lining up answers (`reconcile`) is a matching of occurrences: the answer at a position is the first one
of that record that no earlier occurrence of the record has taken. Answers that line up already are the
special case in which the search takes them one by one, so there is only one rule to reason about. -/
namespace Conveyor.Reconciled

attribute [ext] Reconciled

/-- What the search finds for a record takes one answer of that record away, the first, and leaves
the answers of every other record as they were. -/
theorem takeFor_found {record : Handle} {answers others : List Entry} {answer : Entry}
    (found : takeFor record answers = some (answer, others)) :
    answers.filter (·.isFrom record) = answer :: others.filter (·.isFrom record) ∧
      ∀ other, other ≠ record → answers.filter (·.isFrom other) = others.filter (·.isFrom other) := by
  induction answers generalizing others with
  | nil => simp [takeFor] at found
  | cons head rest ih =>
    rw [takeFor] at found
    split at found
    · rename_i own
      simp only [Option.some.injEq, Prod.mk.injEq] at found
      obtain ⟨rfl, rfl⟩ := found
      refine ⟨by simp [own], fun other different => ?_⟩
      have source : head.source = record := by simpa [Entry.isFrom] using own
      have foreign : head.isFrom other = false := by
        simpa [Entry.isFrom, source] using different.symm
      simp [foreign]
    · rename_i foreign
      obtain ⟨⟨taken, left⟩, later, pair⟩ := Option.map_eq_some_iff.mp found
      simp only [Prod.mk.injEq] at pair
      obtain ⟨rfl, rfl⟩ := pair
      obtain ⟨own, rest⟩ := ih later
      refine ⟨by simpa [foreign] using own, fun other different => ?_⟩
      simp only [List.filter_cons, rest other different]

/-- The search finds nothing exactly when no answer belongs to the record. -/
theorem takeFor_eq_none_iff {record : Handle} {answers : List Entry} :
    takeFor record answers = none ↔ answers.filter (·.isFrom record) = [] := by
  induction answers with
  | nil => simp [takeFor]
  | cons head rest ih =>
    by_cases own : head.isFrom record = true
    · simp [takeFor, own]
    · simp [takeFor, own, ih]

/-- What is found belongs to the record it was searched for. -/
theorem takeFor_source {record : Handle} {answers others : List Entry} {answer : Entry}
    (found : takeFor record answers = some (answer, others)) : answer.source = record := by
  have own : answer ∈ answers.filter (·.isFrom record) := by simp [(takeFor_found found).1]
  simpa [Entry.isFrom] using (List.mem_filter.mp own).2

/-- The answer for the record at a position of a batch: if the record occurs there for the k-th time,
its k-th answer, and a failure if there are fewer. -/
def answerAt (agentId : String) (records : List Handle) (answers : List Entry) (position : Nat)
    (record : Handle) : Entry :=
  ((answers.filter (·.isFrom record))[(records.take position).count record]?).getD
    (unansweredEntry agentId record)

/-- The search gives every position of the batch the answer of its occurrence. -/
theorem search_getElem? (agentId : String) (records : List Handle) (answers : List Entry)
    (position : Nat) :
    (search agentId records answers).entries[position]? =
      records[position]?.map (answerAt agentId records answers position) := by
  induction records generalizing answers position with
  | nil => simp [search]
  | cons first rest ih =>
    rw [search]
    cases found : takeFor first answers with
    | none =>
      have empty := takeFor_eq_none_iff.mp found
      cases position with
      | zero => simp [answerAt, empty]
      | succ position =>
        simp only [List.getElem?_cons_succ, ih]
        refine Option.map_congr fun record _ => ?_
        by_cases same : first = record
        · subst same
          simp [answerAt, empty]
        · simp [answerAt, same]
    | some pair =>
      obtain ⟨answer, others⟩ := pair
      obtain ⟨own, foreign⟩ := takeFor_found found
      cases position with
      | zero => simp [answerAt, own]
      | succ position =>
        simp only [List.getElem?_cons_succ, ih]
        refine Option.map_congr fun record _ => ?_
        by_cases same : first = record
        · subst same
          simp [answerAt, own]
        · simp [answerAt, same, foreign record (Ne.symm same)]

/-- Lining up looks at the entries of each record of the batch for itself, and at no others. -/
theorem search_congr (agentId : String) {records : List Handle} {answers others : List Entry}
    (same : ∀ record ∈ records, others.filter (·.isFrom record) = answers.filter (·.isFrom record)) :
    (search agentId records others).entries = (search agentId records answers).entries := by
  refine List.ext_getElem? fun position => ?_
  rw [search_getElem?, search_getElem?]
  refine Option.map_congr fun record there => ?_
  rw [answerAt, answerAt, same record (List.mem_of_getElem? there)]

/-- Answers that line up already are what the search would find. -/
theorem search_of_aligned (agentId : String) {records : List Handle} {answers : List Entry}
    (lined : aligned records answers = true) :
    search agentId records answers = ⟨answers, 0, 0⟩ := by
  induction records generalizing answers with
  | nil =>
    cases answers with
    | nil => rfl
    | cons => simp [aligned] at lined
  | cons record records ih =>
    cases answers with
    | nil => simp [aligned] at lined
    | cons answer answers =>
      obtain ⟨own, rest⟩ := Bool.and_eq_true_iff.mp lined
      simp [search, takeFor, own, ih rest]

/-- Lining up is the search, whether or not the answers line up already. -/
theorem ofAnswers_eq_search (agentId : String) (records : List Handle) (answers : List Entry) :
    ofAnswers agentId records answers = search agentId records answers := by
  unfold ofAnswers
  split
  · rename_i lined
    exact (search_of_aligned agentId lined).symm
  · rfl

/-- Every record of the batch gets one entry of its own, in the order of the batch. -/
theorem search_sources (agentId : String) (records : List Handle) (answers : List Entry) :
    (search agentId records answers).entries.map Entry.source = records := by
  induction records generalizing answers with
  | nil => rfl
  | cons record records ih =>
    rw [search]
    cases found : takeFor record answers with
    | none => simp [ih, unansweredEntry, Entry.ofFailure]
    | some pair => simp [ih, takeFor_source found]

/-- Entries of the records of a batch, in its order, line up with it. -/
theorem aligned_sources (entries : List Entry) :
    aligned (entries.map Entry.source) entries = true := by
  induction entries with
  | nil => rfl
  | cons entry rest ih => simp [aligned, Entry.isFrom, ih]

/-- An occurrence of a record beyond the number of its answers is a failure. -/
theorem answerAt_unanswered {agentId : String} {records : List Handle} {answers : List Entry}
    {position : Nat} {record : Handle}
    (few : answers.countP (·.isFrom record) ≤ (records.take position).count record) :
    answerAt agentId records answers position record = unansweredEntry agentId record := by
  rw [List.countP_eq_length_filter] at few
  simp [answerAt, List.getElem?_eq_none few]

end Conveyor.Reconciled
