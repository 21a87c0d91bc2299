import Conveyor.Proofs.Conservation
import Conveyor.Proofs.Grouping

/-! Records that are doubled again and again. A row of processors that each make two records of one
(`DuplicateProcessor`) makes as many as there are words over two letters, and since every stage keeps the
order of what it is given, the endings stand in the order of a lexicon. The first processor is called once
with the whole batch and the others lineage by lineage, but each counts as many records as it would in one
call: the batch, times the factor for every processor in front of it. -/
namespace Conveyor

open Testing

variable {ω α : Type}

section Counting

variable [Behaviour ω α]

/-- The one report of an agent has grown by what was taken and what was given. -/
def Counted (taken gave : Nat) (before after : List AgentStatus) : Prop :=
  ∃ report report', before = [report] ∧ after = [report'] ∧
    report'.metrics.totalIn = report.metrics.totalIn + taken ∧
    report'.metrics.totalOut = report.metrics.totalOut + gave

theorem Counted.trans {taken gave taken' gave' : Nat} {before between after : List AgentStatus}
    (one : Counted taken gave before between) (other : Counted taken' gave' between after) :
    Counted (taken + taken') (gave + gave') before after := by
  obtain ⟨report, middle, rfl, rfl, totalIn, totalOut⟩ := one
  obtain ⟨_, report', same, rfl, totalIn', totalOut'⟩ := other
  cases same
  exact ⟨report, report', rfl, rfl, by omega, by omega⟩

/-- A processor that never fails, makes a fixed number of records of each, and counts them. -/
def Multiplies (factor : Nat) : α → Prop :=
  Henceforth fun agent => ∀ records world,
    let reply := ((Behaviour.process records agent).effect world).1
    ∃ answers, reply.result = .ok answers ∧ answers.map Entry.source = records ∧
      (∀ answer ∈ answers, answer.isFailed = false) ∧
      Entry.countRecords answers = records.length * factor ∧
      Counted records.length (records.length * factor) (Behaviour.status agent)
        (Behaviour.status reply.agent)

namespace Chain

variable {factor : Nat}

/-- Lineage by lineage a later stage takes and makes what it would in one call. -/
theorem laterStage_multiplies {processor : α} (multiplies : Multiplies factor processor) (stage : Nat)
    {entries : List Entry} (alive : ∀ entry ∈ entries, entry.isFailed = false) (world : ω) :
    let ((after, results), _) := (laterStage stage processor entries).effect world
    (∀ entry ∈ results, entry.isFailed = false) ∧
      Entry.countRecords results = Entry.countRecords entries * factor ∧
      Counted (Entry.countRecords entries) (Entry.countRecords entries * factor)
        (Behaviour.status processor) (Behaviour.status after) := by
  induction entries generalizing processor world with
  | nil =>
    obtain ⟨-, -, -, -, -, report, -, one, -⟩ := multiplies.now [] world
    have none : Entry.countRecords [] = 0 := rfl
    refine ⟨alive, ?_, ?_⟩
    · exact (Nat.zero_mul factor).symm
    · rw [none, Nat.zero_mul]
      exact ⟨report, report, one, one, rfl, rfl⟩
  | cons entry rest ih =>
    obtain ⟨source, outcome⟩ := entry
    obtain ⟨first, others⟩ := List.forall_mem_cons.mp alive
    cases outcome with
    | failed error => cases first
    | records records =>
      -- The next lineage comes to the processor as this call leaves it.
      obtain ⟨answers, replied, -, safe, total, counted⟩ := multiplies.now records world
      obtain ⟨last, totals, more⟩ := ih (multiplies.after records world) others
        ((Behaviour.process records processor).effect world).2
      simp only [laterStage_cons, advance_effect, replied, ofReply_alive _ safe]
      refine ⟨List.forall_mem_cons.mpr ⟨rfl, last⟩, ?_, ?_⟩
      · rw [countRecords_cons, countRecords_cons, Nat.add_mul]
        exact congrArg₂ (· + ·) total totals
      · rw [countRecords_cons, Nat.add_mul]
        exact counted.trans more

/-- Every later stage takes what the one before it makes. -/
theorem laterStages_multiply {processors : List α} (multiply : ∀ agent ∈ processors, Multiplies factor agent)
    (stage : Nat) {entries : List Entry} (alive : ∀ entry ∈ entries, entry.isFailed = false) (world : ω)
    {place : Nat} {agent after : α} (there : processors[place]? = some agent)
    (there' : ((laterStages stage processors entries).effect world).1.1[place]? = some after) :
    Counted (Entry.countRecords entries * factor ^ place) (Entry.countRecords entries * factor ^ (place + 1))
      (Behaviour.status agent) (Behaviour.status after) := by
  induction processors generalizing stage entries world place with
  | nil => cases there
  | cons processor rest ih =>
    obtain ⟨head, others⟩ := List.forall_mem_cons.mp multiply
    obtain ⟨safe, total, counted⟩ := laterStage_multiplies head stage alive world
    rw [laterStages_cons] at there'
    cases place with
    | zero =>
      cases there
      cases there'
      rw [Nat.pow_zero, Nat.mul_one, Nat.zero_add, Nat.pow_one]
      exact counted
    | succ place =>
      have more := ih others (stage + 1) safe _ there there'
      rw [total, Nat.mul_assoc, Nat.mul_assoc, ← Nat.pow_succ', ← Nat.pow_succ'] at more
      exact more

/-- The processors of a row that all make the same number of records of each count a batch times that
number for every processor in front. -/
theorem runStages_multiply {processors : List α} (multiply : ∀ agent ∈ processors, Multiplies factor agent)
    (batch : List Handle) (world : ω) {place : Nat} {agent after : α}
    (there : processors[place]? = some agent)
    (there' : ((runStages processors batch).effect world).1.1[place]? = some after) :
    Counted (batch.length * factor ^ place) (batch.length * factor ^ (place + 1))
      (Behaviour.status agent) (Behaviour.status after) := by
  cases processors with
  | nil => cases there
  | cons first rest =>
    obtain ⟨head, others⟩ := List.forall_mem_cons.mp multiply
    obtain ⟨answers, replied, sources, safe, total, counted⟩ := head.now batch world
    simp only [runStages_effect, replied, firstEntries_of_sources _ sources] at there'
    cases place with
    | zero =>
      cases there
      cases there'
      rw [Nat.pow_zero, Nat.mul_one, Nat.zero_add, Nat.pow_one]
      exact counted
    | succ place =>
      have more := laterStages_multiply others 1 safe _ there there'
      rw [total, Nat.mul_assoc, Nat.mul_assoc, ← Nat.pow_succ', ← Nat.pow_succ'] at more
      exact more

/-- Over one batch after the other they count all records of the batches so. -/
theorem processAll_multiply [Clock ω] {chain : Chain α}
    (multiply : ∀ agent ∈ chain.processors, Multiplies factor agent) (batches : List (List Handle)) (world : ω)
    {place : Nat} {agent after : α} (there : chain.processors[place]? = some agent)
    (there' : ((chain.processAll batches).run world).value.1.processors[place]? = some after) :
    Counted (batches.flatten.length * factor ^ place) (batches.flatten.length * factor ^ (place + 1))
      (Behaviour.status agent) (Behaviour.status after) := by
  induction batches generalizing chain world agent with
  | nil =>
    have same : agent = after := Option.some.inj (there.symm.trans there')
    subst same
    obtain ⟨-, -, -, -, -, report, -, one, -⟩ := (multiply agent (List.mem_of_getElem? there)).now [] world
    rw [List.flatten_nil, List.length_nil, Nat.zero_mul, Nat.zero_mul]
    exact ⟨report, report, one, one, rfl, rfl⟩
  | cons batch batches ih =>
    have reach := runStages_reach chain.processors batch world
    have still : ∀ agent ∈ ((chain.process batch).run world).value.1.processors, Multiplies factor agent :=
      Henceforth.all_along multiply reach
    -- Between the first batch and the others the same processor stands at this place.
    obtain ⟨middle, between⟩ : ∃ middle, ((chain.process batch).run world).value.1.processors[place]? =
        some middle := by
      have within := (List.getElem?_eq_some_iff.mp there).1
      have within' : place < ((runStages chain.processors batch).effect world).1.1.length :=
        reach.length_eq ▸ within
      exact ⟨_, List.getElem?_eq_getElem within'⟩
    have first := runStages_multiply multiply batch world there between
    have others := ih still ((chain.process batch).run world).world between there'
    rw [List.flatten_cons, List.length_append, Nat.add_mul, Nat.add_mul]
    exact first.trans others

end Chain

end Counting

namespace StockAgent

/-- Processors of a fixed fan-out make that many records of each, for good. -/
theorem multiplies {agent : StockAgent} {factor : Nat} (known : agent.fanOut? = some factor) :
    Multiplies factor agent := by
  refine Henceforth.of_kept (fun agent => agent.fanOut? = some factor) ?_ ?_ known
  · intro agent records world known
    exact (process_fanOut known records world).1
  · intro agent known records world
    obtain ⟨function, answered, same⟩ := recordFunction_fanOut known
    obtain ⟨-, answers, replied, seen⟩ := process_recordFunction answered records world
    obtain ⟨sources, alive, total⟩ := countRecords_seen same seen
    obtain ⟨-, report, report', before, after, -, totalIn, totalOut⟩ := process_fanOut known records world
    exact ⟨answers, replied, sources, alive, total, report, report', before, after, totalIn, totalOut⟩

end StockAgent

section Words

/-- The words of a length over two letters, in the order of a lexicon. -/
def words : Nat → List (List Char)
  | 0 => [[]]
  | length + 1 => ['a', 'b'].flatMap fun letter => (words length).map (letter :: ·)

theorem words_succ (length : Nat) :
    words (length + 1) = (words length).map ('a' :: ·) ++ (words length).map ('b' :: ·) := by
  simp [words]

theorem length_words (length : Nat) : (words length).length = 2 ^ length := by
  induction length with
  | zero => rfl
  | succ length ih =>
    rw [words_succ, List.length_append, List.length_map, List.length_map, ih]
    omega

theorem mem_words_iff {length : Nat} {word : List Char} :
    word ∈ words length ↔ word.length = length ∧ ∀ letter ∈ word, letter = 'a' ∨ letter = 'b' := by
  induction length generalizing word with
  | zero =>
    rw [words, List.mem_singleton, List.length_eq_zero_iff]
    exact ⟨fun empty => ⟨empty, by simp [empty]⟩, And.left⟩
  | succ length ih =>
    rw [words_succ, List.mem_append, List.mem_map, List.mem_map]
    constructor
    · rintro (⟨rest, member, rfl⟩ | ⟨rest, member, rfl⟩)
      · obtain ⟨counted, letters⟩ := ih.mp member
        exact ⟨congrArg (· + 1) counted, List.forall_mem_cons.mpr ⟨.inl rfl, letters⟩⟩
      · obtain ⟨counted, letters⟩ := ih.mp member
        exact ⟨congrArg (· + 1) counted, List.forall_mem_cons.mpr ⟨.inr rfl, letters⟩⟩
    · rintro ⟨counted, letters⟩
      cases word with
      | nil => cases counted
      | cons first rest =>
        obtain ⟨letter, others⟩ := List.forall_mem_cons.mp letters
        have member := ih.mpr ⟨Nat.succ.inj counted, others⟩
        rcases letter with rfl | rfl
        · exact .inl ⟨rest, member, rfl⟩
        · exact .inr ⟨rest, member, rfl⟩

theorem words_ascend (length : Nat) : (words length).Pairwise (· < ·) := by
  induction length with
  | zero => exact List.pairwise_singleton ..
  | succ length ih =>
    have behind (letter : Char) : ((words length).map (letter :: ·)).Pairwise (· < ·) :=
      List.pairwise_map.mpr (ih.imp fun less => List.cons_lt_cons_iff.mpr (.inr ⟨rfl, less⟩))
    rw [words_succ, List.pairwise_append]
    refine ⟨behind 'a', behind 'b', ?_⟩
    intro one first other second
    obtain ⟨_, -, rfl⟩ := List.mem_map.mp first
    obtain ⟨_, -, rfl⟩ := List.mem_map.mp second
    exact List.cons_lt_cons_iff.mpr (.inl (by decide))

end Words

/-- A processor that doubles its records. -/
inductive Doubling : Agent StockAgent → Prop where
  | of (agent : Duplicate) : Doubling (.leaf (.duplicate agent))

namespace Doubling

/-- The two records that are made of one. -/
def function (record : Record) : Seen (List Record) :=
  .ok [Duplicate.extend record "a", Duplicate.extend record "b"]

theorem recordWise {agent : Agent StockAgent} (doubling : Doubling agent) :
    RecordWise Handle.record function agent := by
  obtain ⟨agent⟩ := doubling
  have known : (StockAgent.duplicate agent).recordFunction? = some function := rfl
  exact RecordWise.leaf (StockAgent.recordWise known)

theorem multiplies {agent : Agent StockAgent} (doubling : Doubling agent) : Multiplies 2 agent := by
  obtain ⟨agent⟩ := doubling
  have known : (StockAgent.duplicate agent).fanOut? = some 2 := rfl
  exact Henceforth.leaf (fun multiplies records world => multiplies records world)
    (StockAgent.multiplies known)

/-- A processor that doubles its records never stops to. -/
theorem lasts {agent : Agent StockAgent} (doubling : Doubling agent) : Henceforth Doubling agent := by
  refine Henceforth.of_kept Doubling ?_ id doubling
  rintro _ records world ⟨agent⟩
  exact .of _

/-- The record whose payload is the text of another's with an ending. -/
def ended (record : Record) (ending : List Char) : Record :=
  { record with value := .string (record.value.display ++ .ofList ending) }

theorem ended_extend (record : Record) (letter : Char) (ending : List Char) :
    ended (Duplicate.extend record (.ofList [letter])) ending = ended record (letter :: ending) := by
  have joined : record.value.display ++ .ofList [letter] ++ .ofList ending =
      record.value.display ++ String.ofList (letter :: ending) := by
    rw [String.append_assoc, ← String.ofList_append, List.singleton_append]
  exact congrArg (fun text => { record with value := .string text }) joined

/-- Doubled time and again, a record ends in all words of a length. -/
theorem kleisli_function (stages : Nat) (record : Record) :
    kleisli (List.replicate (stages + 1) function) record =
      some ((words (stages + 1)).map (ended record)) := by
  have halves (record : Record) : (function record).toOption =
      some [Duplicate.extend record (.ofList ['a']), Duplicate.extend record (.ofList ['b'])] := rfl
  -- The first stage puts a letter behind the text, and all others work on the two halves on their own.
  induction stages generalizing record with
  | zero => exact (kleisli_single function record).trans (halves record)
  | succ stages ih =>
    have half (letter : Char) : kleisli (List.replicate (stages + 1) function)
        (Duplicate.extend record (.ofList [letter])) =
          some (((words (stages + 1)).map (letter :: ·)).map (ended record)) := by
      rw [ih, List.map_map]
      exact congrArg some (List.map_congr_left fun ending _ => ended_extend record letter ending)
    have both : overAll (kleisli (List.replicate (stages + 1) function))
        [Duplicate.extend record (.ofList ['a']), Duplicate.extend record (.ofList ['b'])] =
          some (((words (stages + 1)).map ('a' :: ·)).map (ended record) ++
            (((words (stages + 1)).map ('b' :: ·)).map (ended record) ++ [])) := by
      rw [overAll_cons, overAll_cons, half 'a', half 'b']
      rfl
    rw [List.replicate_succ, kleisli, halves, words_succ, List.map_append]
    exact both.trans (by rw [List.append_nil])

end Doubling

open Doubling

/-- Processors in a row that double their records make of each record of a batch one record for every word
over two letters that has as many letters as there are processors. They are the source in everything but the
payload, which is the text of the source's with the word behind it, and stand in the order of the words in a
lexicon. Each processor counts the batch twice as often as the one in front of it, over one batch or many,
and the row stays such a row. -/
theorem fan_out_is_lexicographic :
    (∀ length, (words length).length = 2 ^ length ∧ (words length).Pairwise (· < ·) ∧
      ∀ word, word ∈ words length ↔
        word.length = length ∧ ∀ letter ∈ word, letter = 'a' ∨ letter = 'b') ∧
    ∀ chain : Chain (Agent StockAgent), chain.processors ≠ [] →
      (∀ agent ∈ chain.processors, Doubling agent) → ∀ (batch : List Handle) (world : Environment),
        let ((after, lineages), _) := (chain.process batch).effect world
        lineages.map Entry.yield = batch.map (fun source => (source,
          some ((words chain.processors.length).map fun word => { source.record with
            value := .string (source.record.value.display ++ .ofList word) }))) ∧
        after.processors.length = chain.processors.length ∧
        (∀ agent ∈ after.processors, Doubling agent) ∧
        (∀ place agent later, chain.processors[place]? = some agent →
          after.processors[place]? = some later →
            Counted (batch.length * 2 ^ place) (batch.length * 2 ^ (place + 1))
              (Behaviour.status agent) (Behaviour.status later)) ∧
        ∀ batches place agent later, chain.processors[place]? = some agent →
          ((chain.processAll batches).run world).value.1.processors[place]? = some later →
            Counted (batches.flatten.length * 2 ^ place) (batches.flatten.length * 2 ^ (place + 1))
              (Behaviour.status agent) (Behaviour.status later) := by
  refine ⟨fun length => ⟨length_words length, words_ascend length, fun word => mem_words_iff⟩, ?_⟩
  intro chain filled doubling batch world
  have reach := Chain.runStages_reach chain.processors batch world
  have multiply : ∀ agent ∈ chain.processors, Multiplies 2 agent :=
    fun agent member => (doubling agent member).multiplies
  refine ⟨?_, reach.length_eq.symm, ?_, ?_, ?_⟩
  · have recordWise : List.Forall₂ (RecordWise Handle.record)
        (List.replicate chain.processors.length function) chain.processors := by
      refine List.forall₂_iff_get.mpr ⟨List.length_replicate, fun place within there => ?_⟩
      rw [List.get_eq_getElem, List.getElem_replicate]
      exact (doubling _ (List.getElem_mem there)).recordWise
    obtain ⟨stages, count⟩ := Nat.exists_eq_succ_of_ne_zero (List.length_eq_zero_iff.not.mpr filled)
    refine (Chain.process_yields_row recordWise batch world).trans ?_
    simp only [count, Nat.succ_eq_add_one, kleisli_function]
    rfl
  · intro agent member
    exact (Henceforth.all_along (fun agent member => (doubling agent member).lasts) reach agent member).now
  · intro place agent later there there'
    exact Chain.runStages_multiply multiply batch world there there'
  · intro batches place agent later there there'
    exact Chain.processAll_multiply multiply batches world there there'

/-- A text that is doubled twice ends in four words, and the second processor has counted two records. -/
theorem fan_out_is_lexicographic_at_two :
    let first : Agent StockAgent := .leaf (.duplicate (.create "first" ⟨0, 0⟩))
    let second : Agent StockAgent := .leaf (.duplicate (.create "second" ⟨0, 0⟩))
    let chain : Chain (Agent StockAgent) := { processors := [first, second] }
    let source : Handle := ⟨0, .ofText "x"⟩
    let done := (chain.process [source]).effect ({ clock := ⟨0, 0⟩, nextHandle := 1 } : Environment)
    done.1.2.map Entry.yield =
        [(source, some [.ofText "xaa", .ofText "xab", .ofText "xba", .ofText "xbb"])] ∧
      ∃ later, done.1.1.processors[1]? = some later ∧
        Counted 2 4 (Behaviour.status second) (Behaviour.status later) := by
  intro first second chain source done
  have doubling : ∀ agent ∈ chain.processors, Doubling agent :=
    List.forall_mem_cons.mpr ⟨.of _, List.forall_mem_singleton.mpr (.of _)⟩
  obtain ⟨yields, -, -, counts, -⟩ := fan_out_is_lexicographic.2 chain nofun doubling [source]
    { clock := ⟨0, 0⟩, nextHandle := 1 }
  exact ⟨yields.trans (by decide), _, rfl, counts 1 second _ rfl rfl⟩

end Conveyor
