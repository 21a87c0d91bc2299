import Conveyor.Proofs.RecordFunctions

/-! Processors that answer each record for itself may be grouped into composites (`CompositeAgentProcessor`)
in any way. Inside a composite the records of a lineage are lineages of their own, and they are put together
again behind it, so which failure ends a lineage may depend on the grouping. Whether it fails does not, nor
what it produces: both are told by the functions of the leaves from left to right, applied to the record
that the lineage starts from. The reason is that functions on records which either fail or give some records
compose associatively once it is forgotten how they fail. -/
namespace Conveyor

variable {ω σ ν : Type}

section Functions

/-- What functions in a row make of a record, from left to right: each record is replaced in order by
what the next function makes of it, and nothing is made at all if one of them fails a record. -/
def kleisli : List (ν → Seen (List ν)) → ν → Option (List ν)
  | [], record => some [record]
  | function :: rest, record => (function record).toOption >>= overAll (kleisli rest)

/-- On the way from a record through functions in a row, some record is reached that is failed by the
function it comes to. -/
inductive FailsOnTheWay : List (ν → Seen (List ν)) → ν → Prop where
  | here {function : ν → Seen (List ν)} {rest : List (ν → Seen (List ν))} {record : ν}
      {error : ProcessingError} (failed : function record = .error error) :
      FailsOnTheWay (function :: rest) record
  | later {function : ν → Seen (List ν)} {rest : List (ν → Seen (List ν))} {record reached : ν}
      {produced : List ν} (made : function record = .ok produced) (among : reached ∈ produced)
      (fails : FailsOnTheWay rest reached) : FailsOnTheWay (function :: rest) record

theorem overAll_cons {m : Type → Type} [Monad m] (function : ν → m (List ν)) (record : ν)
    (rest : List ν) :
    overAll function (record :: rest) = do
      let items ← function record
      let others ← overAll function rest
      return items ++ others := rfl

theorem overAll_single {m : Type → Type} [Monad m] [LawfulMonad m] (function : ν → m (List ν))
    (record : ν) : overAll function [record] = function record := by
  simp [overAll, collect]

theorem overAll_singletons (records : List ν) :
    overAll (fun record => some [record]) records = some records := by
  induction records with
  | nil => rfl
  | cons record rest ih =>
    rw [overAll_cons, ih]
    rfl

theorem overAll_append (function : ν → Option (List ν)) (records others : List ν) :
    overAll function (records ++ others) = do
      let items ← overAll function records
      let more ← overAll function others
      return items ++ more := by
  induction records with
  | nil => simp [overAll, collect]
  | cons record rest ih =>
    rw [List.cons_append, overAll_cons, overAll_cons, ih]
    simp only [bind_assoc, pure_bind, List.append_assoc]

/-- One function after the other on all records is both in a row on each record. -/
theorem overAll_overAll (first second : ν → Option (List ν)) (records : List ν) :
    overAll first records >>= overAll second =
      overAll (fun record => first record >>= overAll second) records := by
  induction records with
  | nil => rfl
  | cons record rest ih =>
    rw [overAll_cons, overAll_cons, ← ih]
    simp only [bind_assoc, pure_bind, overAll_append]
    cases first record with
    | none => rfl
    | some items =>
      cases overAll first rest with
      | none =>
        change none = overAll second items >>= fun _ => none
        cases overAll second items <;> rfl
      | some others => rfl

theorem overAll_eq_none_iff {function : ν → Option (List ν)} {records : List ν} :
    overAll function records = none ↔ ∃ record ∈ records, function record = none := by
  induction records with
  | nil => simp [overAll, collect]
  | cons record rest ih =>
    rw [overAll_cons, List.exists_mem_cons_iff, ← ih]
    cases function record <;> cases overAll function rest <;> simp

theorem toOption_bind {β γ : Type} (made : Seen β) (next : β → Seen γ) :
    (made >>= next).toOption = made.toOption >>= fun value => (next value).toOption := by
  cases made <;> rfl

theorem toOption_overAll (function : ν → Seen (List ν)) (records : List ν) :
    (overAll function records).toOption = overAll (fun record => (function record).toOption) records := by
  induction records with
  | nil => rfl
  | cons record rest ih =>
    simp only [overAll_cons, toOption_bind, ih]
    rfl

theorem kleisli_append (front back : List (ν → Seen (List ν))) (record : ν) :
    kleisli (front ++ back) record = kleisli front record >>= overAll (kleisli back) := by
  induction front generalizing record with
  | nil => exact (overAll_single _ record).symm
  | cons function rest ih =>
    have same : kleisli (rest ++ back) = fun record => kleisli rest record >>= overAll (kleisli back) :=
      funext ih
    rw [List.cons_append, kleisli, kleisli, same, bind_assoc]
    simp only [overAll_overAll]

theorem kleisli_single (function : ν → Seen (List ν)) (record : ν) :
    kleisli [function] record = (function record).toOption := by
  have same : kleisli ([] : List (ν → Seen (List ν))) = fun record => some [record] := rfl
  rw [kleisli, same]
  cases (function record).toOption with
  | none => rfl
  | some produced => exact overAll_singletons produced

/-- Stage by stage on all records comes to the same as from left to right on each of them, apart from
which failure is met first. -/
theorem toOption_inTurn (functions : List (ν → Seen (List ν))) (records : List ν) :
    (inTurn (functions.map overAll) records).toOption = overAll (kleisli functions) records := by
  induction functions generalizing records with
  | nil => exact (overAll_singletons records).symm
  | cons function rest ih =>
    rw [List.map_cons, inTurn, toOption_bind, toOption_overAll]
    simp only [ih]
    exact overAll_overAll _ _ records

theorem kleisli_eq_none_iff {functions : List (ν → Seen (List ν))} {record : ν} :
    kleisli functions record = none ↔ FailsOnTheWay functions record := by
  induction functions generalizing record with
  | nil =>
    constructor
    · intro missing
      cases missing
    · intro fails
      cases fails
  | cons function rest ih =>
    rw [kleisli]
    cases made : function record with
    | error error => exact ⟨fun _ => .here made, fun _ => rfl⟩
    | ok produced =>
      change overAll (kleisli rest) produced = none ↔ _
      rw [overAll_eq_none_iff]
      constructor
      · rintro ⟨reached, among, none⟩
        exact .later made among (ih.mp none)
      · intro fails
        cases fails with
        | here failed => rw [made] at failed; cases failed
        | later made' among fails =>
          cases made.symm.trans made'
          exact ⟨_, among, ih.mpr fails⟩

end Functions

namespace Agent

mutual

/-- The leaves of a tree that records come to, depth first. What stands at the ends of a chain inside
sees none. -/
def leaves : Agent σ → List σ
  | .leaf agent => [agent]
  | .composite _ _ chain => chainLeaves chain

/-- The leaves behind the processors of a chain. -/
def chainLeaves : Chain (Agent σ) → List σ
  | ⟨_, processors, _, _⟩ => listLeaves processors

/-- The leaves of some trees, one after the other. -/
def listLeaves : List (Agent σ) → List σ
  | [] => []
  | agent :: rest => leaves agent ++ listLeaves rest

end

theorem chainLeaves_eq (chain : Chain (Agent σ)) : chainLeaves chain = listLeaves chain.processors := by
  obtain ⟨source?, processors, sink?, metrics⟩ := chain
  rfl

theorem listLeaves_leaf (agents : List σ) : listLeaves (agents.map .leaf) = agents := by
  induction agents with
  | nil => rfl
  | cons agent rest ih =>
    rw [List.map_cons, listLeaves, ih]
    rfl

end Agent

section Trees

variable [Behaviour ω σ]

/-- Processors that answer each record for itself answer a batch record by record, stage by stage. -/
theorem Chain.runStages_recordWise {α : Type} [Behaviour ω α] {view : Handle → ν}
    {functions : List (ν → Seen (List ν))} {processors : List α}
    (recordWise : List.Forall₂ (RecordWise view) functions processors) (records : List Handle)
    (world : ω) :
    ((Chain.runStages processors records).effect world).1.2.map (Entry.seen view) =
      records.map fun record => (record, inTurn (functions.map overAll) [view record]) := by
  cases recordWise with
  | nil => simp [Chain.runStages, Entry.seen, Entry.passThrough, Entry.ofRecords, Outcome.seen, inTurn]
  | @cons function first _ _ head rest =>
    have transforms := rest.imp fun _ _ kept => RecordWise.transforms kept
    rw [Chain.runStages_transform (List.forall₂_map_left_iff.mpr transforms),
      Chain.entered_recordWise head, List.map_map]
    refine List.map_congr_left fun record _ => ?_
    rw [Function.comp_apply, leadOn, List.map_cons, inTurn, overAll_single]

variable [Clock ω] {view : Handle → ν}

theorem RecordWise.leaf {function : ν → Seen (List ν)} {agent : σ}
    (recordWise : RecordWise view function agent) : RecordWise view function (Agent.leaf agent) :=
  Henceforth.leaf (fun answered records world => answered records world) recordWise

/-- A composite of processors that answer each record for itself is such a processor. -/
theorem RecordWise.composite {functions : List (ν → Seen (List ν))} (identity : Identity)
    (registry : RegistryKey) {chain : Chain (Agent σ)}
    (recordWise : List.Forall₂ (RecordWise view) functions chain.processors) :
    RecordWise view (fun record => inTurn (functions.map overAll) [record])
      (Agent.composite identity registry chain) := by
  refine Henceforth.composite identity registry
    (fun chain => List.Forall₂ (RecordWise view) functions chain.processors) ?_ ?_ recordWise
  · intro chain records world recordWise
    exact Henceforth.forall₂_along recordWise (Chain.runStages_reach chain.processors records world)
  · intro chain recordWise records world
    rw [Agent.process_composite]
    exact ⟨_, rfl, Chain.runStages_recordWise recordWise records world⟩

namespace Agent

mutual

/-- A tree over leaves that answer each record for itself is such a processor, and makes of a record
what its leaves make of it from left to right. -/
theorem recordWise_tree : ∀ (agent : Agent σ) {functions : List (ν → Seen (List ν))},
    List.Forall₂ (RecordWise view) functions agent.leaves →
    ∃ function, RecordWise view function agent ∧
      ∀ record, (function record).toOption = kleisli functions record
  | .leaf agent, functions, recordWise => by
    obtain ⟨function, rfl, alone⟩ : ∃ function, functions = [function] ∧
        RecordWise view function agent := by
      cases recordWise with
      | cons head none =>
        cases none
        exact ⟨_, rfl, head⟩
    exact ⟨function, alone.leaf, fun record => (kleisli_single function record).symm⟩
  | .composite identity registry ⟨source?, processors, sink?, metrics⟩, functions, recordWise => by
    obtain ⟨inner, each, same⟩ := recordWise_list processors recordWise
    refine ⟨_, RecordWise.composite identity registry each, fun record => ?_⟩
    rw [toOption_inTurn, overAll_single, same]

/-- The same of trees one after the other. -/
theorem recordWise_list : ∀ (agents : List (Agent σ)) {functions : List (ν → Seen (List ν))},
    List.Forall₂ (RecordWise view) functions (listLeaves agents) →
    ∃ inner, List.Forall₂ (RecordWise view) inner agents ∧
      ∀ record, kleisli inner record = kleisli functions record
  | [], functions, recordWise => by
    cases recordWise
    exact ⟨[], .nil, fun record => rfl⟩
  | agent :: rest, functions, recordWise => by
    have first := List.forall₂_take_append functions agent.leaves (listLeaves rest) recordWise
    have others := List.forall₂_drop_append functions agent.leaves (listLeaves rest) recordWise
    obtain ⟨function, alone, same⟩ := recordWise_tree agent first
    obtain ⟨inner, each, behind⟩ := recordWise_list rest others
    refine ⟨function :: inner, .cons alone each, fun record => ?_⟩
    rw [kleisli, same, funext behind, ← kleisli_append, List.take_append_drop]

end

end Agent

/-- The source of a lineage, and the content of the records that it produces unless it fails. -/
def Entry.yield (entry : Entry) : Handle × Option (List Record) :=
  (entry.source, entry.produced?.map (·.map Handle.record))

theorem Entry.yield_eq_seen (entry : Entry) :
    entry.yield = ((entry.seen Handle.record).1, (entry.seen Handle.record).2.toOption) := by
  obtain ⟨source, outcome⟩ := entry
  cases outcome <;> rfl

/-- A chain of processors that answer each record for itself yields what they make of each record from left
to right. -/
theorem Chain.process_yields_row {α : Type} [Behaviour ω α] {chain : Chain α}
    {functions : List (Record → Seen (List Record))}
    (recordWise : List.Forall₂ (RecordWise Handle.record) functions chain.processors)
    (batch : List Handle) (world : ω) :
    ((chain.process batch).run world).value.2.map Entry.yield =
      batch.map fun record => (record, kleisli functions record.record) := by
  have results : ((chain.process batch).run world).value.2 =
      ((Chain.runStages chain.processors batch).effect world).1.2 := rfl
  have seen := congrArg (List.map fun lineage => (lineage.1, lineage.2.toOption))
    (Chain.runStages_recordWise recordWise batch world)
  simp only [List.map_map, Function.comp_def, ← Entry.yield_eq_seen] at seen
  rw [results, seen]
  refine List.map_congr_left fun record _ => ?_
  rw [toOption_inTurn, overAll_single]

/-- They do so with one batch after the other. -/
theorem Chain.processAll_yields {α : Type} [Behaviour ω α] {chain : Chain α}
    {functions : List (Record → Seen (List Record))}
    (recordWise : List.Forall₂ (RecordWise Handle.record) functions chain.processors)
    (batches : List (List Handle)) (world : ω) :
    ((chain.processAll batches).run world).value.2.map (List.map Entry.yield) =
      batches.map (List.map fun record => (record, kleisli functions record.record)) := by
  induction batches generalizing chain world with
  | nil => rfl
  | cons batch batches ih =>
    have first := Chain.process_yields_row recordWise batch world
    have still : List.Forall₂ (RecordWise Handle.record) functions
        ((chain.process batch).run world).value.1.processors :=
      Henceforth.forall₂_along recordWise (Chain.runStages_reach chain.processors batch world)
    have others := ih still ((chain.process batch).run world).world
    exact congr (congrArg List.cons first) others

/-- A chain of trees over leaves that answer each record for itself yields what its leaves make of each
record from left to right. -/
theorem Chain.process_yields {chain : Chain (Agent σ)}
    {functions : List (Record → Seen (List Record))}
    (recordWise : List.Forall₂ (RecordWise Handle.record) functions (Agent.chainLeaves chain))
    (batch : List Handle) (world : ω) :
    ((chain.process batch).run world).value.2.map Entry.yield =
      batch.map fun record => (record, kleisli functions record.record) := by
  rw [Agent.chainLeaves_eq] at recordWise
  obtain ⟨inner, each, same⟩ := Agent.recordWise_list chain.processors recordWise
  rw [Chain.process_yields_row each]
  exact List.map_congr_left fun record _ => congrArg (Prod.mk record) (same record.record)

end Trees

/-- Identity, echo, drop, set-header and duplicate processors, probes, and failing processors that
report, answer each record for itself by a function of its content. A chain of composites nested in any
way over such leaves fails the same lineages as the chain of its leaves depth first, and the others
yield records of the same content in the same order: what the functions of the leaves make of the source
from left to right. They make nothing just when they fail a record that is reached on the way. -/
theorem grouping_keeps_meaning :
    (∀ (agent : StockAgent) function, agent.recordFunction? = some function →
      RecordWise Handle.record function agent) ∧
    ∀ {ω σ : Type} [Behaviour ω σ] [Clock ω] (chain : Chain (Agent σ))
      (functions : List (Record → Seen (List Record))),
      List.Forall₂ (RecordWise Handle.record) functions (Agent.chainLeaves chain) →
      let flat : Chain (Agent σ) :=
        { chain with processors := (Agent.chainLeaves chain).map .leaf }
      ∀ (batch : List Handle) (world : ω),
        let grouped := ((chain.process batch).run world).value.2
        let ungrouped := ((flat.process batch).run world).value.2
        grouped.map Entry.yield = ungrouped.map Entry.yield ∧
        grouped.map Entry.yield =
          batch.map (fun record => (record, kleisli functions record.record)) ∧
        ∀ record, kleisli functions record = none ↔ FailsOnTheWay functions record := by
  refine ⟨fun agent function known => StockAgent.recordWise known, ?_⟩
  intro ω σ _ _ chain functions recordWise flat batch world grouped ungrouped
  have leaves : Agent.chainLeaves flat = Agent.chainLeaves chain :=
    (Agent.chainLeaves_eq flat).trans (Agent.listLeaves_leaf _)
  have one : grouped.map Entry.yield = _ := Chain.process_yields recordWise batch world
  have other : ungrouped.map Entry.yield = _ :=
    Chain.process_yields (leaves.symm ▸ recordWise) batch world
  exact ⟨one.trans other.symm, one, fun record => kleisli_eq_none_iff⟩

section Nested

open Testing

/-- Doubles its records. -/
def doubling : StockAgent := .duplicate (.create "twice" ⟨0, 0⟩)

/-- Fails the records of one payload. -/
def reporting : StockAgent :=
  .failing (.create "report" (.reportOnValue (.string "xb")) "refused" ⟨0, 0⟩)

/-- Records are doubled and then, within a composite beside an empty one, some are failed. -/
def doublingThenReporting : Chain (Agent StockAgent) where
  processors := [.leaf doubling,
    .composite ⟨"group", "composite-agent", ⟨0, 0⟩⟩ ⟨0⟩
      { processors := [.composite ⟨"hollow", "composite-agent", ⟨0, 0⟩⟩ ⟨0⟩ {}, .leaf reporting] }]

/-- Of a record of which one half is failed nothing is left, of another both halves are. -/
theorem grouping_keeps_meaning_of_halves :
    let functions := [doubling, reporting].filterMap StockAgent.recordFunction?
    let x : Handle := ⟨0, .ofText "x"⟩
    let y : Handle := ⟨1, .ofText "y"⟩
    List.Forall₂ (RecordWise Handle.record) functions (Agent.chainLeaves doublingThenReporting) ∧
    ((doublingThenReporting.process [x, y]).run ({ clock := ⟨0, 0⟩ } : Environment)).value.2.map
      Entry.yield = [(x, none), (y, some [.ofText "ya", .ofText "yb"])] := by
  intro functions x y
  have leaves : List.Forall₂ (RecordWise Handle.record) functions
      (Agent.chainLeaves doublingThenReporting) :=
    .cons (grouping_keeps_meaning.1 doubling _ rfl)
      (.cons (grouping_keeps_meaning.1 reporting _ rfl) .nil)
  have yields := grouping_keeps_meaning.2 doublingThenReporting functions leaves [x, y] { clock := ⟨0, 0⟩ }
  exact ⟨leaves, yields.2.1.trans (by decide)⟩

end Nested

end Conveyor
