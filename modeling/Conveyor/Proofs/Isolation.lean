import Conveyor.Proofs.RecordFunctions

/-! Lineages do not get in each other's way. Behind processors without memory the stages of a chain
(`run_stages`) can be exchanged with the lineages: every entry of the first stage comes to what it would
come to if it went through the later stages on its own. So what becomes of a lineage is decided by its own
entry, whatever the others contain and however they fail. The first processor may do as it likes; if it too
answers each record for itself, a batch is processed as the parts that it is made of. -/
namespace Conveyor

/-- A lineage of which the source too is only looked at. -/
def Entry.shown {ν : Type} (view : Handle → ν) (entry : Entry) : ν × Seen (List ν) :=
  (view entry.source, entry.outcome.seen view)

namespace Chain

variable {ω α ν : Type} [Behaviour ω α]

theorem habits_transform {view : Handle → ν} {habits : List (Habit ν)} {processors : List α}
    (stateless : List.Forall₂ (Stateless view) habits processors) :
    List.Forall₂ (Transforms view) (habits.map Habit.outcome) processors :=
  List.forall₂_map_left_iff.mpr (stateless.imp fun _ _ kept => kept.transforms)

variable [Clock ω]

/-- Behind the first stage every lineage is led on by the habits of the other processors. -/
theorem process_seen {chain : Chain α} {first : α} {rest : List α}
    (shape : chain.processors = first :: rest) {view : Handle → ν} {habits : List (Habit ν)}
    (stateless : List.Forall₂ (Stateless view) habits rest) (batch : List Handle) (world : ω) :
    ((chain.process batch).run world).value.2.map (Entry.seen view) =
      ((entered first batch world).map (Entry.seen view)).map
        (leadOn (inTurn (habits.map Habit.outcome))) := by
  have results : ((chain.process batch).run world).value.2 =
      ((runStages chain.processors batch).effect world).1.2 := rfl
  rw [results, shape]
  exact runStages_transform (habits_transform stateless) first batch world

/-- If the processors behind the first have no memory, then processing a batch comes to what each entry
of the first stage comes to on its own in the later stages. So two batches, processed at any times by
chains of the same habits, end alike at a position if their first stages end alike there, no matter what
stands at the other positions. If moreover the first processor answers each record for itself, then two
batches in one are processed as one after the other. -/
theorem lineages_are_isolated (view : Handle → ν) (habits : List (Habit ν)) {one other : Chain α}
    {first first' : α} {rest rest' : List α} (shape : one.processors = first :: rest)
    (shape' : other.processors = first' :: rest')
    (stateless : List.Forall₂ (Stateless view) habits rest)
    (stateless' : List.Forall₂ (Stateless view) habits rest') :
    (∀ batch world (alone : Entry → ω),
      ((one.process batch).run world).value.2.map (Entry.seen view) =
        (entered first batch world).flatMap fun entry =>
          ((laterStages 1 rest [entry]).run (alone entry)).value.2.map (Entry.seen view)) ∧
    (∀ batch batch' world world' (position : Nat),
      (entered first batch world)[position]?.map (Entry.shown view) =
        (entered first' batch' world')[position]?.map (Entry.shown view) →
      ((one.process batch).run world).value.2[position]?.map (Entry.shown view) =
        ((other.process batch').run world').value.2[position]?.map (Entry.shown view)) ∧
    (∀ function, RecordWise view function first → RecordWise view function first' →
      ∀ batch batch' world world' world'',
        ((one.process (batch ++ batch')).run world).value.2.map (Entry.seen view) =
          ((one.process batch).run world').value.2.map (Entry.seen view) ++
            ((other.process batch').run world'').value.2.map (Entry.seen view)) := by
  refine ⟨fun batch world alone => ?_, fun batch batch' world world' position same => ?_,
    fun function recordWise recordWise' batch batch' world world' world'' => ?_⟩
  · rw [process_seen shape stateless, List.map_map, List.map_eq_flatMap]
    refine List.flatMap_congr fun entry _ => ?_
    exact (laterStages_transform (habits_transform stateless) 1 [entry] (alone entry)).symm
  · -- At a position the result is a function of the entry there, the same for both chains.
    have there : ∀ {chain : Chain α} {first : α} {rest : List α}, chain.processors = first :: rest →
        List.Forall₂ (Stateless view) habits rest → ∀ batch world,
        ((chain.process batch).run world).value.2[position]?.map (Entry.shown view) =
          ((entered first batch world)[position]?.map (Entry.shown view)).map
            (Prod.map id (· >>= inTurn (habits.map Habit.outcome))) := by
      intro chain first rest shape stateless batch world
      have shown : Entry.shown view = Prod.map view id ∘ Entry.seen view := rfl
      rw [shown, ← Option.map_map, ← List.getElem?_map, process_seen shape stateless,
        List.getElem?_map, List.getElem?_map, Option.map_map, Option.map_map, Option.map_map]
      rfl
    rw [there shape stateless, there shape' stateless', same]
  · rw [process_seen shape stateless, process_seen shape stateless, process_seen shape' stateless',
      entered_recordWise recordWise, entered_recordWise recordWise, entered_recordWise recordWise',
      List.map_append, List.map_append]

end Chain

section Refusal

open Testing

/-- How a processor replies that fails every call with a record of some payload. -/
def refusal (agentId : String) (value : Value) (message : String) : Habit Record where
  agentId
  reply records :=
    if records.any fun record => record.value.same value then .error (.raised ⟨.processing, message⟩)
    else .ok (records.map fun record => .ok [record])

/-- A failing processor that fails every call with a record of some payload. -/
def Refuses (agentId : String) (value : Value) (message : String) (stock : StockAgent) : Prop :=
  ∃ counters calls, stock = .failing ⟨counters, .onValue value, message, calls⟩ ∧
    counters.identity.agentId = agentId

variable {agentId message : String} {value : Value} {stock : StockAgent}

theorem process_refuses (refuses : Refuses agentId value message stock) (records : List Handle)
    (world : Environment) :
    let reply := ((Behaviour.process records stock).effect world).1
    Refuses agentId value message reply.agent ∧
      (reply.result.map fun answers => answers.map (·.outcome.seen Handle.record)) =
        (refusal agentId value message).reply (records.map Handle.record) := by
  obtain ⟨counters, calls, rfl, rfl⟩ := refuses
  let agent : Failing := ⟨counters, .onValue value, message, calls⟩
  have called : ((Behaviour.process records (StockAgent.failing agent)).effect world).1 =
      ((Behaviour.process records agent).effect world).1.mapAgent .failing := rfl
  simp only [agent, called, Failing.process_effect, Failing.failsCall, refusal, List.any_map,
    Function.comp_def]
  by_cases refused : (records.any fun record => record.record.value.same value) = true
  · simp only [refused, if_true]
    exact ⟨⟨_, _, rfl, rfl⟩, rfl⟩
  · simp only [refused]
    refine ⟨⟨_, _, rfl, rfl⟩, congrArg Except.ok ?_⟩
    simp only [List.map_map, Function.comp_def]
    rfl

theorem Refuses.stateless (refuses : Refuses agentId value message stock) :
    Stateless Handle.record (refusal agentId value message) stock := by
  refine Henceforth.of_kept (Refuses agentId value message)
    (fun records world refuses => (process_refuses refuses records world).1)
    (fun refuses => ⟨?_, fun records world => (process_refuses refuses records world).2⟩) refuses
  obtain ⟨counters, calls, rfl, same⟩ := refuses
  exact same

/-- Passes every record on. -/
def passing : StockAgent := .echo (.create "pass" ⟨0, 0⟩)

/-- Fails every call with a bad record. -/
def refusing : StockAgent := .failing (.create "check" (.onValue (.string "bad")) "refused" ⟨0, 0⟩)

theorem refusing_stateless :
    Stateless Handle.record (refusal "check" (.string "bad") "refused") refusing :=
  Refuses.stateless ⟨_, 0, rfl, rfl⟩

/-- A good record beside a bad one ends as beside another good one, and a batch with a bad record in
front is processed as the bad record and then the rest. -/
theorem lineages_are_isolated_from_refused :
    let chain : Chain StockAgent := { processors := [passing, refusing] }
    let world : Environment := { clock := ⟨0, 0⟩ }
    let good : Handle := ⟨0, .ofText "good"⟩
    let bad : Handle := ⟨1, .ofText "bad"⟩
    List.Forall₂ (Stateless Handle.record) [refusal "check" (.string "bad") "refused"] [refusing] ∧
    RecordWise Handle.record (fun record => .ok [record]) passing ∧
    (Chain.entered passing [bad, good] world)[1]?.map (Entry.shown Handle.record) =
      (Chain.entered passing [good, good] world)[1]?.map (Entry.shown Handle.record) ∧
    ((chain.process [bad, good]).run world).value.2[1]?.map (Entry.shown Handle.record) =
      ((chain.process [good, good]).run world).value.2[1]?.map (Entry.shown Handle.record) ∧
    ((chain.process ([bad] ++ [good])).run world).value.2.map (Entry.seen Handle.record) =
      ((chain.process [bad]).run world).value.2.map (Entry.seen Handle.record) ++
        ((chain.process [good]).run world).value.2.map (Entry.seen Handle.record) := by
  intro chain world good bad
  have stateless := List.Forall₂.cons refusing_stateless .nil
  have alone : RecordWise Handle.record (fun record => .ok [record]) passing :=
    StockAgent.recordWise rfl
  have shape : chain.processors = [passing, refusing] := rfl
  obtain ⟨-, agree, append⟩ :=
    Chain.lineages_are_isolated Handle.record _ shape shape stateless stateless
  exact ⟨stateless, alone, rfl, agree _ _ world world 1 rfl, append _ alone alone _ _ _ _ _⟩

end Refusal

end Conveyor
