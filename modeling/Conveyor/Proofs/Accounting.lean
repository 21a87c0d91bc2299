import Conveyor.Proofs.Cycles

/-! Where the records of a run end up. A chain that is run between a source that replays batches and a sink
that keeps what it gets, for any number of cycles (`run_once`) and with any processors, leaves the records
of the completed lineages with the sink, in order. A source that takes dead letters gets all batches
committed and every failed record noted, so that nothing that was read is lost or counted twice. Any other
source gets just the batches committed in which nothing failed, although what the other lineages of a batch
have produced was written already when the batch was refused. -/
namespace Conveyor

open Testing

variable {ω α β γ π : Type}

/-- Agents of two types side by side. -/
instance [Behaviour ω α] [Behaviour ω β] : Behaviour ω (α ⊕ β) where
  agentId := Sum.elim Behaviour.agentId Behaviour.agentId
  agentType := Sum.elim Behaviour.agentType Behaviour.agentType
  status := Sum.elim Behaviour.status Behaviour.status
  capabilities := Sum.elim Behaviour.capabilities Behaviour.capabilities
  setContext context
    | .inl agent => do return .inl (← Behaviour.setContext context agent)
    | .inr agent => do return .inr (← Behaviour.setContext context agent)
  start
    | .inl agent => do return (← Behaviour.start agent).mapAgent .inl
    | .inr agent => do return (← Behaviour.start agent).mapAgent .inr
  close
    | .inl agent => do return (← Behaviour.close agent).mapAgent .inl
    | .inr agent => do return (← Behaviour.close agent).mapAgent .inr
  process records
    | .inl agent => do return (← Behaviour.process records agent).mapAgent .inl
    | .inr agent => do return (← Behaviour.process records agent).mapAgent .inr
  read
    | .inl agent => do return (← Behaviour.read agent).mapAgent .inl
    | .inr agent => do return (← Behaviour.read agent).mapAgent .inr
  commit records
    | .inl agent => do return (← Behaviour.commit records agent).mapAgent .inl
    | .inr agent => do return (← Behaviour.commit records agent).mapAgent .inr
  permanentFailure record error
    | .inl agent => do return (← Behaviour.permanentFailure record error agent).mapAgent .inl
    | .inr agent => do return (← Behaviour.permanentFailure record error agent).mapAgent .inr
  write records
    | .inl agent => do return (← Behaviour.write records agent).mapAgent .inl
    | .inr agent => do return (← Behaviour.write records agent).mapAgent .inr

theorem PassesOn.inl [Behaviour ω α] [Behaviour ω β] : PassesOn (Sum.inl : α → α ⊕ β) :=
  ⟨fun _ => rfl, fun _ _ => rfl, fun _ _ _ => rfl, fun _ _ _ _ => rfl, fun _ _ _ => rfl⟩

namespace Testing

namespace StaticSource

variable {source : StaticSource}

/-- With dead letters every cycle goes through. -/
theorem ending_deadLetter (mode : source.deadLetter = true) (lineages : List Entry) :
    source.ending lineages = .ok (.ofLineages lineages) := by
  rw [ending, verdict, refused?_deadLetter mode]
  rfl

/-- Without dead letters a cycle ends with the first failure of its batch, if there is one. -/
theorem ending_strict (mode : source.deadLetter = false) (lineages : List Entry) :
    source.ending lineages =
      match Entry.failures lineages with
      | [] => .ok (.ofLineages lineages)
      | (_, error) :: _ => .error (.processing ⟨Behaviour.agentId source, error.kind, error.display⟩) := by
  rw [ending, verdict, refused?_strict mode]
  cases Entry.failures lineages <;> rfl

theorem accepted_deadLetter (mode : source.deadLetter = true)
    (failed : List (Handle × ProcessingError)) (items : List γ) :
    source.accepted failed items = items := by
  simp [accepted, refused?_deadLetter mode]

theorem accepted_strict (mode : source.deadLetter = false)
    (failed : List (Handle × ProcessingError)) (items : List γ) :
    source.accepted failed items = if failed.isEmpty then items else [] := by
  rw [accepted, refused?_strict mode]
  cases failed <;> rfl

end StaticSource

end Testing

namespace Testing.StaticSource

variable {source later : StaticSource} {results : List (List Entry)}

/-- With dead letters the source commits all batches and notes all failures. -/
theorem Replayed.deadLetter (replayed : source.Replayed results later)
    (fresh : source.ledger = {}) (mode : source.deadLetter = true) :
    later.ledger.committed = results.flatten.map Entry.source ∧
      later.ledger.failed = deadLetters (Entry.failures results.flatten) := by
  obtain ⟨-, -, committed, failed⟩ := replayed
  simp only [accepted_deadLetter mode, fresh, List.nil_append] at committed failed
  rw [committed, failed, Entry.failures_flatten, deadLetters, List.map_flatMap, List.map_flatten,
    List.flatMap_def]
  exact ⟨rfl, rfl⟩

/-- Without dead letters the source commits the batches without failures, and notes nothing. -/
theorem Replayed.strict (replayed : source.Replayed results later)
    (fresh : source.ledger = {}) (mode : source.deadLetter = false) :
    later.ledger.committed =
      (results.filter fun lineages => (Entry.failures lineages).isEmpty).flatten.map Entry.source ∧
      later.ledger.failed = [] := by
  obtain ⟨-, -, committed, failed⟩ := replayed
  simp only [accepted_strict mode, fresh, List.nil_append] at committed failed
  rw [committed, failed]
  constructor
  · clear committed failed
    induction results with
    | nil => rfl
    | cons lineages rest ih =>
      rw [List.flatMap_cons, List.filter_cons, ih]
      split <;> simp
  · refine List.flatMap_eq_nil_iff.mpr fun lineages _ => ?_
    split
    · rename_i none
      rw [List.isEmpty_iff.mp none]
      rfl
    · rfl

end Testing.StaticSource

/-- Any processors between a source that replays batches and a sink that keeps what it gets, over any
number of cycles. The lineages of the batches that fall due are told by processing these one after the
other. The records of the completed ones are with the sink, in order. If the source takes dead letters
then every cycle goes through, all batches are committed, and the failed records are noted, in order, so
that every record that was read is either completed or noted, and that once. If not, then a batch is
committed unless one of its lineages has failed; the cycle of such a batch ends with the first of its
failures, and nothing is noted. -/
theorem every_record_is_accounted_for [Behaviour Environment π] (processors : List (StockAgent ⊕ π))
    (batches : List (List Handle)) (deadLetter : Bool) (sourceId sinkId : String) (now : Instant)
    (cycles : Nat) (world : Environment) :
    let chain (source : StaticSource) (sink : RecordingSink) : Chain (StockAgent ⊕ π) :=
      { source? := some (.inl (.staticSource source)), processors
        sink? := some (.inl (.recordingSink sink)) }
    let due := (List.range cycles).map fun cycle => batches.getD cycle []
    let begun := chain (.create sourceId batches deadLetter now) (.create sinkId false now)
    let processed := ((begun.processEachFilled due).run world).value
    let ended := ((begun.runCycles cycles).run world).value
    let lineages := processed.2.flatten
    processed.2.map (·.map Entry.source) = due ∧
    ∃ source sink,
      ended.1 = processed.1.between (.inl (.staticSource source)) (.inl (.recordingSink sink)) ∧
      sink.written = Entry.outputs lineages ∧
      if deadLetter then
        ended.2 = processed.2.map (fun lineages => .ok (.ofLineages lineages)) ∧
        source.ledger.committed = due.flatten ∧
        source.ledger.failed = deadLetters (Entry.failures lineages) ∧
        ((Entry.completions lineages).map Prod.fst ++
          source.ledger.failed.map Prod.fst).Perm due.flatten
      else
        ended.2 = processed.2.map (fun lineages =>
          match Entry.failures lineages with
          | [] => .ok (.ofLineages lineages)
          | (_, error) :: _ => .error (.processing ⟨sourceId, error.kind, error.display⟩)) ∧
        source.ledger.committed = (processed.2.filter fun lineages =>
          (Entry.failures lineages).isEmpty).flatten.map Entry.source ∧
        source.ledger.failed = [] := by
  intro chain due begun processed ended lineages
  have sources : processed.2.map (·.map Entry.source) = due :=
    Chain.processEachFilled_sources begun due world
  have all : lineages.map Entry.source = due.flatten := by rw [← sources, List.map_flatten]
  have hosted : PassesOn ((.inl : _ → StockAgent ⊕ π) ∘ .recordingSink) :=
    PassesOn.inl.comp StockAgent.hosts_recordingSink
  obtain ⟨source, _, replayed, ⟨sink, rfl, filled⟩, ran⟩ :=
    Chain.runCycles_static (PassesOn.inl.comp StockAgent.hosts_staticSource)
      (RecordingSink.takes hosted (.create sinkId false now)) cycles begun
      (.create sourceId batches deadLetter now) ⟨_, rfl, .nothing rfl⟩ world
  refine ⟨sources, source, sink, ?_, ?_, ?_⟩
  · exact congrArg (·.1.1) ran
  · rw [filled.written]
    exact (Entry.outputs_flatten processed.2).symm
  · have endings : ended.2 = processed.2.map (StaticSource.create sourceId batches deadLetter now).ending :=
      congrArg (·.1.2) ran
    rw [endings]
    cases deadLetter with
    | true =>
      obtain ⟨committed, failed⟩ := replayed.deadLetter rfl rfl
      have noted : source.ledger.failed.map Prod.fst =
          (Entry.failures lineages).map Prod.fst := by
        rw [failed, deadLetters, List.map_map]
        rfl
      refine ⟨?_, committed.trans all, failed, ?_⟩
      · exact List.map_congr_left fun lineages _ => StaticSource.ending_deadLetter rfl lineages
      · rw [noted, ← all]
        exact Entry.sources_perm lineages
    | false =>
      obtain ⟨committed, failed⟩ := replayed.strict rfl rfl
      refine ⟨?_, committed, failed⟩
      exact List.map_congr_left fun lineages _ => StaticSource.ending_strict rfl lineages

end Conveyor
