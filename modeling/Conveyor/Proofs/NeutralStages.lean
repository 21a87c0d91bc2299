import Conveyor.Proofs.Interchange

/-! Stages that make no difference. A processor that hands every record on as it is (`IdentityProcessor`,
`EchoProcessor`) leaves the lineages of a later stage as they are: it neither merges nor splits nor reorders
them, it answers a lineage without records with no records, and it is not called for one that has failed. So
behind the first stage it can be put anywhere. In front it cannot, for there it gets the batch in the place
of the processor that got it before, which from then on is called lineage by lineage. -/
namespace Conveyor

open Testing

variable {ω α β κ π : Type}

/-- A processor that answers every record with the record itself, and leaves the world as it finds it. -/
def HandsOn [Behaviour ω α] : α → Prop :=
  Henceforth fun agent => ∀ records (world : ω), ∃ later,
    (Behaviour.process records agent).effect world = (.ok later (records.map .passThrough), world)

/-- A guest hands on what it hands on elsewhere. -/
theorem HandsOn.guest [Hosts ω] [Behaviour Environment α] {agent : α} (handsOn : HandsOn agent) :
    HandsOn (⟨agent⟩ : Guest ω α) := by
  refine Henceforth.through (fun _ _ world => ⟨Hosts.environment world, rfl⟩) handsOn ?_
  intro agent passes records world
  obtain ⟨later, done⟩ := passes records (Hosts.environment world)
  refine ⟨⟨later⟩, ?_⟩
  rw [Guest.process_effect, done]
  exact congrArg (Prod.mk _) (Hosts.unchanged world)

theorem HandsOn.inl [Behaviour ω α] [Behaviour ω β] {agent : α} (handsOn : HandsOn agent) :
    HandsOn (.inl agent : α ⊕ β) := by
  refine Henceforth.through (fun _ _ world => ⟨world, rfl⟩) handsOn ?_
  intro agent passes records world
  obtain ⟨later, done⟩ := passes records world
  refine ⟨.inl later, ?_⟩
  change (fun done => (Reply.mapAgent Sum.inl done.1, done.2))
    ((Behaviour.process records agent).effect world) = _
  rw [done]
  rfl

namespace Chain

variable [Behaviour ω α]

/-- A later stage whose processor hands everything on leaves all lineages as they are. -/
theorem laterStage_handsOn {processor : α} (handsOn : HandsOn processor) (stage : Nat)
    (entries : List Entry) (world : ω) :
    ∃ later, HandsOn later ∧
      (laterStage stage processor entries).effect world = ((later, entries), world) := by
  induction entries generalizing processor with
  | nil => exact ⟨processor, handsOn, rfl⟩
  | cons entry rest ih =>
    obtain ⟨source, outcome⟩ := entry
    rw [laterStage_cons]
    cases outcome with
    | failed error =>
      obtain ⟨later, still, done⟩ := ih handsOn
      exact ⟨later, still, by rw [advance_failed]; dsimp only; rw [done]⟩
    | records records =>
      have moved := handsOn.after records world
      obtain ⟨between, answered⟩ := handsOn.now records world
      rw [answered] at moved
      obtain ⟨later, still, done⟩ := ih moved
      refine ⟨later, still, ?_⟩
      rw [advance_effect, answered]
      dsimp only [Reply.ok] at done ⊢
      rw [done, Outcome.ofReply_passThrough]

/-- No later stage, and one whose processor hands everything on. -/
inductive Padded : List α → List α → Prop where
  | intro {processor : α} (handsOn : HandsOn processor) : Padded [] [processor]

theorem padded_exchangeable : Exchangeable (Padded (α := α)) := by
  rintro _ _ ⟨handsOn⟩ entries world
  obtain ⟨later, still, done⟩ := laterStage_handsOn handsOn 1 entries world
  rw [laterStages_cons, done]
  exact ⟨.intro still, rfl, rfl⟩

end Chain

/-- Identity processors, echoes and probes, and composites without processors. -/
inductive Relay : Agent StockAgent → Prop where
  | identity (agent : PassThrough) : Relay (.leaf (.passThrough agent))
  | echo (agent : Echo) : Relay (.leaf (.echo agent))
  | probe (agent : Probe) : Relay (.leaf (.probe agent))
  | hollow (identity : Identity) (registry : RegistryKey) {chain : Chain (Agent StockAgent)}
      (empty : chain.processors = []) : Relay (.composite identity registry chain)

theorem Relay.handsOn {agent : Agent StockAgent} (relay : Relay agent) : HandsOn agent := by
  have answers : ∀ {agent : Agent StockAgent}, Relay agent → ∀ records world, ∃ later, Relay later ∧
      (Behaviour.process records agent).effect world =
        (.ok later (records.map .passThrough), world) := by
    intro agent relay records world
    cases relay with
    | identity agent => exact ⟨_, .identity _, rfl⟩
    | echo agent => exact ⟨_, .echo _, rfl⟩
    | probe agent => exact ⟨_, .probe _, rfl⟩
    | @hollow identity registry chain empty =>
      obtain ⟨source?, processors, sink?, metrics⟩ := chain
      cases empty
      rw [Agent.process_composite]
      exact ⟨_, .hollow identity registry rfl, rfl⟩
  refine Henceforth.of_kept Relay ?_ ?_ relay
  · intro agent records world relay
    obtain ⟨later, still, done⟩ := answers relay records world
    rw [done]
    exact still
  · intro agent relay records world
    obtain ⟨later, -, done⟩ := answers relay records world
    exact ⟨later, done⟩

/-- An identity processor, an echo, a probe or a composite without processors can be put anywhere behind
the first processor of a chain, be it at the end. Whatever the other processors do, over any batches the
results stay the same, and so do the calls of all agents that are watched, the world apart from these,
and the counts of the chain. -/
theorem relay_behind_the_first_is_neutral [Hosts ω] [Clock ω] [Behaviour ω π]
    (chain : Chain (Company κ ω π)) (first : Company κ ω π) (front back : List (Company κ ω π))
    {inserted : Agent StockAgent} (relay : Relay inserted) (batches : List (List Handle))
    (watch : Watch κ ω) :
    let stage : Company κ ω π := .inl ⟨inserted⟩
    let plain := { chain with processors := first :: front ++ back }
    let padded := { chain with processors := first :: front ++ stage :: back }
    let one := (plain.processAll batches).run watch
    let other := (padded.processAll batches).run watch
    one.value.2 = other.value.2 ∧
      one.world.calls = other.world.calls ∧ one.world.world = other.world.world ∧
      one.value.1.metrics = other.value.1.metrics := by
  intro stage plain padded
  have row : Chain.Padded [] [stage] := .intro relay.handsOn.guest.inl
  have exchanged : Chain.ExchangedIn Chain.Padded plain padded :=
    ⟨rfl, .intro first front row back, rfl, rfl⟩
  obtain ⟨still, results, left⟩ :=
    Chain.processAll_exchanged Chain.padded_exchangeable exchanged batches watch
  exact ⟨results, congrArg Watch.calls left, congrArg Watch.world left, still.metrics⟩

/-- A lineage that was dropped comes through a composite without processors to the processor that panics
on it, as it would without that composite. -/
theorem hollow_composite_behind_drop_is_neutral :
    let chain : Chain (Company Nat Environment StockAgent) := {}
    let first : Company Nat Environment StockAgent :=
      .inr ⟨0, .discard (.ofIdentity ⟨"drop", "drop", ⟨0, 0⟩⟩)⟩
    let last : Company Nat Environment StockAgent := .inr ⟨1, .panicking (.create "strict" ⟨0, 0⟩)⟩
    let inserted := Agent.composite ⟨"hollow", "composite-agent", ⟨0, 0⟩⟩ ⟨0⟩ {}
    let stage : Company Nat Environment StockAgent := .inl ⟨inserted⟩
    let plain := { chain with processors := [first, last] }
    let padded := { chain with processors := [first, stage, last] }
    let record : Handle := ⟨0, .ofText "r"⟩
    let watch : Watch Nat Environment := { world := { clock := ⟨0, 0⟩ } }
    let one := (plain.processAll [[record], []]).run watch
    let other := (padded.processAll [[record], []]).run watch
    Relay inserted ∧
      other.value.2 =
        [[⟨record, .failed ⟨"strict", .panic, "panicked: strict cannot handle 0 record(s)"⟩⟩], []] ∧
      one.value.2 = other.value.2 ∧
      one.world.calls = other.world.calls ∧ one.world.world = other.world.world ∧
      one.value.1.metrics = other.value.1.metrics := by
  intro chain first last inserted stage plain padded record watch one other
  have relay : Relay inserted := .hollow _ _ rfl
  exact ⟨relay, rfl,
    relay_behind_the_first_is_neutral chain first [] [last] relay [[record], []] watch⟩

/-- In front an echo makes a difference: the processor behind it no longer fails the batch as a whole. -/
example :
    let check : StockAgent := .failing (.create "check" (.onValue (.string "bad")) "refused" ⟨0, 0⟩)
    let echo : StockAgent := .echo (.create "echo" ⟨0, 0⟩)
    let failed (processors : List StockAgent) :=
      ((({ processors } : Chain StockAgent).process [⟨0, .ofText "bad"⟩, ⟨1, .ofText "good"⟩]).run
        ({ clock := ⟨0, 0⟩ } : Environment)).value.2.map Entry.isFailed
    failed [check] = [true, true] ∧ failed [echo, check] = [true, false] := by
  decide

end Conveyor
