import Conveyor.Record.Entry

/-!
Lining up the answers of the first stage with the batch it was given, by `reconcile`. The result has
exactly one entry for each record of the batch, in the order of the batch: the first entry keyed by that
very record that is not taken yet, or a failure if there is none. Entries that remain are stray. Answers
that line up already are taken as they are.
-/

namespace Conveyor

/-- Answers lined up with a batch, how many records were not answered, and how many answers belong
to no record. -/
structure Reconciled where
  entries : List Entry
  unanswered : Nat
  stray : Nat
  deriving DecidableEq, Repr

namespace Reconciled

/-- Whether answers line up with a batch. -/
def aligned : List Handle → List Entry → Bool
  | [], [] => true
  | record :: records, answer :: answers => answer.isFrom record && aligned records answers
  | _, _ => false

/-- The first answer for a record, and the answers without it. -/
def takeFor (record : Handle) : List Entry → Option (Entry × List Entry)
  | [] => none
  | answer :: rest =>
    if answer.isFrom record then some (answer, rest)
    else (takeFor record rest).map fun (found, others) => (found, answer :: others)

/-- The failure of a record that a stage gave no answer for. -/
def unansweredEntry (agentId : String) (record : Handle) : Entry :=
  .ofFailure record ⟨agentId, .processing, "no result for record"⟩

/-- Searches an answer for each record in turn. -/
def search (agentId : String) : List Handle → List Entry → Reconciled
  | [], answers => ⟨[], 0, answers.length⟩
  | record :: records, answers =>
    match takeFor record answers with
    | some (answer, others) =>
      let rest := search agentId records others
      { rest with entries := answer :: rest.entries }
    | none =>
      let rest := search agentId records answers
      { rest with
        entries := unansweredEntry agentId record :: rest.entries
        unanswered := rest.unanswered + 1 }

/-- Lines up the answers of a stage with the batch it was given. -/
def ofAnswers (agentId : String) (records : List Handle) (answers : List Entry) : Reconciled :=
  if aligned records answers then ⟨answers, 0, 0⟩ else search agentId records answers

/-- Whether some record or some answer had no counterpart. -/
def isMismatch (reconciled : Reconciled) : Bool :=
  0 < reconciled.unanswered || 0 < reconciled.stray

end Reconciled

end Conveyor
