import Conveyor.Error
import Conveyor.Record.Basic

/-!
Results that keep their provenance (`SourceRecordAndResult`, with a `RecordOutcome` each). A lineage is
what becomes of one record: an entry ties the handle of that record to the records made from it so far,
or to the failure that ended the lineage, and never to both.
-/

namespace Conveyor

/-- What has become of a lineage. -/
inductive Outcome where
  /-- The records made from its source, in order. -/
  | records (produced : List Handle)
  /-- The failure that ended it. -/
  | failed (error : ProcessingError)
  deriving DecidableEq, Repr

namespace Outcome

/-- The records of a lineage that has not failed. -/
def produced? : Outcome → Option (List Handle)
  | records produced => some produced
  | failed _ => none

/-- The failure of a lineage that has failed. -/
def error? : Outcome → Option ProcessingError
  | records _ => none
  | failed error => some error

/-- Whether a lineage has failed. -/
def isFailed : Outcome → Bool
  | records _ => false
  | failed _ => true

/-- Equality of lists of records by content. -/
def sameRecords : List Handle → List Handle → Bool
  | [], [] => true
  | a :: as, b :: bs => a.record.same b.record && sameRecords as bs
  | _, _ => false

/-- Equality of outcomes, with records compared by content. -/
def same : Outcome → Outcome → Bool
  | records a, records b => sameRecords a b
  | failed a, failed b => a == b
  | _, _ => false

end Outcome

/-- A lineage: the record it started from, and what has become of it. -/
structure Entry where
  source : Handle
  outcome : Outcome
  deriving DecidableEq, Repr

namespace Entry

/-- A lineage that produced some records. -/
def ofRecords (source : Handle) (produced : List Handle) : Entry :=
  ⟨source, .records produced⟩

/-- A lineage that has failed. -/
def ofFailure (source : Handle) (error : ProcessingError) : Entry :=
  ⟨source, .failed error⟩

/-- The lineage of a record that stays as it is. -/
def passThrough (source : Handle) : Entry :=
  ofRecords source [source]

/-- The records of a lineage that has not failed. -/
def produced? (entry : Entry) : Option (List Handle) :=
  entry.outcome.produced?

/-- The failure of a lineage that has failed. -/
def error? (entry : Entry) : Option ProcessingError :=
  entry.outcome.error?

/-- Whether the lineage has failed. -/
def isFailed (entry : Entry) : Bool :=
  entry.outcome.isFailed

/-- Whether the lineage started from this very record; another record of the same content is not
enough. -/
def isFrom (entry : Entry) (handle : Handle) : Bool :=
  entry.source == handle

/-- Equality of entries, with records compared by content. -/
def same (a b : Entry) : Bool :=
  a.source.record.same b.source.record && a.outcome.same b.outcome

/-- How many lineages of a list have failed. -/
def countFailed (entries : List Entry) : Nat :=
  entries.countP isFailed

/-- How many records the lineages of a list have produced that have not failed. -/
def countRecords (entries : List Entry) : Nat :=
  (entries.flatMap fun entry => entry.produced?.getD []).length

end Entry

end Conveyor
