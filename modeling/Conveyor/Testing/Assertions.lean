import Conveyor.Record.Entry

/-!
What tests of chains assert about results: which records the lineages started from (`assert_sources`),
which payloads a lineage produced (`assert_lineage_values`), and which agent made it fail
(`assert_lineage_failed`).
-/

namespace Conveyor.Testing

/-- New records of texts are what tests mostly start from. -/
def recordsOf (texts : List String) : List Record :=
  texts.map Record.ofText

/-- Whether the lineages started from these very records, one each and in this order. -/
def startFrom (results : List Entry) (sources : List Handle) : Bool :=
  results.map (·.source) == sources

/-- Whether a lineage produced records with payloads of these texts. -/
def produces (result : Entry) (texts : List String) : Bool :=
  match result.produced? with
  | some records => records.map (·.record.value.display) == texts
  | none => false

/-- Whether a lineage failed, and an agent of this id was the cause. -/
def failedBy (result : Entry) (agentId : String) : Bool :=
  match result.error? with
  | some error => error.agentId == agentId
  | none => false

end Conveyor.Testing
