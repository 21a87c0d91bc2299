import Conveyor.Chain.Cycle

/-! What the lineages of a batch have come to. Each is completed or has failed, and never both, so the
lineages part into two lists that keep their order: the completed ones with the records made from them, and
the failed ones with their failures. What a cycle (`run_once`) writes, what it reports and what it counts is
told by these two lists. -/
namespace Conveyor

namespace Entry

/-- The completed lineages, each with the record it started from and the records made from it. -/
def completions : List Entry → List (Handle × List Handle)
  | [] => []
  | ⟨source, .records produced⟩ :: rest => (source, produced) :: completions rest
  | ⟨_, .failed _⟩ :: rest => completions rest

/-- The failed lineages, each with the record it started from and its failure. -/
def failures : List Entry → List (Handle × ProcessingError)
  | [] => []
  | ⟨_, .records _⟩ :: rest => failures rest
  | ⟨source, .failed error⟩ :: rest => (source, error) :: failures rest

/-- The records of the completed lineages, one lineage after the other. -/
def outputs (lineages : List Entry) : List Handle :=
  (completions lineages).flatMap Prod.snd

/-- Every lineage is among the completed or among the failed ones, and that once. -/
theorem sources_perm (lineages : List Entry) :
    ((completions lineages).map Prod.fst ++ (failures lineages).map Prod.fst).Perm
      (lineages.map source) := by
  induction lineages with
  | nil => exact .nil
  | cons entry rest ih =>
    obtain ⟨source, outcome⟩ := entry
    cases outcome with
    | records produced => exact ih.cons source
    | failed error => exact List.perm_middle.trans (ih.cons source)

theorem completions_append (front back : List Entry) :
    completions (front ++ back) = completions front ++ completions back := by
  induction front with
  | nil => rfl
  | cons entry rest ih =>
    obtain ⟨source, outcome⟩ := entry
    cases outcome with
    | records produced => exact congrArg ((source, produced) :: ·) ih
    | failed error => exact ih

theorem failures_append (front back : List Entry) :
    failures (front ++ back) = failures front ++ failures back := by
  induction front with
  | nil => rfl
  | cons entry rest ih =>
    obtain ⟨source, outcome⟩ := entry
    cases outcome with
    | records produced => exact ih
    | failed error => exact congrArg ((source, error) :: ·) ih

theorem outputs_flatten (results : List (List Entry)) :
    outputs results.flatten = results.flatMap outputs := by
  induction results with
  | nil => rfl
  | cons lineages rest ih =>
    rw [List.flatten_cons, List.flatMap_cons, ← ih, outputs, completions_append, List.flatMap_append]
    rfl

theorem failures_flatten (results : List (List Entry)) :
    failures results.flatten = results.flatMap failures := by
  induction results with
  | nil => rfl
  | cons lineages rest ih => rw [List.flatten_cons, List.flatMap_cons, ← ih, failures_append]

end Entry

namespace Chain

/-- A cycle takes for completed what the completed lineages have produced. -/
theorem completedRecords_eq : completedRecords = Entry.outputs := by
  funext lineages
  induction lineages with
  | nil => rfl
  | cons entry rest ih =>
    obtain ⟨source, outcome⟩ := entry
    cases outcome with
    | records produced => exact congrArg (produced ++ ·) ih
    | failed error => exact ih

/-- A cycle reports the failed lineages, and no others. -/
theorem failedSources_eq : failedSources = Entry.failures := by
  funext lineages
  induction lineages with
  | nil => rfl
  | cons entry rest ih =>
    obtain ⟨source, outcome⟩ := entry
    cases outcome with
    | records produced => exact ih
    | failed error => exact congrArg ((source, error) :: ·) ih

end Chain

end Conveyor
