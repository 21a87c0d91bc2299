import Conveyor.Json.Decoding

/-!
The events that agents and chains leave in the log. An event is a constructor with the facts it reports;
its level, its message and its named fields are derived from it in one place. An event tells no
durations and stands in no span: `process` also reports how long a batch took and opens a span with an
id of its own, and of both nothing is kept here.
-/

namespace Conveyor

/-- How important an event is. -/
inductive LogLevel where
  | debug
  | info
  | warn
  deriving DecidableEq, Repr

/-- The name of a level. -/
def LogLevel.name : LogLevel → String
  | debug => "DEBUG"
  | info => "INFO"
  | warn => "WARN"

/-- Something worth logging. -/
inductive LogEvent where
  /-- An agent was constructed and accepted its configuration. -/
  | agentInitialized (agentId agentType : String)
  /-- A composite agent built its chain. -/
  | compositeBuilt (agentId : String) (processors : Nat)
  | chainStarted (processors : Nat) (hasSource hasSink : Bool)
  | chainClosed
  | closedWithFailures (error : String)
  | agentFailedToClose (agentId error : String)
  /-- A chain has processed a batch. -/
  | batchProcessed (recordsIn recordsOut failed : Nat)
  /-- The first stage failed, and every lineage of the batch with it. -/
  | stageFailedForBatch (agentId error : String)
  /-- A later stage failed on the records of one lineage. -/
  | stageFailedForLineage (agentId : String) (stage : Nat) (error : String)
  /-- The answers of the first stage did not line up with its batch. -/
  | resultsMismatched (agentId : String) (unanswered stray : Nat)
  | cycleCompleted (read written failed : Nat)
  /-- A logging sink received a record. -/
  | recordReceived (level : LogLevel) (agentId : String) (key? : Option String) (value : String)
  deriving DecidableEq, Repr

namespace LogEvent

/-- How important an event is. -/
def level : LogEvent → LogLevel
  | agentInitialized .. | compositeBuilt .. | batchProcessed .. | cycleCompleted .. => .debug
  | chainStarted .. | chainClosed => .info
  | closedWithFailures .. | agentFailedToClose .. | stageFailedForBatch ..
  | stageFailedForLineage .. | resultsMismatched .. => .warn
  | recordReceived level .. => level

/-- The message of an event. -/
def message : LogEvent → String
  | agentInitialized .. => "Agent initialized"
  | compositeBuilt .. => "Composite chain built"
  | chainStarted .. => "Chain started"
  | chainClosed => "Chain closed"
  | closedWithFailures .. => "Chain closed with failures"
  | agentFailedToClose .. => "Agent failed to close"
  | batchProcessed .. => "Batch processed"
  | stageFailedForBatch .. => "Stage failed for the whole batch"
  | stageFailedForLineage .. => "Stage failed for lineage"
  | resultsMismatched .. => "Stage results did not match its batch"
  | cycleCompleted .. => "Cycle completed"
  | recordReceived .. => "Record received"

/-- The facts of an event under their names. -/
def facts : LogEvent → List (String × Json)
  | agentInitialized agentId agentType =>
    [("agent_id", .string agentId), ("agent_type", .string agentType)]
  | compositeBuilt agentId processors =>
    [("agent_id", .string agentId), ("processors", .int processors)]
  | chainStarted processors hasSource hasSink =>
    [("processors", .int processors), ("has_source", .bool hasSource), ("has_sink", .bool hasSink)]
  | chainClosed => []
  | closedWithFailures error => [("error", .string error)]
  | agentFailedToClose agentId error => [("agent_id", .string agentId), ("error", .string error)]
  | batchProcessed recordsIn recordsOut failed =>
    [("records_in", .int recordsIn), ("records_out", .int recordsOut), ("failed", .int failed)]
  | stageFailedForBatch agentId error =>
    [("agent_id", .string agentId), ("stage", .int 0), ("error", .string error)]
  | stageFailedForLineage agentId stage error =>
    [("agent_id", .string agentId), ("stage", .int stage), ("error", .string error)]
  | resultsMismatched agentId unanswered stray =>
    [("agent_id", .string agentId), ("unanswered", .int unanswered), ("stray", .int stray)]
  | cycleCompleted read written failed =>
    [("read", .int read), ("written", .int written), ("failed", .int failed)]
  | recordReceived _ agentId key? value =>
    [("agent_id", .string agentId), ("key", .string (Text.shownOption key?)),
      ("value", .string value)]

instance : ToDocument LogEvent := ⟨fun event =>
  .object (Table.ofList (("level", .string event.level.name) ::
    ("message", .string event.message) :: event.facts)).entries⟩

end LogEvent

end Conveyor
