import Conveyor.Agent.Behaviour

/-!
The world that the agents of this library share: a clock, a supply of handles for new records, and a
journal in which agents made for tests note the calls they receive. Handles (`RecordRef`) are numbered
in the order in which they are made, so no two records ever get the same one.
-/

namespace Conveyor

/-- A call that an agent noted in the journal. -/
inductive JournalEvent where
  | start (agentId : String)
  | close (agentId : String)
  | setContext (agentId : String)
  | process (agentId : String) (records : List Handle)
  | read (agentId : String)
  | commit (agentId : String) (records : List Handle)
  | permanentFailure (agentId : String) (record : Handle) (error : AgentError)
  | write (agentId : String) (records : List Handle)
  deriving DecidableEq, Repr

namespace JournalEvent

/-- The records that an event mentions, in order. -/
def handles : JournalEvent → List Handle
  | process _ records | commit _ records | write _ records => records
  | permanentFailure _ record _ => [record]
  | start _ | close _ | setContext _ | read _ => []

/-- A list of numbers between brackets. -/
def listText (numbers : List Nat) : String :=
  "[" ++ ", ".intercalate (numbers.map toString) ++ "]"

/-- The text of an event, with records shown by their numbers. -/
def text (numberOf : Handle → Nat) : JournalEvent → String
  | start agentId => "start:" ++ agentId
  | close agentId => "close:" ++ agentId
  | setContext agentId => "set_context:" ++ agentId
  | process agentId records => "process:" ++ agentId ++ ":" ++ listText (records.map numberOf)
  | read agentId => "read:" ++ agentId
  | commit agentId records => "commit:" ++ agentId ++ ":" ++ listText (records.map numberOf)
  | permanentFailure agentId record error =>
    "permanent_failure:" ++ agentId ++ ":" ++ toString (numberOf record) ++ ":" ++ error.kind.name ++
      ":" ++ error.message
  | write agentId records => "write:" ++ agentId ++ ":" ++ listText (records.map numberOf)

end JournalEvent

/-- The world of the agents of this library. -/
structure Environment where
  clock : Instant
  /-- The number of the next new record. -/
  nextHandle : Nat := 0
  /-- The calls noted so far, in order. -/
  journal : List JournalEvent := []
  deriving Repr

instance : Clock Environment := ⟨Environment.clock⟩

namespace Environment

/-- The time. -/
def now : Activity Environment Instant := do
  return (← Activity.look).clock

/-- Shares a new record. -/
def allocate (record : Record) : Activity Environment Handle := fun world =>
  ⟨⟨world.nextHandle, record⟩, { world with nextHandle := world.nextHandle + 1 }, []⟩

/-- Notes a call. -/
def note (event : JournalEvent) : Activity Environment Unit :=
  Activity.change fun world => { world with journal := world.journal ++ [event] }

end Environment

end Conveyor
