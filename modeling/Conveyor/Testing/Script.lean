import Conveyor.Configuration
import Conveyor.Record.Entry

/-!
Scripts for agents under test. A script says, for each hook and each call of it, what to do: nothing,
raise an error or be torn down, and which records to answer with. Records are described relative to
the batch of the call or to a pool of records that the test prepared; a description that leads to no
record is passed over. A script is read from the settings of an agent: a null counts as absent, and
whatever makes no sense means nothing.
-/

namespace Conveyor.Testing

/-- What a call does before it answers. -/
inductive Action where
  | proceed
  | fail (error : AgentError)
  | panic (message? : Option String)
  deriving Repr

/-- The description of a record. -/
inductive RecordRef where
  /-- A record of the batch of the call. -/
  | batch (position : Nat)
  /-- A record of the pool. -/
  | pool (position : Nat)
  /-- A new record derived from one of the batch, with more text at the end of its payload. -/
  | derive (position : Nat) (ending : String)
  /-- A new record. -/
  | fresh (record : Record)
  deriving Repr

/-- What a scripted answer says about a record. -/
inductive ScriptedOutcome where
  | records (refs : List RecordRef)
  | failed (error : ProcessingError)
  deriving Repr

/-- One entry of a scripted answer. -/
structure ScriptedAnswer where
  source : RecordRef
  outcome : ScriptedOutcome
  deriving Repr

/-- A scripted call of a processor; without answers every record is passed on. -/
structure ScriptedCall where
  action : Action := .proceed
  answers? : Option (List ScriptedAnswer) := none
  deriving Repr

/-- A scripted call of a source. -/
structure ScriptedRead where
  action : Action := .proceed
  batch : List RecordRef := []
  deriving Repr

/-- What an agent under test does. -/
structure Script where
  init : Action := .proceed
  start : List Action := []
  close : List Action := []
  process : List ScriptedCall := []
  read : List ScriptedRead := []
  commit : List Action := []
  permanentFailure : List Action := []
  write : List Action := []
  /-- How many reports the agent makes, each saying which one it is; without it a single plain one. -/
  statusEntries? : Option Nat := none
  deriving Repr

/-- The field of an object, if the document is one and has it. A null counts as absent. -/
def fieldOf? (document : Json) (key : String) : Option Json :=
  match document with
  | .object entries => (Table.find key entries).filter (· ≠ .null)
  | _ => none

/-- The items of an array, if the document is one. -/
def itemsOf : Json → List Json
  | .array items => items
  | _ => []

/-- The text of a document, if it is one. -/
def textOf? : Json → Option String
  | .string value => some value
  | _ => none

/-- The natural number of a document, if it is one. -/
def natOf? : Json → Option Nat
  | .int value => if 0 ≤ value then some value.toNat else none
  | _ => none

namespace Action

/-- The kind that a document names; failures are about processing unless it says otherwise. -/
def kindOf (document? : Option Json) : ErrorKind :=
  match document?.map (ofDocument : Json → Decoding.Result ErrorKind) with
  | some (.ok kind) => kind
  | _ => .processing

/-- Reads an action from the fields that describe it. -/
def ofJson (document : Json) : Action :=
  match (fieldOf? document "fail").bind textOf?, fieldOf? document "panic" with
  | some message, _ => fail ⟨kindOf (fieldOf? document "kind"), message⟩
  | none, none => proceed
  | none, some manner =>
    if manner = .string "str" ∨ manner = .string "string" then
      panic (some (((fieldOf? document "message").bind textOf?).getD ""))
    else panic none

end Action

/-- Reads a record: a text stands for the record of that text. -/
def recordOf? : Json → Option Record
  | .string value => some (.ofText value)
  | document =>
    match (ofDocument document : Decoding.Result Record) with
    | .ok record => some record
    | .error _ => none

/-- Reads the description of a record. -/
def RecordRef.ofJson? (document : Json) : Option RecordRef :=
  (natOf? document).map batch
    <|> (number? "pool").map pool
    <|> (number? "derive").map (derive · (((fieldOf? document "suffix").bind textOf?).getD ""))
    <|> ((fieldOf? document "new").bind recordOf?).map fresh
where
  /-- The natural number in a field. -/
  number? (key : String) : Option Nat := (fieldOf? document key).bind natOf?

/-- Reads one entry of an answer. -/
def ScriptedAnswer.ofJson? (document : Json) : Option ScriptedAnswer := do
  let source ← RecordRef.ofJson? (← fieldOf? document "source")
  match fieldOf? document "error" with
  | some error =>
    match (ofDocument error : Decoding.Result ProcessingError) with
    | .ok error => return ⟨source, .failed error⟩
    | .error _ => none
  | none =>
    return ⟨source, .records
      ((itemsOf ((fieldOf? document "records").getD .null)).filterMap RecordRef.ofJson?)⟩

/-- Reads a call of a processor. -/
def ScriptedCall.ofJson (document : Json) : ScriptedCall where
  action := .ofJson document
  answers? := match fieldOf? document "return" with
    | some (.array answers) => some (answers.filterMap ScriptedAnswer.ofJson?)
    | _ => none

/-- Reads a call of a source. -/
def ScriptedRead.ofJson (document : Json) : ScriptedRead where
  action := .ofJson document
  batch := (itemsOf ((fieldOf? document "batch").getD .null)).filterMap RecordRef.ofJson?

/-- Reads a script from settings. -/
def Script.ofConfiguration (configuration : Configuration) : Script where
  init := .ofJson (setting "init")
  start := (itemsOf (setting "start")).map .ofJson
  close := (itemsOf (setting "close")).map .ofJson
  process := (itemsOf (setting "process")).map .ofJson
  read := (itemsOf (setting "read")).map .ofJson
  commit := (itemsOf (setting "commit")).map .ofJson
  permanentFailure := (itemsOf (setting "permanentFailure")).map .ofJson
  write := (itemsOf (setting "write")).map .ofJson
  statusEntries? := (configuration.get? "statusEntries").bind natOf?
where
  /-- A setting, null if it is absent. -/
  setting (key : String) : Json := (configuration.get? key).getD .null

end Conveyor.Testing
