import Conveyor.Activity
import Conveyor.Agent.Behaviour
import Conveyor.Agent.Definition
import Conveyor.Agent.Nesting
import Conveyor.Agent.Status
import Conveyor.Agent.Tree
import Conveyor.Chain.Basic
import Conveyor.Chain.Cycle
import Conveyor.Chain.Layout
import Conveyor.Chain.Lifecycle
import Conveyor.Chain.Process
import Conveyor.Chain.Reconcile
import Conveyor.Configuration
import Conveyor.Environment
import Conveyor.Error
import Conveyor.Json.Basic
import Conveyor.Json.Decoding
import Conveyor.Json.Reader
import Conveyor.Json.Text
import Conveyor.Log.Event
import Conveyor.Log.Settings
import Conveyor.Number.Binary64
import Conveyor.Number.Nearest
import Conveyor.Number.Scaled
import Conveyor.Number.Shortest
import Conveyor.Number.Style
import Conveyor.Pipeline.Definition
import Conveyor.Pipeline.Resources
import Conveyor.Proofs.Acceptance
import Conveyor.Proofs.Accounting
import Conveyor.Proofs.Answers
import Conveyor.Proofs.Attribution
import Conveyor.Proofs.Base64
import Conveyor.Proofs.BatchLog
import Conveyor.Proofs.ByteOrder
import Conveyor.Proofs.CanonicalBase64
import Conveyor.Proofs.Catalog
import Conveyor.Proofs.CommitProtocol
import Conveyor.Proofs.Conservation
import Conveyor.Proofs.Construction
import Conveyor.Proofs.Cycles
import Conveyor.Proofs.Declarations
import Conveyor.Proofs.Deployment
import Conveyor.Proofs.Dispatch
import Conveyor.Proofs.Documents
import Conveyor.Proofs.Ends
import Conveyor.Proofs.FailureChannels
import Conveyor.Proofs.FanOut
import Conveyor.Proofs.Flow
import Conveyor.Proofs.Grouping
import Conveyor.Proofs.Headers
import Conveyor.Proofs.Identification
import Conveyor.Proofs.Imitation
import Conveyor.Proofs.Interchange
import Conveyor.Proofs.Isolation
import Conveyor.Proofs.LastComposite
import Conveyor.Proofs.LayoutChanges
import Conveyor.Proofs.LayoutGrammar
import Conveyor.Proofs.LeadingComposite
import Conveyor.Proofs.Leaves
import Conveyor.Proofs.Lifecycle
import Conveyor.Proofs.Lineages
import Conveyor.Proofs.Matching
import Conveyor.Proofs.Metrics
import Conveyor.Proofs.NestedLayouts
import Conveyor.Proofs.NeutralStages
import Conveyor.Proofs.Nulls
import Conveyor.Proofs.Provenance
import Conveyor.Proofs.Reconciliation
import Conveyor.Proofs.RecordFormat
import Conveyor.Proofs.RecordFunctions
import Conveyor.Proofs.RefusedSettings
import Conveyor.Proofs.Reports
import Conveyor.Proofs.Resolution
import Conveyor.Proofs.SharedRegistry
import Conveyor.Proofs.Stages
import Conveyor.Proofs.Statelessness
import Conveyor.Proofs.StepIds
import Conveyor.Proofs.WarmUp
import Conveyor.Proofs.Watching
import Conveyor.Record.Basic
import Conveyor.Record.Entry
import Conveyor.Record.Value
import Conveyor.Registry
import Conveyor.Stock.Agent
import Conveyor.Stock.Catalog
import Conveyor.Stock.LogSink
import Conveyor.Stock.Processors
import Conveyor.Table
import Conveyor.Testing.Assertions
import Conveyor.Testing.Bench
import Conveyor.Testing.Ends
import Conveyor.Testing.Probe
import Conveyor.Testing.Processors
import Conveyor.Testing.Script
import Conveyor.Testing.Scripted
import Conveyor.Text.Base64
import Conveyor.Text.Blank
import Conveyor.Text.Invisible
import Conveyor.Text.Quoted
import Conveyor.Time.Calendar
import Conveyor.Time.Instant
import Conveyor.Time.Rfc3339
