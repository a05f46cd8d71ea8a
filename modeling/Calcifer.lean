import Calcifer.Library.Checks
import Calcifer.Library.Lists
import Calcifer.Library.Text
import Calcifer.Library.Json
import Calcifer.Library.Serde
import Calcifer.Library.Recognizer
import Calcifer.Library.Program
import Calcifer.Library.Files
import Calcifer.Library.Folds
import Calcifer.Library.Logs
import Calcifer.Library.Codec
import Calcifer.Library.Machine
import Calcifer.Conversations.Document
import Calcifer.Conversations.Validate
import Calcifer.Conversations.Operations
import Calcifer.Conversations.Registry
import Calcifer.Conversations.Steps
import Calcifer.Conversations.Changes
import Calcifer.Conversations.WellFormed
import Calcifer.Conversations.Invariant
import Calcifer.Conversations.Lineage
import Calcifer.Conversations.Migration
import Calcifer.Conversations.Journal
import Calcifer.Conversations.Exclusion
import Calcifer.Conversations.Ambiguity
import Calcifer.Conversations.Handoff
import Calcifer.Conversations.Commit
import Calcifer.Conversations.Binding
import Calcifer.Conversations.HeadThread
import Calcifer.Commands.CodexConversation
import Calcifer.Commands.InventoryDiff
import Calcifer.Commands.Reconciliation
import Calcifer.Codex.HandoffTransaction
import Calcifer.Codex.ForkRequests
import Calcifer.Codex.ForkCandidates
import Calcifer.Codex.DriveHandoff
import Calcifer.Codex.ThreadSettings
import Calcifer.Codex.TargetInventory
import Calcifer.Codex.Usage
import Calcifer.Codex.Monitor
import Calcifer.Codex.MonitorRuns
import Calcifer.Codex.Readiness
import Calcifer.Codex.ReadinessRelay
import Calcifer.Codex.ReadinessVerdict
import Calcifer.Profiles.Document
import Calcifer.Profiles.PrivateFiles
import Calcifer.Profiles.Reauth
import Calcifer.Profiles.ReauthRecovery
import Calcifer.Supervisor.Protocol
import Calcifer.Supervisor.Wire
import Calcifer.Supervisor.WireCodec
import Calcifer.Supervisor.WireIo
import Calcifer.Supervisor.WireCanonical
import Calcifer.Supervisor.Guardian
import Calcifer.Supervisor.Duplex
import Calcifer.Supervisor.Transitions
import Calcifer.Supervisor.Transcript
import Calcifer.Supervisor.TranscriptFailures
import Calcifer.Supervisor.Agreement
import Calcifer.Supervisor.OperationProofs
import Calcifer.Supervisor.Race
import Calcifer.Supervisor.Coordinator
import Calcifer.Supervisor.Course
import Calcifer.Supervisor.Handling
import Calcifer.Supervisor.Shutdown
import Calcifer.Supervisor.Release
import Calcifer.Supervisor.Anchor
import Calcifer.Supervisor.CompletionEdge
import Calcifer.Supervisor.CompletionVerdict
import Calcifer.Supervisor.RecoveryVerdict
import Calcifer.Supervisor.Launch
import Calcifer.Supervisor.Parking
import Calcifer.Supervisor.Return
import Calcifer.Routing.Definitions
import Calcifer.Routing.Valid
import Calcifer.Routing.Mutations
import Calcifer.Routing.Authorization
import Calcifer.Usage.Observations
import Calcifer.Usage.Classification
import Calcifer.Usage.Merges
import Calcifer.Usage.CacheValidity
import Calcifer.Usage.FreshViews
import Calcifer.Routing.Selection
import Calcifer.Usage.FreshReads
import Calcifer.Codex.SelectionRuntime
import Calcifer.Routing.SelectionPass
import Calcifer.Routing.SelectionStops
import Calcifer.Update.Manifest
import Calcifer.Update.Checksums
import Calcifer.Update.Fetch
import Calcifer.Update.Redirects
import Calcifer.Update.Releases
import Calcifer.Update.Check
import Calcifer.Update.Evidence
import Calcifer.Routing.Updates
import Calcifer.Codex.FrameMessages
import Calcifer.Usage.IdleRefresh
import Calcifer.Supervisor.OutputPump
import Calcifer.Supervisor.TerminalGeneration
import Calcifer.Supervisor.InputGate
import Calcifer.Supervisor.InputOrder
import Calcifer.Supervisor.Teardown
import Calcifer.Supervisor.TeardownOrder
import Calcifer.Codex.RolloutAgreement
import Calcifer.Library.Locks
import Calcifer.Commands.SplitLease
import Calcifer.Commands.SplitLeaseSteps
import Calcifer.Commands.SplitLeaseSafety
import Calcifer.Commands.GuardianAbort
import Calcifer.Commands.ControlLines
