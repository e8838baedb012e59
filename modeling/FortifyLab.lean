import FortifyLab.Library.DependencyGraph
import FortifyLab.Library.KahnQueue
import FortifyLab.Library.KahnOrder
import FortifyLab.Library.Json
import FortifyLab.Library.Program
import FortifyLab.Library.Pool
import FortifyLab.Library.History
import FortifyLab.Library.Trace
import FortifyLab.Registry.ComponentRegistry
import FortifyLab.Registry.Closure
import FortifyLab.Registry.DependencyOrder
import FortifyLab.Registry.CanonicalOrder
import FortifyLab.Authorization.OperationPlan
import FortifyLab.Authorization.Approval
import FortifyLab.Authorization.Journey
import FortifyLab.Lifecycle.Operation
import FortifyLab.Lifecycle.Plan
import FortifyLab.Lifecycle.ValidRegistry
import FortifyLab.Lifecycle.ShippedRegistry
import FortifyLab.Lifecycle.StopPlans
import FortifyLab.Lifecycle.CanonicalPlans
import FortifyLab.Lifecycle.Document
import FortifyLab.Lifecycle.Request
import FortifyLab.Authorization.Service
import FortifyLab.Authorization.Consent
import FortifyLab.Lifecycle.Run
import FortifyLab.Lifecycle.Calls
import FortifyLab.Lifecycle.Manager
import FortifyLab.Lifecycle.Consented
import FortifyLab.Lifecycle.Ledger
import FortifyLab.Lifecycle.Grants
import FortifyLab.Lifecycle.SingleUse
import FortifyLab.Lifecycle.Protocol
import FortifyLab.Lifecycle.Conformance
import FortifyLab.Lifecycle.ManagerProtocol
import FortifyLab.Lifecycle.Deeds
import FortifyLab.Lifecycle.Stored
import FortifyLab.Lifecycle.Orderly
import FortifyLab.Lifecycle.Books
import FortifyLab.Lifecycle.Bookkeeping
import FortifyLab.Lifecycle.NoOverlap
import FortifyLab.Lifecycle.Executed
import FortifyLab.Lifecycle.FinalStates
import FortifyLab.Library.Checks
import FortifyLab.Library.Value
import FortifyLab.Library.Regex
import FortifyLab.Library.RegexScan
import FortifyLab.Library.RegexLocal
import FortifyLab.Redaction.SensitiveText
import FortifyLab.Redaction.Credentials
import FortifyLab.Upgrade.UpgradePlan
import FortifyLab.Upgrade.Submission
import FortifyLab.Upgrade.Replanning
import FortifyLab.Upgrade.Execution
import FortifyLab.Upgrade.Rollback
import FortifyLab.Upgrade.SafeRollback
import FortifyLab.Redaction.Overlap
import FortifyLab.Redaction.Record
import FortifyLab.Redaction.Sanitized
import FortifyLab.Recovery.Documents
import FortifyLab.Recovery.Workers
import FortifyLab.Recovery.Traces
import FortifyLab.Recovery.Verified
import FortifyLab.Recovery.Boundary
import FortifyLab.Recovery.Service
import FortifyLab.Recovery.Roles
import FortifyLab.Recovery.Kept
import FortifyLab.Recovery.Restorable
import FortifyLab.Recovery.LostRequests
import FortifyLab.Recovery.Together
import FortifyLab.Secrets.Target
import FortifyLab.Secrets.Workflow
import FortifyLab.Secrets.Roles
import FortifyLab.Secrets.SharedSecrets
import FortifyLab.Library.Execution
import FortifyLab.Library.Connection
import FortifyLab.Supervisor.AutonomyPolicy
import FortifyLab.Supervisor.Database
import FortifyLab.Supervisor.World
import FortifyLab.Supervisor.Store
import FortifyLab.Supervisor.Calls
import FortifyLab.Supervisor.Diagnostics
import FortifyLab.Supervisor.Notices
import FortifyLab.Supervisor.Queue
import FortifyLab.Supervisor.Merge
import FortifyLab.Supervisor.WorkflowStatus
import FortifyLab.Supervisor.Monitor
import FortifyLab.Supervisor.RunnerHeartbeat
import FortifyLab.Supervisor.Routine
import FortifyLab.Supervisor.RunnerHealth
import FortifyLab.Supervisor.Transactions
import FortifyLab.Supervisor.OpenTransactions
import FortifyLab.Supervisor.Statements
import FortifyLab.Supervisor.QueueProgress
import FortifyLab.Supervisor.Callbacks
import FortifyLab.Supervisor.PolicyRules
import FortifyLab.Supervisor.Preparatory
import FortifyLab.Supervisor.Ordinary
import FortifyLab.Supervisor.Processes
import FortifyLab.Supervisor.HeartbeatWriters
import FortifyLab.Upgrade.StepClasses
import FortifyLab.Upgrade.Service
import FortifyLab.Upgrade.Restarts
import FortifyLab.Lifecycle.Reopening
import FortifyLab.Lifecycle.PlanViews
import FortifyLab.Lifecycle.ShownBoundary
import FortifyLab.Lifecycle.RemoteActions
import FortifyLab.Lifecycle.RemoteTokens
import FortifyLab.Lifecycle.TokenRuns
import FortifyLab.Lifecycle.RemoteConsent
import FortifyLab.Secrets.Truthful
import FortifyLab.Library.Lockstep
import FortifyLab.Secrets.GuardedWorkflow
import FortifyLab.Secrets.WriteOnly
import FortifyLab.Secrets.SpentApprovals
import FortifyLab.Library.Watch
import FortifyLab.Library.Observed
import FortifyLab.Library.Digits
import FortifyLab.Library.DateTime
import FortifyLab.Records.LoopRecordStore
import FortifyLab.Records.Retention
import FortifyLab.Supervisor.SiteSteps
import FortifyLab.Supervisor.Walks
import FortifyLab.Supervisor.Holds
import FortifyLab.Supervisor.Rollovers
import FortifyLab.Supervisor.Milestones
import FortifyLab.Supervisor.Orderly
import FortifyLab.Supervisor.QueueMoves
import FortifyLab.Library.Stages
import FortifyLab.Supervisor.Tokens
import FortifyLab.Supervisor.Capabilities
import FortifyLab.Supervisor.SpentTokens
import FortifyLab.Supervisor.HeartbeatGenerations
import FortifyLab.Lifecycle.DeclaredPlans
import FortifyLab.Health.FalseGreen
import FortifyLab.Health.Unbreakable
import FortifyLab.Configuration.Rollback
import FortifyLab.Configuration.Rescan
import FortifyLab.Dashboard.LoginLimiter
import FortifyLab.Dashboard.App
import FortifyLab.Dashboard.Access
import FortifyLab.Dashboard.Sessions
import FortifyLab.Inventory.DeploymentEvidence
import FortifyLab.Communications.Paging
import FortifyLab.Supervisor.DigestBuckets
import FortifyLab.Supervisor.DigestRuns
import FortifyLab.Supervisor.SharedMessages
import FortifyLab.Library.RaisingSort
import FortifyLab.Supervisor.HeartbeatFiles
import FortifyLab.Supervisor.HeartbeatIsolation
import FortifyLab.Availability.Waiting
import FortifyLab.Availability.Hosts
import FortifyLab.Library.Ownership
import FortifyLab.Library.Register
import FortifyLab.Supervisor.OwnPolicy
import FortifyLab.Supervisor.LeaseReversion
import FortifyLab.Supervisor.PolicyReloads
import FortifyLab.Library.Listing
import FortifyLab.Packaging.Runtime
import FortifyLab.Packaging.ContentDigest
import FortifyLab.Upgrade.Saves
import FortifyLab.Upgrade.Roles
import FortifyLab.Upgrade.Kept
import FortifyLab.Upgrade.Reached
import FortifyLab.Upgrade.Cancellation
import FortifyLab.Upgrade.OneUpgrade
