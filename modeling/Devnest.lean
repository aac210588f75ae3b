import Devnest.PyText
import Devnest.Runs
import Devnest.Table
import Devnest.Rows
import Devnest.Placement
import Devnest.Orchestrator
import Devnest.FailureHandling
import Devnest.Cleanup
import Devnest.Finalizers
import Devnest.Reconcile
import Devnest.Worker
import Devnest.Intents
import Devnest.System
import Devnest.Outcomes
import Devnest.AuxOutcomes
import Devnest.Steps
import Devnest.BusyJobs
import Devnest.Resume
import Devnest.Deleted
import Devnest.LiveCleanup
import Devnest.CleanupDebt
import Devnest.IntentRaces
import Devnest.Shell
import Devnest.RemoteCommand
import Devnest.SsmDocker
import Devnest.Routing
import Devnest.GatewayAuth
import Devnest.EventStream
import Devnest.Attempts
import Devnest.Ticks
import Devnest.ExecutionRaces
import Devnest.Ipv4
import Devnest.Topology
import Devnest.RuntimeRaces
import Devnest.Leases
import Devnest.AttachmentRaces
import Devnest.DeletedNetwork
import Devnest.PosixFs
import Devnest.ProjectDirs
import Devnest.ProjectBindings
import Devnest.SnapshotTrees
import Devnest.EntryPoints
import Devnest.AuxiliaryJobs
import Devnest.WorkerDeaths
import Devnest.ReservationLedger
import Devnest.SnapshotRows
import Devnest.SnapshotRestores
import Devnest.FleetNodes
import Devnest.NodeAdmission
import Devnest.ContainerEngine
import Devnest.UpdateLabels
import Devnest.AppliedLimits
import Devnest.NodeCapacity
import Devnest.Overbooking
import Devnest.SessionCounts
import Devnest.Owners
import Devnest.Quotas
import Devnest.QuotaBounds
import Devnest.ComputeQuota
import Devnest.RuntimeAccounting
import Devnest.SessionQuota
import Devnest.ReconcileQueue
import Devnest.PlacementPolicy
import Devnest.Autoscaler
import Devnest.NodeCap
import Devnest.Whereabouts
import Devnest.ScaleDown
import Devnest.PosixCalls
import Devnest.RouteAdmin
import Devnest.RouteRepair
import Devnest.ReconcileRecords
import Devnest.ReconcileLock
import Devnest.WorkspaceUrls
import Devnest.AdapterParity
import Devnest.Policies
import Devnest.ImagePolicy
import Devnest.RateLimits
import Devnest.RedisLimits
import Devnest.Calls
import Devnest.AttachmentOps
import Devnest.ArchiveStore
import Devnest.Histories
import Devnest.SnapshotConfined
import Devnest.AttachFailures
import Devnest.RuntimeDelete
import Devnest.EnsureTwice
import Devnest.FleetCapacity
import Devnest.PasswordSessions
import Devnest.ProjectPrune
import Devnest.PosixTrees
import Devnest.SnapshotArchive
import Devnest.ProjectNames
import Devnest.WorkspaceSlugs
import Devnest.AddressPool
import Devnest.VethNames
import Devnest.CodeServerConfig
import Devnest.SnapshotSwap
import Devnest.SnapshotRoundTrip
import Devnest.Ec2Cleanup
import Devnest.NotificationMarks
import Devnest.BringUpProbe
