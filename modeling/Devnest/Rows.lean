import Mathlib.Data.Rat.Defs
import Mathlib.Algebra.Order.Ring.Rat
import Devnest.PyText
import Devnest.Table

/-!
# The control-plane tables

The rows the job worker, the intent service and the cleanup service read
and write: `Workspace`, `WorkspaceJob`, `WorkspaceRuntime`,
`WorkspaceCleanupTask`, `WorkspaceSnapshot`, `WorkspaceConfig` and
`ExecutionNode`, with the source's enumerations as inductive types.

Times are seconds. Columns that no modelled function reads
(`updated_at`, heartbeats, correlation ids, security options, the audit
and usage ledgers) are left out.
-/

namespace Devnest

/-! ## Enumerations -/

inductive WorkspaceStatus where
  | creating | pending | starting | running | stopping | stopped | restarting | updating
  | error | deleting | deleted
  deriving DecidableEq, Repr

/-- The stored text of a status. -/
def WorkspaceStatus.value : WorkspaceStatus → String
  | creating => "CREATING"
  | pending => "PENDING"
  | starting => "STARTING"
  | running => "RUNNING"
  | stopping => "STOPPING"
  | stopped => "STOPPED"
  | restarting => "RESTARTING"
  | updating => "UPDATING"
  | error => "ERROR"
  | deleting => "DELETING"
  | deleted => "DELETED"

/-- `_BUSY_STATUSES` of the intent service, `_BUSY_RECONCILE` of the reconciler. -/
def WorkspaceStatus.isBusy : WorkspaceStatus → Bool
  | creating | pending | starting | stopping | restarting | updating | deleting => true
  | running | stopped | error | deleted => false

inductive WorkspaceJobType where
  | create | start | stop | restart | delete | update
  | reconcileRuntime | snapshotCreate | snapshotRestore | repoImport
  deriving DecidableEq, Repr

/-- The job types an intent opens by moving the workspace to a busy status. -/
def WorkspaceJobType.isLifecycle : WorkspaceJobType → Bool
  | create | start | stop | restart | delete | update => true
  | reconcileRuntime | snapshotCreate | snapshotRestore | repoImport => false

/-- `_SNAPSHOT_JOB_TYPES`. -/
def WorkspaceJobType.isSnapshot : WorkspaceJobType → Bool
  | snapshotCreate | snapshotRestore => true
  | _ => false

inductive WorkspaceJobStatus where
  | queued | running | succeeded | failed | cancelled
  deriving DecidableEq, Repr

/-- `QUEUED` or `RUNNING`. -/
def WorkspaceJobStatus.isOpen : WorkspaceJobStatus → Bool
  | queued | running => true
  | succeeded | failed | cancelled => false

inductive WorkspaceRuntimeHealthStatus where
  | unknown | healthy | degraded | unhealthy | cleanupRequired
  deriving DecidableEq, Repr

inductive WorkspaceSnapshotStatus where
  | creating | available | failed | restoring
  deriving DecidableEq, Repr

def WorkspaceSnapshotStatus.value : WorkspaceSnapshotStatus → String
  | creating => "CREATING"
  | available => "AVAILABLE"
  | failed => "FAILED"
  | restoring => "RESTORING"

inductive WorkspaceCleanupTaskStatus where
  | pending | succeeded
  deriving DecidableEq, Repr

/-- `CLEANUP_SCOPE_BRINGUP_ROLLBACK` and `CLEANUP_SCOPE_STOP_INCOMPLETE`. -/
inductive CleanupScope where
  | bringupRollback | stopIncomplete
  deriving DecidableEq, Repr

inductive FailureStage where
  | storage | network | container | proxy | placement | capacity | auth | unknown
  deriving DecidableEq, Repr

def FailureStage.value : FailureStage → String
  | storage => "STORAGE"
  | network => "NETWORK"
  | container => "CONTAINER"
  | proxy => "PROXY"
  | placement => "PLACEMENT"
  | capacity => "CAPACITY"
  | auth => "AUTH"
  | unknown => "UNKNOWN"

/-! ## Rows -/

/-- A row of `workspace`; its key is the workspace id. -/
structure Workspace where
  ownerUserId : Nat
  name : String := ""
  status : WorkspaceStatus := .creating
  executionNodeId : Option Nat := none
  statusReason : Option String := none
  lastErrorCode : Option String := none
  lastErrorMessage : Option String := none
  endpointRef : Option String := none
  publicHost : Option String := none
  gatewayPathPrefix : Option String := none
  deriving DecidableEq, Repr

/-- A row of `workspace_job`; its key is the job id. -/
structure WorkspaceJob where
  workspaceId : Nat
  workspaceSnapshotId : Option Nat := none
  jobType : WorkspaceJobType
  status : WorkspaceJobStatus := .queued
  requestedByUserId : Nat
  requestedConfigVersion : Int
  attempt : Nat := 0
  maxAttempts : Int := 2
  errorMsg : Option String := none
  createdAt : Nat
  startedAt : Option Nat := none
  finishedAt : Option Nat := none
  failureStage : Option String := none
  failureCode : Option String := none
  nextAttemptAfter : Option Nat := none
  deriving DecidableEq, Repr

/-- The Docker security options of a container; `applied_security_options` keeps all four. -/
structure WorkspaceContainerSecuritySpec where
  securityOpt : List String := []
  capDrop : List String := []
  readOnlyRootfs : Bool := false
  seccompMode : String := "engine_default"
  deriving DecidableEq, Repr

/-- A row of `workspace_runtime`; its key is the workspace id, which is unique there. -/
structure WorkspaceRuntime where
  nodeId : Option String := none
  topologyId : Option Int := none
  containerId : Option String := none
  containerState : Option String := none
  internalEndpoint : Option String := none
  gatewayRouteTarget : Option String := none
  configVersion : Option Int := none
  healthStatus : WorkspaceRuntimeHealthStatus := .unknown
  reservedCpu : ℚ := 0
  reservedMemoryMb : Int := 0
  reservedDiskMb : Int := 0
  appliedCpuLimitCores : Option ℚ := none
  appliedMemoryLimitMb : Option Int := none
  appliedPidsLimit : Option Int := none
  appliedSecurityOptions : Option WorkspaceContainerSecuritySpec := none
  deriving DecidableEq, Repr

structure WorkspaceCleanupTask where
  status : WorkspaceCleanupTaskStatus := .pending
  attempts : Nat := 0
  deriving DecidableEq, Repr

/-- The cleanup rows of one workspace: at most one per scope. -/
structure CleanupTasks where
  bringupRollback : Option WorkspaceCleanupTask := none
  stopIncomplete : Option WorkspaceCleanupTask := none
  deriving DecidableEq, Repr

namespace CleanupTasks

def get (t : CleanupTasks) : CleanupScope → Option WorkspaceCleanupTask
  | .bringupRollback => t.bringupRollback
  | .stopIncomplete => t.stopIncomplete

def set (t : CleanupTasks) (scope : CleanupScope) (task : WorkspaceCleanupTask) : CleanupTasks :=
  match scope with
  | .bringupRollback => { t with bringupRollback := some task }
  | .stopIncomplete => { t with stopIncomplete := some task }

@[simp] theorem get_set (t : CleanupTasks) (sc sc' : CleanupScope) (task : WorkspaceCleanupTask) :
    (t.set sc task).get sc' = if sc' = sc then some task else t.get sc' := by
  cases sc <;> cases sc' <;> rfl

/-- The scope's row is `PENDING`. -/
def isPending (t : CleanupTasks) (scope : CleanupScope) : Bool :=
  match t.get scope with
  | some task => task.status == .pending
  | none => false

/-- Some row of the workspace is `PENDING`. -/
def anyPending (t : CleanupTasks) : Bool :=
  t.isPending .bringupRollback || t.isPending .stopIncomplete

end CleanupTasks

structure WorkspaceSnapshot where
  workspaceId : Nat
  status : WorkspaceSnapshotStatus := .creating
  sizeBytes : Option Int := none
  deriving DecidableEq, Repr

/-- A resource limit as `config_json` holds it: the key may be missing, `null`, a
number, or something `float` and `int` refuse. -/
inductive RawLimit where
  | absent | null | number (q : ℚ) | unparseable
  deriving DecidableEq, Repr

/-- The image of a `workspace_config` row and the part that bring-up reads; its key is the
workspace id with the version. -/
structure WorkspaceConfig where
  cpuLimitCores : RawLimit := .absent
  memoryLimitMib : RawLimit := .absent
  pidsLimit : RawLimit := .absent
  image : Option String := none
  deriving DecidableEq, Repr

structure ExecutionNode where
  nodeKey : String
  providerType : String := "local"
  executionMode : String := "local_docker"
  status : String := "READY"
  schedulable : Bool := true
  defaultTopologyId : Option Int := none
  privateIp : Option String := none
  lastErrorCode : Option String := none
  lastErrorMessage : Option String := none
  deriving DecidableEq, Repr

/-! ## Settings -/

structure Settings where
  devnestEnv : String := "development"
  devnestAllowRuntimeEnvFallback : Bool := false
  devnestNodeId : Option String := none
  devnestTopologyId : Option String := none
  workspaceJobMaxAttempts : Int := 2
  workspaceJobRetryBackoffSeconds : Int := 15
  workspaceJobStuckTimeoutSeconds : Int := 300
  workspaceCapacityRetryTimeoutSeconds : Int := 600
  workspaceCapacityRetryBackoffSeconds : Int := 20
  devnestReconcileLeaseTtlSeconds : Int := 120
  devnestAllowPinnedCreatePlacement : Bool := false
  devnestPinnedCreateExecutionNodeIds : String := ""
  devnestEnableMultiNodeScheduling : Bool := false
  devnestGatewayEnabled : Bool := false
  devnestBaseDomain : String := "app.devnest.local"
  devnestWorkspaceRequiredCpu : ℚ := 1
  devnestWorkspaceRequiredMemoryMb : Int := 512
  devnestWorkspaceRequiredDiskMb : Int := 4096
  deriving DecidableEq, Repr

/-! ## The database and one job's session -/

/-- What the history keeps: a cleanup row turned `PENDING`, a bring-up that ended
`RUNNING`, and a stop call made by the cleanup service with the status it met. -/
inductive Event where
  | taskPending (wid : Nat) (scope : CleanupScope)
  | bringUpSucceeded (wid : Nat) (jobType : WorkspaceJobType)
  | cleanupStop (wid : Nat) (scope : CleanupScope) (status : WorkspaceStatus)
  deriving DecidableEq, Repr

/-- The committed tables. `trace` is the history, newest event first. -/
structure Db where
  workspaces : Table Nat Workspace := ∅
  jobs : Table Nat WorkspaceJob := ∅
  runtimes : Table Nat WorkspaceRuntime := ∅
  cleanupTasks : Table Nat CleanupTasks := ∅
  snapshots : Table Nat WorkspaceSnapshot := ∅
  configs : Table (Nat × Nat) WorkspaceConfig := ∅
  executionNodes : Table Nat ExecutionNode := ∅
  topologies : List Int := []
  trace : List Event := []

/-- The cleanup rows of a workspace. -/
def Db.tasksOf (db : Db) (wid : Nat) : CleanupTasks := (db.cleanupTasks.lookup wid).getD {}

/-- `_latest_config_version`. -/
def Db.latestConfigVersion (db : Db) (wid : Nat) : Option Nat :=
  ((db.configs.keys.filter fun k => k.1 = wid).map Prod.snd).max?

/-- The `WorkspaceConfig` row of the highest version. -/
def Db.latestConfig (db : Db) (wid : Nat) : Option WorkspaceConfig :=
  (db.latestConfigVersion wid).bind fun v => db.configs.lookup (wid, v)

/-- The rows one job execution works on, as its ORM session holds them, and the events
of this execution. -/
structure Session where
  wid : Nat
  ws : Workspace
  job : WorkspaceJob
  rt : Option WorkspaceRuntime
  tasks : CleanupTasks
  config : Option WorkspaceConfig
  snapshots : Table Nat WorkspaceSnapshot
  executionNodes : Table Nat ExecutionNode
  topologies : List Int
  trace : List Event

/-- The session of a job's workspace. -/
def Session.load (db : Db) (job : WorkspaceJob) (ws : Workspace) : Session where
  wid := job.workspaceId
  ws := ws
  job := job
  rt := db.runtimes.lookup job.workspaceId
  tasks := db.tasksOf job.workspaceId
  config := db.latestConfig job.workspaceId
  snapshots := db.snapshots
  executionNodes := db.executionNodes
  topologies := db.topologies
  trace := []

/-- `session.commit()`: the session's rows replace the stored ones. -/
def Session.commit (s : Session) (jid : Nat) (db : Db) : Db :=
  { db with
    workspaces := db.workspaces.insert s.wid s.ws
    jobs := db.jobs.insert jid s.job
    runtimes := match s.rt with
      | some rt => db.runtimes.insert s.wid rt
      | none => db.runtimes.erase s.wid
    cleanupTasks := db.cleanupTasks.insert s.wid s.tasks
    snapshots := s.snapshots
    executionNodes := s.executionNodes
    trace := s.trace ++ db.trace }

/-- Calls to other services; a rollback does not take them back. -/
def Event.isCall : Event → Bool
  | .cleanupStop _ _ _ => true
  | .taskPending _ _ | .bringUpSucceeded _ _ => false

/-- `session.rollback()`: the tables stay as they were. -/
def Session.rollback (s : Session) (db : Db) : Db :=
  { db with trace := s.trace.filter Event.isCall ++ db.trace }

end Devnest
