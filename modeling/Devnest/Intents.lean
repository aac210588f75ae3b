import Devnest.Worker

/-!
# Intents

The API side: `workspace_intent_service.py`, the two snapshot requests
and the repository import. An accepted intent writes the workspace's
transitional status and queues one job in the same transaction;
reconcile, snapshot and import requests queue a job and leave the status
alone.

A refusal leaves the tables as they are. The answers of the quota and
policy services and of the project-storage check are inputs.
-/

namespace Devnest

inductive IntentError where
  | workspaceNotFound
  | workspaceBusy (message : String)
  | workspaceInvalidState (message : String)
  | snapshotNotFound
  | snapshotConflict
  /-- A quota or policy service refused. -/
  | refused (message : String)
  /-- `uq_workspace_config_version`. -/
  | integrity
  | operatorPinnedDisabled (message : String)
  | operatorPinnedNotAllowlisted (message : String)
  | operatorPinnedNodeInvalid (message : String)
  deriving DecidableEq, Repr

/-- What a request draws from its surroundings. -/
structure IntentInput where
  now : Nat
  /-- The first quota or policy check that raises. -/
  refusal : Option String := none
  /-- `_compute_workspace_reopen_issues`. -/
  reopenIssues : List String := []
  hasNonemptyArchive : Bool := true
  /-- The workspace already has a repository row. -/
  repositoryExists : Bool := false
  /-- What the age check says of the heartbeat of a pinned node. -/
  staleHeartbeat : Option String := none
  deriving DecidableEq, Repr

/-! ## Checks -/

/-- `_get_owned_workspace`. -/
def getOwnedWorkspace (db : Db) (wid owner : Nat) (includeDeleted : Bool) :
    Except IntentError Workspace :=
  match db.workspaces.lookup wid with
  | none => .error .workspaceNotFound
  | some ws =>
      if ws.ownerUserId ≠ owner then .error .workspaceNotFound
      else if ws.status = .deleted && !includeDeleted then .error .workspaceNotFound
      else .ok ws

/-- `_require_not_busy`. -/
def requireNotBusy (ws : Workspace) : Except IntentError Unit :=
  if ws.status.isBusy then
    .error (.workspaceBusy ("Workspace is busy (status=" ++ ws.status.value ++ ")"))
  else .ok ()

/-- A status the intent accepts, or its message. -/
def requireStatus (ws : Workspace) (allowed : List WorkspaceStatus) (message : String) :
    Except IntentError Unit :=
  if ws.status ∈ allowed then .ok ()
  else .error (.workspaceInvalidState (message ++ " (current=" ++ ws.status.value ++ ")"))

/-- `_ensure_workspace_reopen_allowed`. -/
def ensureWorkspaceReopenAllowed (inp : IntentInput) : Except IntentError Unit :=
  if inp.reopenIssues = [] then .ok ()
  else .error (.workspaceInvalidState (PyText.join "; " inp.reopenIssues))

/-- `_intent_config_version`. -/
def intentConfigVersion (db : Db) (wid : Nat) : Except IntentError Nat :=
  match db.latestConfigVersion wid with
  | none => .error (.workspaceInvalidState "Workspace has no configuration version")
  | some v => .ok v

def ensureNotRefused (inp : IntentInput) : Except IntentError Unit :=
  match inp.refusal with
  | none => .ok ()
  | some m => .error (.refused m)

/-! ## Writing -/

/-- Queue a fresh job. -/
def Db.queueJob (db : Db) (job : WorkspaceJob) : Db :=
  { db with jobs := db.jobs.insert (Table.freshKey db.jobs) job }

/-- The row an intent queues. -/
def newJob (inp : IntentInput) (wid user : Nat) (jobType : WorkspaceJobType) (version : Nat) :
    WorkspaceJob :=
  { workspaceId := wid, jobType := jobType, requestedByUserId := user
    requestedConfigVersion := version, createdAt := inp.now }

/-- `_persist_intent`: quota and policy only for the types that start a container. -/
def persistIntent (db : Db) (inp : IntentInput) (wid : Nat) (ws : Workspace)
    (newStatus : WorkspaceStatus) (jobType : WorkspaceJobType) (user version : Nat) :
    Except IntentError Db := do
  if jobType = .start || jobType = .restart then ensureNotRefused inp
  .ok ({ db with workspaces := db.workspaces.insert wid { ws with status := newStatus } }.queueJob
    (newJob inp wid user jobType version))

/-! ## Lifecycle intents -/

def requestStartWorkspace (db : Db) (inp : IntentInput) (wid owner user : Nat) :
    Except IntentError Db := do
  let ws ← getOwnedWorkspace db wid owner false
  requireNotBusy ws
  requireStatus ws [.stopped, .error] "Start is only allowed when stopped or error"
  ensureWorkspaceReopenAllowed inp
  let version ← intentConfigVersion db wid
  persistIntent db inp wid ws .starting .start user version

def requestStopWorkspace (db : Db) (inp : IntentInput) (wid owner user : Nat) :
    Except IntentError Db := do
  let ws ← getOwnedWorkspace db wid owner false
  requireNotBusy ws
  requireStatus ws [.running] "Stop is only allowed when running"
  let version ← intentConfigVersion db wid
  persistIntent db inp wid ws .stopping .stop user version

def requestRestartWorkspace (db : Db) (inp : IntentInput) (wid owner user : Nat) :
    Except IntentError Db := do
  let ws ← getOwnedWorkspace db wid owner false
  requireNotBusy ws
  requireStatus ws [.running, .stopped] "Restart is only allowed when running or stopped"
  ensureWorkspaceReopenAllowed inp
  let version ← intentConfigVersion db wid
  persistIntent db inp wid ws .restarting .restart user version

def requestDeleteWorkspace (db : Db) (inp : IntentInput) (wid owner user : Nat) :
    Except IntentError Db := do
  let ws ← getOwnedWorkspace db wid owner true
  requireNotBusy ws
  requireStatus ws [.running, .stopped, .error, .deleted]
    "Delete is only allowed when running, stopped, error, or deleted"
  let version ← intentConfigVersion db wid
  persistIntent db inp wid ws .deleting .delete user version

/-- `request_update_workspace` stages version `latest + 1`; it asks no quota. -/
def requestUpdateWorkspace (db : Db) (inp : IntentInput) (wid owner user : Nat)
    (config : WorkspaceConfig) : Except IntentError Db := do
  let ws ← getOwnedWorkspace db wid owner false
  requireNotBusy ws
  requireStatus ws [.running, .stopped, .error]
    "Update is only allowed when running, stopped, or error"
  let latest ← intentConfigVersion db wid
  .ok ({ db with
      workspaces := db.workspaces.insert wid { ws with status := .updating }
      configs := db.configs.insert (wid, latest + 1) config }.queueJob
    (newJob inp wid user .update (latest + 1)))

/-- A new workspace with config version 1 and a `CREATE` job. -/
def Db.addWorkspace (db : Db) (inp : IntentInput) (ws : Workspace) (config : WorkspaceConfig) : Db :=
  { db with
    workspaces := db.workspaces.insert (Table.freshKey db.workspaces) ws
    configs := db.configs.insert (Table.freshKey db.workspaces, 1) config }.queueJob
  (newJob inp (Table.freshKey db.workspaces) ws.ownerUserId .create 1)

/-- `create_workspace`: a `PENDING` workspace. -/
def createWorkspace (db : Db) (inp : IntentInput) (owner : Nat) (name : String)
    (config : WorkspaceConfig) : Except IntentError Db := do
  ensureNotRefused inp
  .ok (db.addWorkspace inp
    { ownerUserId := owner, name := name, status := .pending
      statusReason := some "Preparing capacity..." } config)

/-- The settings and the node of `create_operator_pinned_test_workspace`. -/
def ensurePinnedNode (cfg : Settings) (db : Db) (inp : IntentInput) (executionNodeId : Nat) :
    Except IntentError Unit :=
  if !cfg.devnestAllowPinnedCreatePlacement then
    .error (.operatorPinnedDisabled
      "Pinned operator CREATE is disabled (set DEVNEST_ALLOW_PINNED_CREATE_PLACEMENT=true).")
  else if parsePinnedCreateExecutionNodeIds cfg = [] then
    .error (.operatorPinnedNotAllowlisted
      ("Set DEVNEST_PINNED_CREATE_EXECUTION_NODE_IDS to a comma-separated list of " ++
      "execution_node.id values permitted for pinned operator test workspaces."))
  else if (executionNodeId : Int) ∉ parsePinnedCreateExecutionNodeIds cfg then
    .error (.operatorPinnedNotAllowlisted ("execution_node_id=" ++ toString executionNodeId ++
      " is not listed in DEVNEST_PINNED_CREATE_EXECUTION_NODE_IDS."))
  else match db.executionNodes.lookup executionNodeId with
    | none => .error (.operatorPinnedNodeInvalid
        ("execution_node id=" ++ toString executionNodeId ++ " not found."))
    | some node =>
        if PyText.strip node.status ≠ "READY" then
          .error (.operatorPinnedNodeInvalid ("execution_node " ++ PyText.repr node.nodeKey ++
            " must be READY (got status=" ++ PyText.repr node.status ++ ")."))
        else if !node.schedulable then
          .error (.operatorPinnedNodeInvalid ("execution_node " ++ PyText.repr node.nodeKey ++
            " must be schedulable=true for pinned bring-up."))
        else (validateOperatorPinnedCreateNodeGates cfg inp.staleHeartbeat).mapError fun e =>
          .operatorPinnedNodeInvalid e.message

/-- `create_operator_pinned_test_workspace`: a `CREATING` workspace that names its node. The quotas
and policies are those of `create_workspace`. -/
def createOperatorPinnedTestWorkspace (cfg : Settings) (db : Db) (inp : IntentInput)
    (owner executionNodeId : Nat) (suffix : String) (config : WorkspaceConfig) :
    Except IntentError Db := do
  ensurePinnedNode cfg db inp executionNodeId
  ensureNotRefused inp
  .ok (db.addWorkspace inp
    { ownerUserId := owner, name := "devnest-op-pinned-test-" ++ suffix, status := .creating
      executionNodeId := some executionNodeId } config)

/-! ## Requests that leave the status alone -/

/-- The open reconcile job of a workspace, with its id. -/
def openReconcileJob (db : Db) (wid : Nat) : Option (Nat × WorkspaceJob) :=
  (db.jobs.entries.find? fun e => e.2.workspaceId = wid && e.2.jobType = .reconcileRuntime &&
    e.2.status.isOpen).map fun e => (e.1, e.2)

/-- `_check_reconcile_lease`: a queued reconcile job holds the lease, a running one only
until the TTL. -/
def checkReconcileLease (cfg : Settings) (db : Db) (inp : IntentInput) (wid : Nat) :
    Except IntentError Unit :=
  match openReconcileJob db wid with
  | none => .ok ()
  | some (jid, job) =>
      if job.status = .queued then
        .error (.workspaceBusy ("A RECONCILE_RUNTIME job is already queued (job_id=" ++
          toString jid ++ "). Skip or wait until it completes."))
      else match job.startedAt with
        | none => .ok ()
        | some t =>
            let age := (inp.now : Int) - t
            if age < cfg.devnestReconcileLeaseTtlSeconds then
              .error (.workspaceBusy ("A RECONCILE_RUNTIME job is already running (job_id=" ++
                toString jid ++ ", age=" ++ toString age ++ "s < lease_ttl=" ++
                toString cfg.devnestReconcileLeaseTtlSeconds ++ "s)."))
            else .ok ()

/-- `enqueue_reconcile_runtime_job`. -/
def enqueueReconcileRuntimeJob (cfg : Settings) (db : Db) (inp : IntentInput) (wid : Nat) :
    Except IntentError Db :=
  match db.workspaces.lookup wid with
  | none => .error .workspaceNotFound
  | some ws => do
      requireNotBusy ws
      requireStatus ws [.running, .stopped, .error, .deleted]
        "Reconcile is only allowed when running, stopped, error, or deleted"
      checkReconcileLease cfg db inp wid
      let version ← intentConfigVersion db wid
      .ok (db.queueJob (newJob inp wid ws.ownerUserId .reconcileRuntime version))

/-- `_pending_snapshot_jobs`. -/
def pendingSnapshotJobs (db : Db) (wid : Nat) : Bool :=
  (Table.rows db.jobs).any fun j =>
    j.workspaceId = wid && j.jobType.isSnapshot && j.status.isOpen

/-- `create_snapshot`. -/
def createSnapshot (db : Db) (inp : IntentInput) (wid owner : Nat) : Except IntentError Db := do
  let ws ← getOwnedWorkspace db wid owner true
  requireStatus ws [.running, .stopped]
    "Snapshots can only be created for RUNNING or STOPPED workspaces"
  if pendingSnapshotJobs db wid then .error .snapshotConflict
  ensureNotRefused inp
  let sid := Table.freshKey db.snapshots
  .ok ({ db with snapshots := db.snapshots.insert sid { workspaceId := wid, status := .creating } }.queueJob
    { newJob inp wid owner .snapshotCreate ((db.latestConfigVersion wid).getD 1) with
      workspaceSnapshotId := some sid })

/-- `restore_snapshot`. -/
def restoreSnapshot (db : Db) (inp : IntentInput) (sid owner : Nat) : Except IntentError Db :=
  match db.snapshots.lookup sid with
  | none => .error .snapshotNotFound
  | some snap =>
      match db.workspaces.lookup snap.workspaceId with
      | none => .error .snapshotNotFound
      | some ws =>
          if ws.ownerUserId ≠ owner then .error .snapshotNotFound
          else if snap.status ≠ .available then
            .error (.workspaceInvalidState
              ("Snapshot must be AVAILABLE (current=" ++ snap.status.value ++ ")"))
          else if ws.status ≠ .stopped then
            .error (.workspaceInvalidState "Workspace must be STOPPED before restore")
          else if pendingSnapshotJobs db snap.workspaceId then .error .snapshotConflict
          else if !inp.hasNonemptyArchive then
            .error (.workspaceInvalidState ("Snapshot archive is missing or empty on storage; " ++
              "cannot restore (check storage root / drift)"))
          else .ok ({ db with snapshots := db.snapshots.insert sid { snap with status := .restoring } }.queueJob
            { newJob inp snap.workspaceId owner .snapshotRestore
                ((db.latestConfigVersion snap.workspaceId).getD 1) with
              workspaceSnapshotId := some sid })

/-- `import_repo`: the status is not looked at. -/
def importRepo (db : Db) (inp : IntentInput) (wid owner : Nat) : Except IntentError Db := do
  let _ ← getOwnedWorkspace db wid owner true
  if inp.repositoryExists then
    .error (.refused ("Workspace already has an associated repository. " ++
      "DELETE it before importing a new one."))
  .ok (db.queueJob (newJob inp wid owner .repoImport ((db.latestConfigVersion wid).getD 1)))

end Devnest
