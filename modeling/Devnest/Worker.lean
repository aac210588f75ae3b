import Devnest.Reconcile

/-!
# The job worker

One claimed job from placement to its settled rows: the bodies of the
job types, the handler of the orchestrator's exceptions, and the two
entry points `_process_next_queued_job_return_id` and
`run_queued_workspace_job_by_id`. The entry points differ in one thing:
only the first finishes a `DELETE` whose runtime row is already gone.

An execution is a function of the session and of `WorkerInput`, the
answers it meets. `crashed` means an exception left the worker; the
caller rolls the session back.
-/

namespace Devnest

open PyText

/-! ## Surroundings -/

/-- Building the orchestrator: done, `AppOrchestratorBindingError`, or another exception. -/
inductive BindingAnswer where
  | bound
  | failed (message : String)
  | crashed
  deriving DecidableEq, Repr

/-- The snapshot archive store, as far as a job's outcome depends on it. -/
structure StorageAnswers where
  /-- `S3SnapshotStorageProvider`, which has upload and download. -/
  remote : Bool := false
  uploadError : Option String := none
  downloadError : Option String := none
  hasNonemptyArchive : Bool := true
  archivePath : String := ""
  /-- `_export_remote_ec2_snapshot_to_s3`, for a running container on an EC2 node. -/
  remoteExport : WorkspaceSnapshotOperationResult := { success := false }
  deriving DecidableEq, Repr

/-- `_execute_repo_import_job`, as far as the rows of this model see it: the clone
succeeded, or one of its failure paths was taken. -/
inductive RepoImportAnswer where
  | cloned
  | failed
  deriving DecidableEq, Repr

structure WorkerInput where
  clk : Clock
  placement : PlacementInput
  binding : BindingAnswer := .bound
  orch : OrchestratorService
  gateway : GatewayClient := {}
  lockAcquired : Bool := true
  port : Option String → Option Nat := fun _ => none
  storage : StorageAnswers := {}
  repo : RepoImportAnswer := .cloned

section Worker

variable (cfg : Settings) (inp : WorkerInput)

/-! ## Before the orchestrator runs -/

/-- The terminal end of `_fail_job_from_placement` and of
`_fail_job_from_orchestrator_binding`, whatever the job's type. -/
def failJobTerminal (s : Session) (message : String) (stage : FailureStage)
    (failureCode errorCode : String) : Session :=
  { s with
    job := markJobFailed inp.clk s.job message (some stage) (some failureCode)
    ws := workspaceError s.ws errorCode message
    rt := clearRuntimeCapacityReservation s.rt }

/-- `_fail_job_from_placement`. -/
def failJobFromPlacement (s : Session) (e : PlacementError) : Session :=
  match e with
  | .noSchedulableNode m =>
      waitElse cfg inp.clk s "Waiting for execution capacity" "no_schedulable_node"
        "Preparing capacity..."
        (failJobTerminal inp s
          (if capacityWaitTimedOut cfg inp.clk s.job then
            "Timed out waiting for execution capacity. Please try again later." else m)
          .capacity "no_schedulable_node" "PLACEMENT_FAILED")
  | .invalidPlacementParameters m | .authoritativePlacement m =>
      retryElse cfg inp.clk s true m .placement "placement"
        (failJobTerminal inp s m .placement "placement" "PLACEMENT_FAILED")

/-- `_NODE_KEY_RE`: the text between the quotes after `node `. -/
def nodeKeyFromErrorMessage (message : String) : Option String :=
  let isQuote : Char → Bool := fun c => c = Char.ofNat 39 || c = '"'
  let rec go : List Char → Option String
    | [] => none
    | c :: l =>
        match (c :: l).take 5, (c :: l).drop 5 with
        | ['n', 'o', 'd', 'e', ' '], q :: rest =>
            let key := rest.takeWhile fun c => !isQuote c
            if isQuote q && key ≠ [] && (rest.drop key.length).any isQuote then
              some (String.ofList key)
            else go l
        | _, _ => go l
  go message.toList

/-- `_mark_node_not_ready_for_retry`. -/
def markNodeNotReadyForRetry (s : Session) (nodeKey : Option String) (reason : String) : Session :=
  if stripOr nodeKey = "" then s
  else match nodeByKey s.executionNodes (stripOr nodeKey) with
    | none => s
    | some (nid, node) =>
        if node.providerType ≠ "ec2" then s
        else { s with executionNodes := s.executionNodes.insert nid { node with
          status := "PROVISIONING", schedulable := false
          lastErrorCode := some "ReadyGatePending"
          lastErrorMessage := some (truncate reason 4096) } }

/-- The node-readiness wait of the binding and the exception handler. -/
def waitForNodeReadiness (s : Session) (nodeKey : Option String) (reason errorCode : String) :
    Session :=
  let s := markNodeNotReadyForRetry s nodeKey reason
  waitElse cfg inp.clk s "Waiting for node readiness" "node_readiness"
    "Waiting for available node..."
    (failJobTerminal inp s "Timed out waiting for node readiness. Please try again later."
      .capacity "node_readiness" errorCode)

/-- `_fail_job_from_orchestrator_binding`. -/
def failJobFromOrchestratorBinding (s : Session) (message : String) : Session :=
  if nodeReadinessRetryAllowed s.job.jobType && isNodeReadinessError message then
    waitForNodeReadiness cfg inp s (nodeKeyFromErrorMessage message) message
      "ORCHESTRATOR_BINDING_FAILED"
  else
    retryElse cfg inp.clk s true message .network "orchestrator_binding"
      (failJobTerminal inp s message .network "orchestrator_binding" "ORCHESTRATOR_BINDING_FAILED")

/-- `_begin_create_bringup_after_placement`. -/
def beginCreateBringupAfterPlacement (s : Session) : Session :=
  if s.job.jobType = .create && s.ws.status = .pending then
    { s with ws := { s.ws with
      status := .creating, statusReason := some "Provisioning workspace runtime..."
      lastErrorMessage := none, lastErrorCode := none } }
  else s

/-! ## Job bodies -/

/-- The `ValueError` of `_workspace_job_runtime_overrides_from_config`, keys in order. -/
def runtimeOverridesError (config : WorkspaceConfig) : Option String :=
  if config.cpuLimitCores = .unparseable then some "cpu_limit_cores must be a positive number"
  else if config.memoryLimitMib = .unparseable then some "memory_limit_mib must be a positive integer"
  else if config.pidsLimit = .unparseable then some "pids_limit must be a positive integer"
  else none

/-- The `CREATE` and `START` body. -/
def executeBringUpJob (s : Session) : Exit :=
  match runtimeOverridesError (s.config.getD {}) with
  | some msg => .returned
      { s with
        job := markJobFailed inp.clk s.job msg (some .unknown) (some "INVALID_RUNTIME_LIMITS")
        ws := workspaceError s.ws "INVALID_RUNTIME_LIMITS" msg }
  | none =>
      match inp.orch.bringUpWorkspaceRuntime with
      | .crashed => .crashed s
      | .raised e => .raised (.bringUp e) s
      | .returned res => finalizeBringupResult cfg inp.clk inp.port s res

/-- `_is_remote_ec2_ssm_snapshot_node`. -/
def isRemoteEc2SsmSnapshotNode (node : Option ExecutionNode) : Bool :=
  match node with
  | none => false
  | some node =>
      lower (strip node.providerType) = "ec2" || lower (strip node.executionMode) = "ssm_docker"

/-- The job failed and the workspace is left alone. -/
def failJobOnly (s : Session) (message : String) (stage : FailureStage) (code : String) : Session :=
  { s with job := markJobFailed inp.clk s.job message (some stage) (some code) }

/-- `snap.status = …` for the job's snapshot row. -/
def setSnapshot (s : Session) (sid : Nat) (snap : WorkspaceSnapshot) : Session :=
  { s with snapshots := s.snapshots.insert sid snap }

/-- The container to export from: that of a `RUNNING` workspace. -/
def snapshotContainer (s : Session) : Bool :=
  s.ws.status = .running && lower (stripOr (s.rt.bind (·.containerState))) = "running" &&
    stripOr (s.rt.bind (·.containerId)) ≠ ""

/-- The end of `_execute_snapshot_create_job`, after the export. -/
def finishSnapshotCreate (s : Session) (sid : Nat) (snap : WorkspaceSnapshot)
    (res : WorkspaceSnapshotOperationResult) (uploaded : Bool) : Session :=
  if res.success then
    match (if inp.storage.remote && !uploaded then inp.storage.uploadError else none) with
    | some err =>
        failJobOnly inp (setSnapshot s sid { snap with status := .failed })
          ("snapshot:create:upload_failed:" ++ err) .storage "SNAPSHOT_CREATE_UPLOAD_FAILED"
    | none =>
        { setSnapshot s sid
            { snap with sizeBytes := some (res.sizeBytes.getD 0), status := .available } with
          job := markJobSucceeded inp.clk s.job }
  else
    failJobOnly inp (setSnapshot s sid { snap with status := .failed })
      (join "; " (if res.issues = [] then ["snapshot:create:failed"] else res.issues))
      .storage "SNAPSHOT_CREATE_FAILED"

/-- `_execute_snapshot_create_job`. -/
def executeSnapshotCreateJob (s : Session) : Exit :=
  match s.job.workspaceSnapshotId with
  | none => .returned (failJobOnly inp s "SNAPSHOT_CREATE job missing workspace_snapshot_id"
      .unknown "SNAPSHOT_JOB_INVALID")
  | some sid =>
      match s.snapshots.lookup sid with
      | none => .returned (failJobOnly inp s "Snapshot row missing or workspace mismatch"
          .unknown "SNAPSHOT_ROW_INVALID")
      | some snap =>
          if snap.workspaceId ≠ s.wid then
            .returned (failJobOnly inp (setSnapshot s sid { snap with status := .failed })
              "Snapshot row missing or workspace mismatch" .unknown "SNAPSHOT_ROW_INVALID")
          else if snapshotContainer s && inp.storage.remote && isRemoteEc2SsmSnapshotNode
              (s.ws.executionNodeId.bind s.executionNodes.lookup) then
            .returned (finishSnapshotCreate inp s sid snap inp.storage.remoteExport
              inp.storage.remoteExport.success)
          else match inp.orch.exportWorkspaceFilesystemSnapshot with
            | .crashed => .crashed s
            | .raised e => .raised (.snapshot e) s
            | .returned res => .returned (finishSnapshotCreate inp s sid snap res false)

/-- `_execute_snapshot_restore_job`. -/
def executeSnapshotRestoreJob (s : Session) : Exit :=
  match s.job.workspaceSnapshotId with
  | none => .returned (failJobOnly inp s "SNAPSHOT_RESTORE job missing workspace_snapshot_id"
      .unknown "SNAPSHOT_JOB_INVALID")
  | some sid =>
      match s.snapshots.lookup sid with
      | none => .returned (failJobOnly inp s "Snapshot row missing or workspace mismatch"
          .unknown "SNAPSHOT_ROW_INVALID")
      | some snap =>
          let back := setSnapshot s sid { snap with status := .available }
          if snap.workspaceId ≠ s.wid then
            .returned (failJobOnly inp s "Snapshot row missing or workspace mismatch"
              .unknown "SNAPSHOT_ROW_INVALID")
          else match (if inp.storage.remote then inp.storage.downloadError else none) with
            | some err => .returned (failJobOnly inp back
                ("snapshot:restore:download_failed:" ++ err) .storage
                "SNAPSHOT_RESTORE_DOWNLOAD_FAILED")
            | none =>
                if !inp.storage.hasNonemptyArchive then
                  .returned (failJobOnly inp back ("snapshot:restore:archive_missing_or_empty:" ++
                    inp.storage.archivePath) .storage "SNAPSHOT_RESTORE_MISSING_ARCHIVE")
                else match inp.orch.importWorkspaceFilesystemSnapshot with
                  | .crashed => .crashed s
                  | .raised e => .raised (.snapshot e) s
                  | .returned res =>
                      if res.success then
                        .returned { back with job := markJobSucceeded inp.clk s.job }
                      else .returned (failJobOnly inp back
                        (join "; " (if res.issues = [] then ["snapshot:restore:failed"]
                          else res.issues)) .storage "SNAPSHOT_RESTORE_FAILED")

/-- `_execute_repo_import_job`. Each failure path names `FailureStage.ORCHESTRATION`, which
the enumeration does not have, so it leaves with an `AttributeError`. -/
def executeRepoImportJob (s : Session) : Exit :=
  match inp.repo with
  | .cloned => .returned { s with job := markJobSucceeded inp.clk s.job }
  | .failed => .crashed s

/-- What the reconciler sees of the worker's surroundings. -/
def WorkerInput.reconcile : ReconcileInput :=
  { orch := inp.orch, gateway := inp.gateway, lockAcquired := inp.lockAcquired, port := inp.port }

/-- `_execute_job_body`. Every job type of the enumeration has a body. -/
def executeJobBody (s : Session) : Exit :=
  match s.job.jobType with
  | .repoImport => executeRepoImportJob inp s
  | .create | .start => executeBringUpJob cfg inp s
  | .stop =>
      match inp.orch.stopWorkspaceRuntime with
      | .crashed => .crashed s
      | .raised e => .raised (.stop e) s
      | .returned res => .returned (finalizeStopResult cfg inp.clk s res)
  | .delete =>
      match inp.orch.deleteWorkspaceRuntime with
      | .crashed => .crashed s
      | .raised e => .raised (.delete e) s
      | .returned res => .returned (finalizeDeleteResult inp.clk s res)
  | .restart =>
      match inp.orch.restartWorkspaceRuntime with
      | .crashed => .crashed s
      | .raised e => .raised (.restart e) s
      | .returned res => finalizeRestartResult cfg inp.clk inp.port s res
  | .update =>
      match inp.orch.updateWorkspaceRuntime with
      | .crashed => .crashed s
      | .raised e => .raised (.update e) s
      | .returned res => finalizeUpdateResult cfg inp.clk inp.port s res
  | .reconcileRuntime => executeReconcileRuntimeJob cfg inp.clk inp.reconcile s
  | .snapshotCreate => executeSnapshotCreateJob inp s
  | .snapshotRestore => executeSnapshotRestoreJob inp s

/-! ## The exception handler -/

/-- The snapshot row when its job fails for good. -/
def settleSnapshotAfterException (s : Session) : Session :=
  match s.job.workspaceSnapshotId with
  | none => s
  | some sid =>
      match s.snapshots.lookup sid with
      | none => s
      | some snap =>
          if s.job.jobType = .snapshotCreate then
            if snap.status = .creating then setSnapshot s sid { snap with status := .failed } else s
          else setSnapshot s sid { snap with status := .available }

/-- `str(e)`, with the rollback's issues appended. -/
def exceptionMessage (e : OrchestratorException) : String :=
  match e with
  | .bringUp be =>
      let rb := formatIssues be.rollbackIssues
      if be.rollbackSucceeded = some false && rb ≠ "" then be.message ++ "; rollback_failed: " ++ rb
      else be.message
  | e => e.message

/-- Only a bring-up's exception says what a rollback did. -/
def syncAfterException (s : Session) (e : OrchestratorException) : Session :=
  match e with
  | .bringUp be => syncRuntimeAfterBringupException s be
  | .stop _ | .delete _ | .restart _ | .update _ | .snapshot _ => s

/-- The `except _ORCHESTRATOR_EXCEPTIONS` branch of `_process_claimed_running_job`. -/
def handleOrchestratorException (s : Session) (nodeKey : Option String)
    (e : OrchestratorException) : Session :=
  let s := syncAfterException s e
  let msg := exceptionMessage e
  if nodeReadinessRetryAllowed s.job.jobType && isNodeReadinessError msg then
    waitForNodeReadiness cfg inp s nodeKey msg "ORCHESTRATOR_EXCEPTION"
  else
    let stage := if s.job.jobType.isSnapshot then FailureStage.storage else .container
    retryElse cfg inp.clk s (orchestratorExceptionRetryable s.job.jobType && !e.isStopOrDelete)
      msg stage "ORCHESTRATOR_EXCEPTION"
      (if s.job.jobType.isSnapshot then
        failJobOnly inp (settleSnapshotAfterException s) msg stage "ORCHESTRATOR_EXCEPTION"
      else failJobTerminal inp s msg stage "ORCHESTRATOR_EXCEPTION" "ORCHESTRATOR_EXCEPTION")

/-! ## One execution -/

/-- The session after an execution and whether it is committed. -/
structure Execution where
  session : Session
  committed : Bool

/-- `_process_claimed_running_job`. -/
def processClaimedRunningJob (s : Session) (nodeKey : Option String) : Execution :=
  match executeJobBody cfg inp s with
  | .returned s' => ⟨s', true⟩
  | .raised e s' => ⟨handleOrchestratorException cfg inp s' nodeKey e, true⟩
  | .crashed s' => ⟨s', false⟩

/-- Placement, then the orchestrator, then the job: what both entry points share. A
`REPO_IMPORT` resolves placement and builds no orchestrator. -/
def placeAndProcess (s : Session) : Execution :=
  match resolveOrchestratorPlacement cfg inp.placement s with
  | .error e => ⟨failJobFromPlacement cfg inp s e, true⟩
  | .ok (nodeKey, _) =>
      if s.job.jobType = .repoImport then processClaimedRunningJob cfg inp s none
      else match inp.binding with
        | .crashed => ⟨s, false⟩
        | .failed m => ⟨failJobFromOrchestratorBinding cfg inp s m, true⟩
        | .bound =>
            processClaimedRunningJob cfg inp (beginCreateBringupAfterPlacement s) (some nodeKey)

/-- Which entry point runs the job. -/
inductive EntryPoint where
  /-- `run_pending_jobs`, through `_process_next_queued_job_return_id`. -/
  | runPendingJobs
  /-- `run_queued_workspace_job_by_id`. -/
  | runQueuedWorkspaceJobById
  deriving DecidableEq, Repr

/-- The execution of a claimed job whose workspace exists. -/
def executeClaimedJob (entry : EntryPoint) (s : Session) : Execution :=
  if entry = .runPendingJobs && s.job.jobType = .delete && s.rt.isNone then
    ⟨finalizeDeleteRuntimeMissingIdempotent inp.clk s, true⟩
  else placeAndProcess cfg inp s

end Worker

end Devnest
