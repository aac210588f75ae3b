import Devnest.Placement
import Devnest.Orchestrator

/-!
# Failure classification and bounded retry

`failure_handling.py` and the job-row helpers of the worker: how a job
is claimed, requeued with a backoff, or settled. Two retry loops exist.
The ordinary one is bounded by `max_attempts`; capacity and node
readiness wait until the job is older than the capacity timeout and do
not look at the attempts.
-/

namespace Devnest

open PyText

/-- What one job execution draws from its surroundings besides the orchestrator. -/
structure Clock where
  now : Nat
  /-- `random.randint(15, hi)`, used only when the configured backoff allows jitter. -/
  jitter : Nat := 15
  deriving DecidableEq, Repr

/-- `_truncate`. -/
def truncate (s : String) (maxLen : Nat) : String :=
  if (strip s).length ≤ maxLen then strip s else take (maxLen - 3) (strip s) ++ "..."

/-- `_format_issues`, with the empty text for `None`. -/
def formatIssues (issues : List String) : String :=
  if issues = [] then "" else truncate (join "; " (issues.filter fun x => strip x ≠ "")) 8192

/-- `a or b` on texts. -/
def orText (a b : String) : String := if a = "" then b else a

/-! ## Job rows -/

/-- `_mark_job_running`: a claim counts as an attempt. -/
def markJobRunning (clk : Clock) (job : WorkspaceJob) : WorkspaceJob :=
  { job with status := .running, startedAt := some clk.now, attempt := job.attempt + 1 }

/-- `_mark_job_succeeded`. -/
def markJobSucceeded (clk : Clock) (job : WorkspaceJob) : WorkspaceJob :=
  { job with
    status := .succeeded, finishedAt := some clk.now, errorMsg := none, failureStage := none
    failureCode := none, nextAttemptAfter := none }

/-- `_mark_job_failed`. -/
def markJobFailed (clk : Clock) (job : WorkspaceJob) (message : String)
    (stage : Option FailureStage) (code : Option String) : WorkspaceJob :=
  { job with
    status := .failed, finishedAt := some clk.now, errorMsg := some (truncate message 8192)
    failureStage := stage.map (·.value), failureCode := code.or (stage.map (·.value))
    nextAttemptAfter := none }

/-- The row all three retry loops write. -/
def requeueJob (job : WorkspaceJob) (message : String) (stage : FailureStage) (code : String)
    (notBefore : Nat) : WorkspaceJob :=
  { job with
    status := .queued, finishedAt := none, startedAt := none
    errorMsg := some (truncate message 8192), failureStage := some stage.value
    failureCode := some code, nextAttemptAfter := some notBefore }

/-- `effective_max_attempts`. -/
def effectiveMaxAttempts (cfg : Settings) (job : WorkspaceJob) : Int :=
  if 1 ≤ job.maxAttempts then job.maxAttempts else max 1 cfg.workspaceJobMaxAttempts

/-- The job may be tried again by the ordinary loop. -/
def attemptsRemain (cfg : Settings) (job : WorkspaceJob) : Bool :=
  (job.attempt : Int) < effectiveMaxAttempts cfg job

/-- `try_schedule_workspace_job_retry`; `none` is `False`. -/
def tryScheduleWorkspaceJobRetry (cfg : Settings) (clk : Clock) (job : WorkspaceJob)
    (message : String) (stage : FailureStage) (code : String) : Option WorkspaceJob :=
  if attemptsRemain cfg job then
    some (requeueJob job message stage (take 64 (orText code stage.value))
      (clk.now + cfg.workspaceJobRetryBackoffSeconds.toNat))
  else none

/-- `capacity_retry_backoff_seconds`. -/
def capacityRetryBackoffSeconds (cfg : Settings) (clk : Clock) : Nat :=
  if cfg.workspaceCapacityRetryBackoffSeconds < 15 then
    cfg.workspaceCapacityRetryBackoffSeconds.toNat
  else clk.jitter

/-- `capacity_wait_timed_out`. -/
def capacityWaitTimedOut (cfg : Settings) (clk : Clock) (job : WorkspaceJob) : Bool :=
  max 1 cfg.workspaceCapacityRetryTimeoutSeconds ≤ (clk.now : Int) - job.createdAt

/-- `try_schedule_capacity_retry` with code `no_schedulable_node`, and
`try_schedule_node_readiness_retry` with code `node_readiness`. -/
def tryScheduleCapacityClassRetry (cfg : Settings) (clk : Clock) (job : WorkspaceJob)
    (message code : String) : Option WorkspaceJob :=
  if capacityWaitTimedOut cfg clk job then none
  else some (requeueJob job message .capacity code (clk.now + capacityRetryBackoffSeconds cfg clk))

/-- `queued_job_eligible_where`. -/
def queuedJobEligible (clk : Clock) (job : WorkspaceJob) : Bool :=
  job.status == .queued && job.nextAttemptAfter.all (· ≤ clk.now)

/-! ## Classification -/

/-- `lifecycle_result_failure_retryable`. -/
def lifecycleResultFailureRetryable : WorkspaceJobType → Bool
  | .create | .start | .restart | .update | .snapshotCreate | .snapshotRestore => true
  | .stop | .delete | .reconcileRuntime | .repoImport => false

/-- `orchestrator_exception_retryable`. -/
def orchestratorExceptionRetryable : WorkspaceJobType → Bool
  | .create | .start | .restart | .update | .reconcileRuntime | .snapshotCreate
  | .snapshotRestore => true
  | .stop | .delete | .repoImport => false

/-- `_NODE_READINESS_RETRY_JOB_TYPES`. -/
def nodeReadinessRetryAllowed : WorkspaceJobType → Bool
  | .create | .start | .restart | .update => true
  | .stop | .delete | .reconcileRuntime | .snapshotCreate | .snapshotRestore | .repoImport => false

/-- `_is_node_readiness_error`. -/
def isNodeReadinessError (message : String) : Bool :=
  ["ssm connectivity check failed", "invocationdoesnotexist", "undeliverable",
   "ssm runshellscript failed", "docker: command not found", "docker not found",
   "failed to pull image", "docker pull", "readygatepending", "node.ready_gate"].any
    fun marker => isIn marker (lower (strip message))

/-- `classify_reconcile_failure`. -/
def classifyReconcileFailure (message : String) : FailureStage × Bool :=
  let m := lower (strip message)
  if isIn "reconcile:advisory_lock_contended" m then (.placement, true)
  else if isIn "reconcile:workspace_busy" m || isIn "reconcile:unsupported_workspace_status" m then
    (.unknown, false)
  else if isIn "gateway_" m || isIn "gateway:" m then (.proxy, true)
  else if isIn "health_check_failed" m || isIn "runtime_not_healthy" m then (.container, true)
  else if isIn "stop_failed" m then (.container, true)
  else (.unknown, true)

/-! ## Workspace rows -/

/-- `_workspace_clear_errors`. -/
def workspaceClearErrors (ws : Workspace) : Workspace :=
  { ws with lastErrorCode := none, lastErrorMessage := none, statusReason := none }

/-- `ws.status = ERROR` with `_workspace_set_error`. -/
def workspaceError (ws : Workspace) (code message : String) : Workspace :=
  { ws with
    status := .error, lastErrorCode := some (truncate code 64)
    lastErrorMessage := some (truncate message 4096), statusReason := some (truncate message 1024) }

/-- The workspace while its job waits for capacity or for a node. -/
def workspacePending (ws : Workspace) (message reason : String) : Workspace :=
  { ws with
    status := .pending, lastErrorMessage := some message, lastErrorCode := none
    statusReason := some reason }

/-- `_clear_runtime_capacity_reservation`. -/
def clearRuntimeCapacityReservation (rt : Option WorkspaceRuntime) : Option WorkspaceRuntime :=
  rt.map fun r =>
    if r.reservedCpu ≤ 0 && r.reservedMemoryMb ≤ 0 && r.reservedDiskMb ≤ 0 then r
    else { r with reservedCpu := 0, reservedMemoryMb := 0, reservedDiskMb := 0 }

/-! ## Retry, or the terminal path -/

/-- `if retryable and try_schedule_workspace_job_retry(...): return`, else the terminal
session. -/
def retryElse (cfg : Settings) (clk : Clock) (s : Session) (retryable : Bool) (message : String)
    (stage : FailureStage) (code : String) (terminal : Session) : Session :=
  match (if retryable then tryScheduleWorkspaceJobRetry cfg clk s.job message stage code else none) with
  | some job => { s with job := job }
  | none => terminal

/-- Wait for capacity or for a node: the job is queued again and the workspace is
`PENDING`, until the wait times out. -/
def waitElse (cfg : Settings) (clk : Clock) (s : Session) (message code reason : String)
    (terminal : Session) : Session :=
  match tryScheduleCapacityClassRetry cfg clk s.job message code with
  | some job => { s with job := job, ws := workspacePending s.ws message reason }
  | none => terminal

/-- Same workspace, same type: no helper moves a job elsewhere. -/
def SameJob (j j' : WorkspaceJob) : Prop :=
  j'.workspaceId = j.workspaceId ∧ j'.jobType = j.jobType

theorem SameJob.refl (j : WorkspaceJob) : SameJob j j := ⟨rfl, rfl⟩

theorem SameJob.trans {j j' j'' : WorkspaceJob} (h : SameJob j j') (h' : SameJob j' j'') :
    SameJob j j'' := ⟨h'.1.trans h.1, h'.2.trans h.2⟩

theorem retryElse_cases (cfg : Settings) (clk : Clock) (s : Session) (retryable : Bool)
    (message : String) (stage : FailureStage) (code : String) (terminal : Session) :
    ((retryable && attemptsRemain cfg s.job) = true ∧
      ∃ j, retryElse cfg clk s retryable message stage code terminal = { s with job := j } ∧
        SameJob s.job j ∧ j.status = .queued) ∨
    ((retryable && attemptsRemain cfg s.job) = false ∧
      retryElse cfg clk s retryable message stage code terminal = terminal) := by
  cases retryable with
  | false => exact .inr ⟨rfl, rfl⟩
  | true =>
      cases h : attemptsRemain cfg s.job with
      | true =>
          refine .inl ⟨rfl, requeueJob s.job message stage (take 64 (orText code stage.value))
            (clk.now + cfg.workspaceJobRetryBackoffSeconds.toNat), ?_, ⟨rfl, rfl⟩, rfl⟩
          simp [retryElse, tryScheduleWorkspaceJobRetry, h]
      | false => exact .inr ⟨rfl, by simp [retryElse, tryScheduleWorkspaceJobRetry, h]⟩

theorem waitElse_cases (cfg : Settings) (clk : Clock) (s : Session) (message code reason : String)
    (terminal : Session) :
    (∃ j, waitElse cfg clk s message code reason terminal =
        { s with job := j, ws := workspacePending s.ws message reason } ∧
      SameJob s.job j ∧ j.status = .queued) ∨
    waitElse cfg clk s message code reason terminal = terminal := by
  cases h : capacityWaitTimedOut cfg clk s.job with
  | true => exact .inr (by simp [waitElse, tryScheduleCapacityClassRetry, h])
  | false =>
      refine .inl ⟨requeueJob s.job message .capacity code
        (clk.now + capacityRetryBackoffSeconds cfg clk), ?_, ⟨rfl, rfl⟩, rfl⟩
      simp [waitElse, tryScheduleCapacityClassRetry, h]

/-- The node and topology a runtime row names. -/
def WorkspaceRuntime.placement (r : WorkspaceRuntime) : Option String × Option Int :=
  (r.nodeId, r.topologyId)

@[simp] theorem clearRuntimeCapacityReservation_placement (rt : Option WorkspaceRuntime) :
    (clearRuntimeCapacityReservation rt).map (·.placement) = rt.map (·.placement) := by
  cases rt with
  | none => rfl
  | some r =>
      simp only [clearRuntimeCapacityReservation, Option.map_some]
      split <;> rfl

end Devnest
