import Devnest.Runs
import Devnest.Intents

/-!
# The system: intents and worker ticks

A step is one committed transaction: an API request, one job execution
(through either entry point), the cleanup drain, or the reclaim of
stuck jobs. `run_pending_jobs` is a sequence of job executions followed
by a drain, so a run of ticks is a run of these steps.

The inputs of a step hold everything the transaction meets outside the
database, so a run is a list of inputs and `step` is a function.
-/

namespace Devnest

/-! ## Job executions -/

/-- Claim job `jid`, run it and commit, or roll back when an exception escapes. -/
def runJob (cfg : Settings) (entry : EntryPoint) (inp : WorkerInput) (jid : Nat) (db : Db) : Db :=
  match db.jobs.lookup jid with
  | none => db
  | some job =>
      if !queuedJobEligible inp.clk job then db
      else
        let job := markJobRunning inp.clk job
        match db.workspaces.lookup job.workspaceId with
        | none => { db with jobs := db.jobs.insert jid (markJobFailed inp.clk job
            "Workspace row not found for job" (some .unknown) (some "missing_workspace")) }
        | some ws =>
            let ex := executeClaimedJob cfg inp entry (Session.load db job ws)
            if ex.committed then ex.session.commit jid db else ex.session.rollback db

/-- `jid` is an oldest eligible job. `ORDER BY created_at LIMIT 1` does not say which one
of several equally old rows comes first. -/
def isOldestQueued (clk : Clock) (db : Db) (jid : Nat) : Bool :=
  match db.jobs.lookup jid with
  | none => false
  | some job => queuedJobEligible clk job &&
      (Table.rows db.jobs).all fun j => !queuedJobEligible clk j || job.createdAt ≤ j.createdAt

/-! ## The cleanup drain -/

/-- What the drain meets at one workspace. -/
structure DrainAnswer where
  wid : Nat
  /-- `build_default_orchestrator_for_session` did not raise. -/
  bound : Bool := true
  stop : CleanupScope → Outcome String WorkspaceStopResult

/-- One turn of `drain_pending_cleanup_tasks`. -/
def drainWorkspace (db : Db) (ans : DrainAnswer) : Db :=
  match db.workspaces.lookup ans.wid with
  | none => db
  | some ws =>
      if !(db.tasksOf ans.wid).anyPending || !ans.bound then db
      else
        let c := processDurableCleanupTasksForWorkspace ans.wid ws.status ans.stop
          { rt := db.runtimes.lookup ans.wid, tasks := db.tasksOf ans.wid, trace := [] }
        { db with
          runtimes := match c.rt with
            | some rt => db.runtimes.insert ans.wid rt
            | none => db.runtimes
          cleanupTasks := db.cleanupTasks.insert ans.wid c.tasks
          trace := c.trace ++ db.trace }

/-- `drain_pending_cleanup_tasks` over the workspaces its query returned. -/
def drainPendingCleanupTasks (db : Db) (answers : List DrainAnswer) : Db :=
  answers.foldl drainWorkspace db

/-! ## Reclaim -/

/-- `RUNNING` since before the cutoff. -/
def isStuckRunning (cfg : Settings) (clk : Clock) (job : WorkspaceJob) : Bool :=
  job.status = .running && job.startedAt.any fun t =>
    (t : Int) ≤ (clk.now : Int) - cfg.workspaceJobStuckTimeoutSeconds

/-- One turn of `reclaim_stuck_running_jobs`. -/
def reclaimJob (cfg : Settings) (clk : Clock) (db : Db) (jid : Nat) : Db :=
  match db.jobs.lookup jid with
  | none => db
  | some job =>
      let message := "stuck_running_reclaimed:job_id=" ++ toString jid ++ ",started_at=" ++
        toString (job.startedAt.getD 0)
      match tryScheduleWorkspaceJobRetry cfg clk job message .unknown "STUCK_RUNNING_RECLAIMED" with
      | some job => { db with jobs := db.jobs.insert jid job }
      | none =>
          let db := { db with jobs := db.jobs.insert jid (markJobFailed clk job message
            (some .unknown) (some "STUCK_RUNNING_TERMINAL")) }
          match db.workspaces.lookup job.workspaceId, job.jobType.isLifecycle with
          | some ws, true =>
              { db with
                workspaces := db.workspaces.insert job.workspaceId
                  (workspaceError ws "STUCK_RUNNING_TERMINAL" message)
                runtimes := match clearRuntimeCapacityReservation
                    (db.runtimes.lookup job.workspaceId) with
                  | some rt => db.runtimes.insert job.workspaceId rt
                  | none => db.runtimes }
          | _, _ => db

/-- `reclaim_stuck_running_jobs`, at most twenty jobs at a time. -/
def reclaimStuckRunningJobs (cfg : Settings) (clk : Clock) (db : Db) : Db :=
  if cfg.workspaceJobStuckTimeoutSeconds ≤ 0 then db
  else (((db.jobs.entries.filter fun e => isStuckRunning cfg clk e.2).map Sigma.fst).take 20).foldl
    (reclaimJob cfg clk) db

/-! ## Steps and runs -/

inductive Step where
  | createWorkspace (inp : IntentInput) (owner : Nat) (name : String) (config : WorkspaceConfig)
  | createOperatorPinnedTestWorkspace (inp : IntentInput) (owner executionNodeId : Nat)
      (suffix : String) (config : WorkspaceConfig)
  | requestStartWorkspace (inp : IntentInput) (wid owner user : Nat)
  | requestStopWorkspace (inp : IntentInput) (wid owner user : Nat)
  | requestRestartWorkspace (inp : IntentInput) (wid owner user : Nat)
  | requestDeleteWorkspace (inp : IntentInput) (wid owner user : Nat)
  | requestUpdateWorkspace (inp : IntentInput) (wid owner user : Nat) (config : WorkspaceConfig)
  | enqueueReconcileRuntimeJob (inp : IntentInput) (wid : Nat)
  | createSnapshot (inp : IntentInput) (wid owner : Nat)
  | restoreSnapshot (inp : IntentInput) (sid owner : Nat)
  | importRepo (inp : IntentInput) (wid owner : Nat)
  /-- One turn of `run_pending_jobs`, on the oldest eligible job. -/
  | processNextQueuedJob (inp : WorkerInput) (jid : Nat)
  | runQueuedWorkspaceJobById (inp : WorkerInput) (jid : Nat)
  | drainPendingCleanupTasks (answers : List DrainAnswer)
  | reclaimStuckRunningJobs (clk : Clock)

/-- A refused intent changes nothing. -/
def accepted (db : Db) (r : Except IntentError Db) : Db :=
  match r with
  | .ok db' => db'
  | .error _ => db

def step (cfg : Settings) (db : Db) : Step → Db
  | .createWorkspace inp owner name config => accepted db (createWorkspace db inp owner name config)
  | .createOperatorPinnedTestWorkspace inp owner executionNodeId suffix config =>
      accepted db (createOperatorPinnedTestWorkspace cfg db inp owner executionNodeId suffix config)
  | .requestStartWorkspace inp wid owner user =>
      accepted db (requestStartWorkspace db inp wid owner user)
  | .requestStopWorkspace inp wid owner user =>
      accepted db (requestStopWorkspace db inp wid owner user)
  | .requestRestartWorkspace inp wid owner user =>
      accepted db (requestRestartWorkspace db inp wid owner user)
  | .requestDeleteWorkspace inp wid owner user =>
      accepted db (requestDeleteWorkspace db inp wid owner user)
  | .requestUpdateWorkspace inp wid owner user config =>
      accepted db (requestUpdateWorkspace db inp wid owner user config)
  | .enqueueReconcileRuntimeJob inp wid => accepted db (enqueueReconcileRuntimeJob cfg db inp wid)
  | .createSnapshot inp wid owner => accepted db (createSnapshot db inp wid owner)
  | .restoreSnapshot inp sid owner => accepted db (restoreSnapshot db inp sid owner)
  | .importRepo inp wid owner => accepted db (importRepo db inp wid owner)
  | .processNextQueuedJob inp jid =>
      if isOldestQueued inp.clk db jid then runJob cfg .runPendingJobs inp jid db else db
  | .runQueuedWorkspaceJobById inp jid => runJob cfg .runQueuedWorkspaceJobById inp jid db
  | .drainPendingCleanupTasks answers => drainPendingCleanupTasks db answers
  | .reclaimStuckRunningJobs clk => reclaimStuckRunningJobs cfg clk db

/-- A fresh installation: nodes and topologies, no workspace yet. -/
def initDb (nodes : Table Nat ExecutionNode) (topologies : List Int) : Db :=
  { executionNodes := nodes, topologies := topologies }

/-! ## A small installation

One node, one topology. The concrete runs of the later modules start here. -/

def sampleNode : ExecutionNode := { nodeKey := "node-1", defaultTopologyId := some 1 }

def sampleDb : Db := initDb (AList.insert 1 sampleNode ∅) [1]

/-- A container of the sample node. -/
def sampleUp : WorkspaceBringUpResult :=
  { success := true, nodeId := some "node-1", topologyId := some "1", containerId := some "c1" }

/-- An orchestrator whose bring-ups succeed. -/
def sampleOrch : OrchestratorService := { bringUpWorkspaceRuntime := .returned sampleUp }

/-- A bring-up that failed and could not be rolled back. -/
def failedRollbackOrch : OrchestratorService :=
  { bringUpWorkspaceRuntime := .returned
      { success := false, rollbackAttempted := true, rollbackSucceeded := some false } }

/-- A worker at time `now`. -/
def sampleWorker (now : Nat) (orch : OrchestratorService) : WorkerInput :=
  { clk := { now := now }, placement := { schedule := .chosen sampleNode }, orch := orch }

end Devnest
