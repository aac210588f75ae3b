import Devnest.Steps

/-!
# The two ways of running a job

`_process_next_queued_job_return_id` and `run_queued_workspace_job_by_id`
repeat each other: claim, workspace row, orchestrator, job. Only the first
has a shortcut for a `DELETE` whose runtime row is already gone, taken
before `get_orchestrator` is asked.

`get_orchestrator` is a parameter here, as it is in the source; with the
worker's own `defaultOrchestrator` the two functions are the job steps of
the system (`processNextQueuedJobReturnId_default`,
`runQueuedWorkspaceJobById_default`).
-/

namespace Devnest

/-! ## The orchestrator of a job -/

/-- What `get_orchestrator(session, ws, job)` comes to; `nodeKey` is the `_node_id` of the
orchestrator it built. -/
inductive OrchestratorAnswer where
  | built (nodeKey : Option String) (orch : OrchestratorService)
  | placementError (e : PlacementError)
  | bindingError (message : String)
  | crashed

section EntryPoints

variable (cfg : Settings) (inp : WorkerInput) (getOrchestrator : Session → OrchestratorAnswer)

/-- The `try` both functions open with. A `REPO_IMPORT` resolves its placement and has no
orchestrator. -/
def obtainOrchestrator (s : Session) : OrchestratorAnswer :=
  if s.job.jobType = .repoImport then
    match resolveOrchestratorPlacement cfg inp.placement s with
    | .error e => .placementError e
    | .ok _ => .built none {}
  else getOrchestrator s

/-- From `obtainOrchestrator` to the last commit. -/
def dispatchClaimedJob (s : Session) : Execution :=
  match obtainOrchestrator cfg inp getOrchestrator s with
  | .placementError e => ⟨failJobFromPlacement cfg inp s e, true⟩
  | .bindingError m => ⟨failJobFromOrchestratorBinding cfg inp s m, true⟩
  | .crashed => ⟨s, false⟩
  | .built nodeKey orch =>
      processClaimedRunningJob cfg { inp with orch := orch } (beginCreateBringupAfterPlacement s)
        nodeKey

/-- The row of a job whose workspace is gone. -/
def failMissingWorkspace (db : Db) (jid : Nat) (job : WorkspaceJob) : Db :=
  { db with jobs := db.jobs.insert jid (markJobFailed inp.clk job
      "Workspace row not found for job" (some .unknown) (some "missing_workspace")) }

/-- The caller's `commit` or `rollback`. -/
def Execution.settle (ex : Execution) (jid : Nat) (db : Db) : Db :=
  if ex.committed then ex.session.commit jid db else ex.session.rollback db

/-- `_process_next_queued_job_return_id` in one turn of `run_pending_jobs`, when the query
returns `jid`. -/
def processNextQueuedJobReturnId (jid : Nat) (db : Db) : Db :=
  match db.jobs.lookup jid with
  | none => db
  | some job =>
      if !isOldestQueued inp.clk db jid then db
      else
        let job := markJobRunning inp.clk job
        match db.workspaces.lookup job.workspaceId with
        | none => failMissingWorkspace inp db jid job
        | some ws =>
            let s := Session.load db job ws
            if s.job.jobType = .delete && s.rt.isNone then
              (finalizeDeleteRuntimeMissingIdempotent inp.clk s).commit jid db
            else (dispatchClaimedJob cfg inp getOrchestrator s).settle jid db

/-- `run_queued_workspace_job_by_id`. -/
def runQueuedWorkspaceJobById (jid : Nat) (db : Db) : Db :=
  match db.jobs.lookup jid with
  | none => db
  | some job =>
      if !queuedJobEligible inp.clk job then db
      else
        let job := markJobRunning inp.clk job
        match db.workspaces.lookup job.workspaceId with
        | none => failMissingWorkspace inp db jid job
        | some ws =>
            (dispatchClaimedJob cfg inp getOrchestrator (Session.load db job ws)).settle jid db

/-! ## With the worker's own `get_orchestrator` -/

/-- `get_orchestrator` of the worker: placement, then the binding. -/
def defaultOrchestrator (s : Session) : OrchestratorAnswer :=
  match resolveOrchestratorPlacement cfg inp.placement s with
  | .error e => .placementError e
  | .ok (nodeKey, _) =>
      match inp.binding with
      | .bound => .built (some nodeKey) inp.orch
      | .failed m => .bindingError m
      | .crashed => .crashed

/-- A body that never asks the orchestrator does not depend on it. -/
theorem processClaimedRunningJob_repoImport {s : Session} (h : s.job.jobType = .repoImport)
    (orch : OrchestratorService) (nodeKey : Option String) :
    processClaimedRunningJob cfg { inp with orch := orch } s nodeKey =
      processClaimedRunningJob cfg inp s nodeKey := by
  have hbody : ∀ inp' : WorkerInput, executeJobBody cfg inp' s = executeRepoImportJob inp' s := by
    intro inp'
    simp only [executeJobBody, h]
  unfold processClaimedRunningJob
  rw [hbody, hbody]
  unfold executeRepoImportJob
  cases inp.repo <;> rfl

theorem dispatchClaimedJob_default (s : Session) :
    dispatchClaimedJob cfg inp (defaultOrchestrator cfg inp) s = placeAndProcess cfg inp s := by
  unfold dispatchClaimedJob obtainOrchestrator placeAndProcess defaultOrchestrator
  by_cases hrepo : s.job.jobType = .repoImport
  · have hbegin : beginCreateBringupAfterPlacement s = s :=
      beginCreate_of_aux (by rw [hrepo]; rfl)
    rw [if_pos hrepo]
    cases resolveOrchestratorPlacement cfg inp.placement s with
    | error e => rfl
    | ok p =>
        simp only [hrepo, if_true, hbegin]
        exact processClaimedRunningJob_repoImport cfg inp hrepo {} none
  · rw [if_neg hrepo]
    cases resolveOrchestratorPlacement cfg inp.placement s with
    | error e => rfl
    | ok p =>
        simp only [if_neg hrepo]
        cases inp.binding <;> rfl

/-- The job steps of the system are these functions. -/
theorem processNextQueuedJobReturnId_default (jid : Nat) (db : Db) :
    processNextQueuedJobReturnId cfg inp (defaultOrchestrator cfg inp) jid db =
      step cfg db (.processNextQueuedJob inp jid) := by
  unfold processNextQueuedJobReturnId
  simp only [step, runJob]
  cases hjob : db.jobs.lookup jid with
  | none => simp
  | some job =>
      cases hold : isOldestQueued inp.clk db jid with
      | false => rfl
      | true =>
          have helig : queuedJobEligible inp.clk job = true := by
            simp only [isOldestQueued, hjob, Bool.and_eq_true] at hold
            exact hold.1
          simp only [helig, Bool.not_true, Bool.false_eq_true, if_false, if_true]
          cases db.workspaces.lookup (markJobRunning inp.clk job).workspaceId with
          | none => rfl
          | some ws =>
              simp only [executeClaimedJob, dispatchClaimedJob_default]
              show _ = Execution.settle _ jid db
              split
              · rename_i hdel
                rw [if_pos (by simpa using hdel)]
                rfl
              · rename_i hdel
                rw [if_neg (by simpa using hdel)]

theorem runQueuedWorkspaceJobById_default (jid : Nat) (db : Db) :
    runQueuedWorkspaceJobById cfg inp (defaultOrchestrator cfg inp) jid db =
      step cfg db (.runQueuedWorkspaceJobById inp jid) := by
  unfold runQueuedWorkspaceJobById
  simp only [step, runJob, executeClaimedJob, dispatchClaimedJob_default]
  rfl

/-! ## What the shortcut changes -/

/-- The row without the times its handlers wrote. -/
def WorkspaceJob.untimed (j : WorkspaceJob) : WorkspaceJob :=
  { j with startedAt := none, finishedAt := none, nextAttemptAfter := none }

/-- The same job, workspace, runtime, snapshot and cleanup rows, times aside. -/
structure SameRows (db db' : Db) : Prop where
  jobs : ∀ k, (db'.jobs.lookup k).map (·.untimed) = (db.jobs.lookup k).map (·.untimed)
  workspaces : ∀ k, db'.workspaces.lookup k = db.workspaces.lookup k
  runtimes : ∀ k, db'.runtimes.lookup k = db.runtimes.lookup k
  snapshots : ∀ k, db'.snapshots.lookup k = db.snapshots.lookup k
  cleanupTasks : ∀ k, db'.cleanupTasks.lookup k = db.cleanupTasks.lookup k

theorem SameRows.refl (db : Db) : SameRows db db :=
  ⟨fun _ => rfl, fun _ => rfl, fun _ => rfl, fun _ => rfl, fun _ => rfl⟩

theorem SameRows.jobStatus {db db' : Db} (h : SameRows db db') (k : Nat) :
    (db'.jobs.lookup k).map (·.status) = (db.jobs.lookup k).map (·.status) := by
  have hk := congrArg (Option.map WorkspaceJob.status) (h.jobs k)
  rw [Option.map_map, Option.map_map] at hk
  exact hk

/-- An orchestrator comes back and its `delete_workspace_runtime` returns a result. -/
def OrchestratorAnswer.deletes : OrchestratorAnswer → Bool
  | .built _ orch =>
      match orch.deleteWorkspaceRuntime with
      | .returned _ => true
      | .raised _ | .crashed => false
  | .placementError _ | .bindingError _ | .crashed => false

/-- A `DELETE` without a runtime row, run past the shortcut: a returned result ends where the
shortcut ends, and nothing else leaves the job `SUCCEEDED`. -/
theorem dispatchClaimedJob_delete_missing {s : Session} (hjt : s.job.jobType = .delete)
    (hrt : s.rt = none) (hrun : s.job.status = .running) :
    ((getOrchestrator s).deletes = true → dispatchClaimedJob cfg inp getOrchestrator s =
      ⟨finalizeDeleteRuntimeMissingIdempotent inp.clk s, true⟩) ∧
    ((getOrchestrator s).deletes = false →
      (dispatchClaimedJob cfg inp getOrchestrator s).session.job.status ≠ .succeeded) := by
  have hrepo : s.job.jobType ≠ .repoImport := by rw [hjt]; simp
  have hbegin : beginCreateBringupAfterPlacement s = s := by
    simp [beginCreateBringupAfterPlacement, hjt]
  have hfails : ∀ {s' : Session}, Fails s s' → s'.job.status ≠ .succeeded := by
    rintro s' (⟨hq, -⟩ | ⟨hf, -⟩)
    · rw [hq]; simp
    · rw [hf]; simp
  unfold dispatchClaimedJob obtainOrchestrator
  rw [if_neg hrepo, hbegin]
  cases getOrchestrator s with
  | placementError e =>
      exact ⟨by simp [OrchestratorAnswer.deletes],
        fun _ => hfails (failJobFromPlacement_fails cfg inp s e).2⟩
  | bindingError m =>
      exact ⟨by simp [OrchestratorAnswer.deletes],
        fun _ => hfails (failJobFromOrchestratorBinding_fails cfg inp s m).2⟩
  | crashed =>
      refine ⟨by simp [OrchestratorAnswer.deletes], fun _ => ?_⟩
      show s.job.status ≠ .succeeded
      rw [hrun]
      simp
  | built nodeKey orch =>
      simp only [OrchestratorAnswer.deletes, processClaimedRunningJob, executeJobBody, hjt]
      cases orch.deleteWorkspaceRuntime with
      | returned res =>
          refine ⟨fun _ => ?_, by simp⟩
          simp only [finalizeDeleteResult, finalizeDeleteRuntimeMissingIdempotent, hrt]
      | raised m =>
          refine ⟨by simp, fun _ => ?_⟩
          obtain ⟨-, hf, -⟩ := handleOrchestratorException_spec cfg { inp with orch := orch } s
            nodeKey (.delete m)
          exact hfails (hf (by rw [hjt]; rfl))
      | crashed =>
          refine ⟨by simp, fun _ => ?_⟩
          show s.job.status ≠ .succeeded
          rw [hrun]
          simp

theorem claimJob_running {jid : Nat} {db : Db} {s : Session} (h : claimJob inp jid db = some s) :
    s.job.status = .running := by
  unfold claimJob at h
  split at h
  · cases h
  · split at h
    · cases h
    · obtain ⟨ws, -, rfl⟩ := Option.map_eq_some_iff.mp h
      rfl

/-- A claimed job, through either function. -/
theorem runs_of_claim {jid : Nat} {db : Db} {s : Session}
    (hold : isOldestQueued inp.clk db jid = true) (hs : claimJob inp jid db = some s) :
    runQueuedWorkspaceJobById cfg inp getOrchestrator jid db =
      (dispatchClaimedJob cfg inp getOrchestrator s).settle jid db ∧
    processNextQueuedJobReturnId cfg inp getOrchestrator jid db =
      if s.job.jobType = .delete && s.rt.isNone then
        (finalizeDeleteRuntimeMissingIdempotent inp.clk s).commit jid db
      else (dispatchClaimedJob cfg inp getOrchestrator s).settle jid db := by
  unfold claimJob at hs
  unfold runQueuedWorkspaceJobById processNextQueuedJobReturnId
  cases hjob : db.jobs.lookup jid with
  | none => rw [hjob] at hs; cases hs
  | some job =>
      rw [hjob] at hs
      cases helig : queuedJobEligible inp.clk job with
      | false => simp [helig] at hs
      | true =>
          simp only [helig, Bool.not_true, Bool.false_eq_true, if_false] at hs
          obtain ⟨ws, hws, rfl⟩ := Option.map_eq_some_iff.mp hs
          have hws' : db.workspaces.lookup (markJobRunning inp.clk job).workspaceId = some ws := hws
          simp [hold, helig, hws']

/-- A claim that finds no workspace fails the job the same way twice. -/
theorem runs_of_no_claim {jid : Nat} {db : Db} (hold : isOldestQueued inp.clk db jid = true)
    (hs : claimJob inp jid db = none) :
    runQueuedWorkspaceJobById cfg inp getOrchestrator jid db =
      processNextQueuedJobReturnId cfg inp getOrchestrator jid db := by
  unfold claimJob at hs
  unfold runQueuedWorkspaceJobById processNextQueuedJobReturnId
  cases hjob : db.jobs.lookup jid with
  | none => rfl
  | some job =>
      have helig : queuedJobEligible inp.clk job = true := by
        simp only [isOldestQueued, hjob, Bool.and_eq_true] at hold
        exact hold.1
      simp only [hjob, helig, Bool.not_true, Bool.false_eq_true, if_false] at hs
      have hws : db.workspaces.lookup (markJobRunning inp.clk job).workspaceId = none :=
        Option.map_eq_none_iff.mp hs
      simp only [hold, helig, hws, Bool.not_true, Bool.false_eq_true, if_false]

/-- **The two ways of running the oldest job agree** exactly when it is not a `DELETE` without a
runtime row, or when the orchestrator is there and answers that delete. -/
theorem entry_points_agree_iff {jid : Nat} {db : Db}
    (hold : isOldestQueued inp.clk db jid = true) :
    SameRows (processNextQueuedJobReturnId cfg inp getOrchestrator jid db)
        (runQueuedWorkspaceJobById cfg inp getOrchestrator jid db) ↔
      ∀ s ∈ claimJob inp jid db, s.job.jobType = .delete → s.rt = none →
        (getOrchestrator s).deletes = true := by
  cases hs : claimJob inp jid db with
  | none =>
      rw [runs_of_no_claim cfg inp getOrchestrator hold hs]
      exact ⟨fun _ s hs' => by simp at hs', fun _ => .refl _⟩
  | some s =>
      obtain ⟨hid, hnext⟩ := runs_of_claim cfg inp getOrchestrator hold hs
      rw [hid, hnext]
      by_cases hdel : s.job.jobType = .delete ∧ s.rt = none
      · obtain ⟨hjt, hrt⟩ := hdel
        have hrun : s.job.status = .running := claimJob_running inp hs
        obtain ⟨hyes, hno⟩ := dispatchClaimedJob_delete_missing cfg inp getOrchestrator hjt hrt hrun
        rw [if_pos (by simp [hjt, hrt])]
        constructor
        · intro hsame s' hs' _ _
          obtain rfl := Option.some.inj hs'
          by_contra hdeletes
          have hne := hno (by simpa using hdeletes)
          have hst := hsame.jobStatus jid
          generalize dispatchClaimedJob cfg inp getOrchestrator s = ex at hne hst
          obtain ⟨j, hj, -, hq⟩ := (claimJob_claimed hs).job
          unfold Execution.settle at hst
          split at hst
          · simp [finalizeDeleteRuntimeMissingIdempotent, markJobSucceeded] at hst
            exact hne hst
          · simp [Session.rollback, finalizeDeleteRuntimeMissingIdempotent, markJobSucceeded, hj,
              hq] at hst
        · intro h
          rw [hyes (h s rfl hjt hrt)]
          exact .refl _
      · rw [if_neg (by simpa using hdel)]
        refine ⟨fun _ s' hs' hjt hrt => ?_, fun _ => .refl _⟩
        obtain rfl := Option.some.inj hs'
        exact absurd (And.intro hjt hrt) hdel

end EntryPoints

/-- A workspace that never came up, with its `DELETE` queued. -/
def neverUpDb : Db :=
  { sampleDb with
    workspaces := AList.insert 1 { ownerUserId := 7, status := .deleting } ∅
    jobs := AList.insert 1 { workspaceId := 1, jobType := .delete, requestedByUserId := 7,
                             requestedConfigVersion := 1, createdAt := 10 } ∅ }

/-- An orchestrator that is always there and whose delete finds nothing to remove. -/
def answeredDelete (_ : Session) : OrchestratorAnswer :=
  .built (some "node-1") { deleteWorkspaceRuntime := .returned { success := true } }

theorem answered_delete_agrees :
    SameRows (processNextQueuedJobReturnId {} (sampleWorker 20 sampleOrch) answeredDelete 1 neverUpDb)
      (runQueuedWorkspaceJobById {} (sampleWorker 20 sampleOrch) answeredDelete 1 neverUpDb) :=
  (entry_points_agree_iff {} (sampleWorker 20 sampleOrch) answeredDelete (by decide +kernel)).mpr
    fun _ _ _ _ => rfl

/-- The poll loop settles the `DELETE`; by id the worker's own `get_orchestrator` finds no
placement and queues it again. -/
theorem delete_by_id_waits_for_placement :
    ¬ ∀ (cfg : Settings) (inp : WorkerInput) (getOrchestrator : Session → OrchestratorAnswer)
        (jid : Nat) (db : Db), isOldestQueued inp.clk db jid = true →
      SameRows (processNextQueuedJobReturnId cfg inp getOrchestrator jid db)
        (runQueuedWorkspaceJobById cfg inp getOrchestrator jid db) := by
  intro h
  have hst := (h {} (sampleWorker 20 sampleOrch)
    (defaultOrchestrator {} (sampleWorker 20 sampleOrch)) 1 neverUpDb (by decide +kernel)).jobStatus 1
  revert hst
  decide +kernel

end Devnest
