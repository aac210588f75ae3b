import Devnest.Steps

/-!
# Attempts

A claim counts as an attempt, and what an execution then does to the job
row is one of four things: the job waits for capacity, is queued for
another attempt, or is settled either way (`JobFate`). The row of an
execution that a foreign exception ends is rolled back, the attempt with
it.

Over a run the counter of a row is the number of its committed executions,
the waits among them (`CountsExecutions`), so that a wait takes an attempt
away from the bring-ups. `retry_refused_iff` says when that matters.
-/

namespace Devnest

open Runs

/-! ## What becomes of a job row -/

/-- The row `j` of a claimed job, after an execution. -/
inductive JobFate (cfg : Settings) (clk : Clock) (j : WorkspaceJob) : WorkspaceJob → Prop
  /-- `try_schedule_capacity_retry` or `try_schedule_node_readiness_retry`. -/
  | waits {message code : String} {notBefore : Nat} :
      JobFate cfg clk j (requeueJob j message .capacity code notBefore)
  /-- `try_schedule_workspace_job_retry`. -/
  | retried {message code : String} {stage : FailureStage} {notBefore : Nat}
      (hremain : attemptsRemain cfg j = true) (hstage : stage ≠ .capacity) :
      JobFate cfg clk j (requeueJob j message stage code notBefore)
  | succeeded : JobFate cfg clk j (markJobSucceeded clk j)
  | failed {message : String} {stage : Option FailureStage} {code : Option String} :
      JobFate cfg clk j (markJobFailed clk j message stage code)

/-- The same for a function that may raise: then the row is as it was. -/
def Exit.Fate (cfg : Settings) (clk : Clock) (j : WorkspaceJob) : Exit → Prop
  | .returned s => JobFate cfg clk j s.job
  | .raised _ s => s.job = j
  | .crashed _ => True

section Fates

variable (cfg : Settings) (clk : Clock) (inp : WorkerInput)

theorem retryElse_fate {s terminal : Session} {retryable : Bool} {message code : String}
    {stage : FailureStage} (hstage : stage ≠ .capacity)
    (hterm : JobFate cfg clk s.job terminal.job) :
    JobFate cfg clk s.job (retryElse cfg clk s retryable message stage code terminal).job := by
  unfold retryElse tryScheduleWorkspaceJobRetry
  cases retryable with
  | false => exact hterm
  | true =>
      cases hremain : attemptsRemain cfg s.job with
      | true => exact .retried hremain hstage
      | false => exact hterm

theorem waitElse_fate {s terminal : Session} {message code reason : String}
    (hterm : JobFate cfg clk s.job terminal.job) :
    JobFate cfg clk s.job (waitElse cfg clk s message code reason terminal).job := by
  unfold waitElse tryScheduleCapacityClassRetry
  cases capacityWaitTimedOut cfg clk s.job with
  | true => exact hterm
  | false => exact .waits

theorem failJobFromPlacement_fate (s : Session) (e : PlacementError) :
    JobFate cfg inp.clk s.job (failJobFromPlacement cfg inp s e).job := by
  cases e with
  | noSchedulableNode m => exact waitElse_fate cfg inp.clk .failed
  | invalidPlacementParameters m => exact retryElse_fate cfg inp.clk (by decide) .failed
  | authoritativePlacement m => exact retryElse_fate cfg inp.clk (by decide) .failed

theorem waitForNodeReadiness_fate (s : Session) (k : Option String) (reason code : String) :
    JobFate cfg inp.clk s.job (waitForNodeReadiness cfg inp s k reason code).job := by
  have hjob := (markNodeNotReadyForRetry_neutral s k reason).2.2
  have h : JobFate cfg inp.clk (markNodeNotReadyForRetry s k reason).job
      (waitForNodeReadiness cfg inp s k reason code).job := waitElse_fate cfg inp.clk .failed
  rwa [hjob] at h

theorem failJobFromOrchestratorBinding_fate (s : Session) (m : String) :
    JobFate cfg inp.clk s.job (failJobFromOrchestratorBinding cfg inp s m).job := by
  unfold failJobFromOrchestratorBinding
  split
  · exact waitForNodeReadiness_fate cfg inp s _ m _
  · exact retryElse_fate cfg inp.clk (by decide) .failed

theorem resolveOrchestratorResultFailure_fate (s : Session) (m : String) (retryable : Bool) :
    JobFate cfg clk s.job (resolveOrchestratorResultFailure cfg clk s m .container retryable).job :=
  retryElse_fate cfg clk (by decide) .failed

theorem finalizeRuntimeRunningSuccess_fate (port : Option String → Option Nat) (s : Session)
    (f : RuntimeFacts) (configVersion : Int) :
    (finalizeRuntimeRunningSuccess cfg clk port s f configVersion).Fate cfg clk s.job := by
  unfold finalizeRuntimeRunningSuccess
  split
  · rfl
  · exact .succeeded

theorem finalizeBringupResult_fate (port : Option String → Option Nat) (s : Session)
    (res : WorkspaceBringUpResult) :
    (finalizeBringupResult cfg clk port s res).Fate cfg clk s.job := by
  unfold finalizeBringupResult
  split
  · exact finalizeRuntimeRunningSuccess_fate cfg clk port s _ _
  · have hjob := (syncRuntimeAfterFailedBringup_syncs s res).job
    rw [← hjob]
    exact resolveOrchestratorResultFailure_fate cfg clk _ _ _

theorem finalizeStopResult_fate (s : Session) (res : WorkspaceStopResult) :
    JobFate cfg clk s.job (finalizeStopResult cfg clk s res).job := by
  unfold finalizeStopResult
  split
  · exact .succeeded
  · have hjob := (ensureDurableCleanupTask_fields s .stopIncomplete).2.1
    rw [← hjob]
    exact resolveOrchestratorResultFailure_fate cfg clk _ _ _

theorem finalizeRestartResult_fate (port : Option String → Option Nat) (s : Session)
    (res : WorkspaceRestartResult) :
    (finalizeRestartResult cfg clk port s res).Fate cfg clk s.job := by
  unfold finalizeRestartResult
  split
  · exact finalizeRuntimeRunningSuccess_fate cfg clk port s _ _
  · exact resolveOrchestratorResultFailure_fate cfg clk _ _ _

theorem finalizeUpdateResult_fate (port : Option String → Option Nat) (s : Session)
    (res : WorkspaceUpdateResult) :
    (finalizeUpdateResult cfg clk port s res).Fate cfg clk s.job := by
  unfold finalizeUpdateResult
  simp only
  split
  · exact finalizeRuntimeRunningSuccess_fate cfg clk port s _ _
  · split
    · exact .succeeded
    · exact resolveOrchestratorResultFailure_fate cfg clk _ _ _

theorem executeBringUpJob_fate (s : Session) :
    (executeBringUpJob cfg inp s).Fate cfg inp.clk s.job := by
  unfold executeBringUpJob
  split
  · exact .failed
  · split
    · trivial
    · rfl
    · exact finalizeBringupResult_fate cfg inp.clk inp.port s _

theorem finishSnapshotCreate_fate (s : Session) (sid : Nat) (snap : WorkspaceSnapshot)
    (res : WorkspaceSnapshotOperationResult) (uploaded : Bool) :
    JobFate cfg inp.clk s.job (finishSnapshotCreate inp s sid snap res uploaded).job := by
  unfold finishSnapshotCreate
  split
  · split
    · exact .failed
    · exact .succeeded
  · exact .failed

theorem executeSnapshotCreateJob_fate (s : Session) :
    (executeSnapshotCreateJob inp s).Fate cfg inp.clk s.job := by
  unfold executeSnapshotCreateJob
  split
  · exact .failed
  · split
    · exact .failed
    · split
      · exact .failed
      · split
        · exact finishSnapshotCreate_fate cfg inp s _ _ _ _
        · split
          · trivial
          · rfl
          · exact finishSnapshotCreate_fate cfg inp s _ _ _ _

theorem executeSnapshotRestoreJob_fate (s : Session) :
    (executeSnapshotRestoreJob inp s).Fate cfg inp.clk s.job := by
  unfold executeSnapshotRestoreJob
  split
  · exact .failed
  · split
    · exact .failed
    · simp only
      split
      · exact .failed
      · split
        · exact .failed
        · split
          · exact .failed
          · split
            · trivial
            · rfl
            · split
              · exact .succeeded
              · exact .failed

theorem executeRepoImportJob_fate (s : Session) :
    (executeRepoImportJob inp s).Fate cfg inp.clk s.job := by
  unfold executeRepoImportJob
  split
  · exact .succeeded
  · trivial

/-! ## Reconcile -/

theorem classifyReconcileFailure_stage (m : String) :
    (classifyReconcileFailure m).1 ≠ .capacity := by
  unfold classifyReconcileFailure
  simp only
  split_ifs <;> simp

theorem failReconcile_fate (s : Session) (m : String) :
    JobFate cfg clk s.job (failReconcile cfg clk s m).job := by
  rw [failReconcile_eq]
  refine retryElse_fate cfg clk (classifyReconcileFailure_stage m) ?_
  split
  · exact .failed
  · exact .failed

variable (rin : ReconcileInput)

theorem reconcileOrphanRoute_fate (s : Session) :
    (reconcileOrphanRoute cfg clk rin s).Fate cfg clk s.job := by
  unfold reconcileOrphanRoute
  split
  · exact .succeeded
  · split
    · trivial
    · exact failReconcile_fate cfg clk s _
    · split
      · exact .succeeded
      · split
        · trivial
        · exact failReconcile_fate cfg clk s _
        · exact .succeeded

theorem reconcileErrorCleanup_fate (s : Session) :
    (reconcileErrorCleanup cfg clk rin s).Fate cfg clk s.job := by
  unfold reconcileErrorCleanup
  split
  · trivial
  · exact failReconcile_fate cfg clk s _
  · split
    · exact reconcileOrphanRoute_fate cfg clk rin _
    · exact reconcileOrphanRoute_fate cfg clk rin s

theorem reconcileStopped_fate (s : Session) :
    (reconcileStopped cfg clk rin s).Fate cfg clk s.job := by
  unfold reconcileStopped
  split
  · trivial
  · exact failReconcile_fate cfg clk s _
  · split
    · split
      · trivial
      · exact failReconcile_fate cfg clk s _
      · simp only
        split
        · trivial
        · exact finalizeStopResult_fate cfg clk s _
    · exact reconcileOrphanRoute_fate cfg clk rin s

theorem reconcileRunningRoute_fate (s : Session) (rt : WorkspaceRuntime) :
    (reconcileRunningRoute cfg clk rin s rt).Fate cfg clk s.job := by
  unfold reconcileRunningRoute
  simp only
  split
  · exact .succeeded
  · split
    · trivial
    · exact failReconcile_fate cfg clk s _
    · generalize gatewayRouteNeedsRepair _ _ _ _ = needsRepair
      cases needsRepair with
      | true =>
          rw [if_pos rfl]
          split
          · trivial
          · exact failReconcile_fate cfg clk s _
          · exact .succeeded
      | false => exact .succeeded

theorem Exit.Fate.of_job {j j' : WorkspaceJob} {ex : Exit} (h : ex.Fate cfg clk j) (hj : j = j') :
    ex.Fate cfg clk j' := hj ▸ h

theorem reconcileRunning_fate (s : Session) :
    (reconcileRunning cfg clk rin s).Fate cfg clk s.job := by
  unfold reconcileRunning
  split
  · trivial
  · exact failReconcile_fate cfg clk s _
  · split
    · exact failReconcile_fate cfg clk s _
    · split
      · rfl
      · exact (reconcileRunningRoute_fate cfg clk rin _ _).of_job cfg clk rfl

theorem executeReconcileRuntimeJob_fate (s : Session) :
    (executeReconcileRuntimeJob cfg clk rin s).Fate cfg clk s.job := by
  have hjob := (cleanupPass_cleaned rin s).job
  rw [executeReconcileRuntimeJob_eq]
  split
  · exact failReconcile_fate cfg clk s _
  · rw [← hjob]
    split
    · exact failReconcile_fate cfg clk _ _
    · split
      · exact reconcileOrphanRoute_fate cfg clk rin _
      · exact reconcileErrorCleanup_fate cfg clk rin _
      · exact reconcileStopped_fate cfg clk rin _
      · exact reconcileRunning_fate cfg clk rin _

/-! ## One execution -/

theorem executeJobBody_fate (s : Session) :
    (executeJobBody cfg inp s).Fate cfg inp.clk s.job := by
  unfold executeJobBody
  split
  · exact executeRepoImportJob_fate cfg inp s
  · exact executeBringUpJob_fate cfg inp s
  · exact executeBringUpJob_fate cfg inp s
  · split
    · trivial
    · rfl
    · exact finalizeStopResult_fate cfg inp.clk s _
  · split
    · trivial
    · rfl
    · exact .succeeded
  · split
    · trivial
    · rfl
    · exact finalizeRestartResult_fate cfg inp.clk inp.port s _
  · split
    · trivial
    · rfl
    · exact finalizeUpdateResult_fate cfg inp.clk inp.port s _
  · exact executeReconcileRuntimeJob_fate cfg inp.clk inp.reconcile s
  · exact executeSnapshotCreateJob_fate cfg inp s
  · exact executeSnapshotRestoreJob_fate cfg inp s

theorem settleSnapshotAfterException_job (s : Session) :
    (settleSnapshotAfterException s).job = s.job := by
  unfold settleSnapshotAfterException setSnapshot
  split
  · rfl
  · split
    · rfl
    · split
      · split <;> rfl
      · rfl

theorem handleOrchestratorException_fate (s : Session) (nodeKey : Option String)
    (e : OrchestratorException) :
    JobFate cfg inp.clk s.job (handleOrchestratorException cfg inp s nodeKey e).job := by
  have hjob := (syncAfterException_syncs s e).job
  rw [← hjob]
  unfold handleOrchestratorException
  simp only
  split
  · exact waitForNodeReadiness_fate cfg inp _ _ _ _
  · refine retryElse_fate cfg inp.clk (by split <;> decide) ?_
    split
    · rw [← settleSnapshotAfterException_job (syncAfterException s e)]
      exact .failed
    · exact .failed

theorem processClaimedRunningJob_fate {s : Session} (nodeKey : Option String)
    (hc : (processClaimedRunningJob cfg inp s nodeKey).committed = true) :
    JobFate cfg inp.clk s.job (processClaimedRunningJob cfg inp s nodeKey).session.job := by
  have hbody := executeJobBody_fate cfg inp s
  unfold processClaimedRunningJob at hc ⊢
  cases hex : executeJobBody cfg inp s with
  | returned s' => rw [hex] at hbody; exact hbody
  | raised e s' =>
      rw [hex] at hbody
      have h := handleOrchestratorException_fate cfg inp s' nodeKey e
      rwa [show s'.job = s.job from hbody] at h
  | crashed s' => rw [hex] at hc; cases hc

theorem beginCreateBringupAfterPlacement_job (s : Session) :
    (beginCreateBringupAfterPlacement s).job = s.job := by
  unfold beginCreateBringupAfterPlacement
  split <;> rfl

/-- **What a committed execution does to the row** of its job. -/
theorem executeClaimedJob_fate {entry : EntryPoint} {s : Session}
    (hc : (executeClaimedJob cfg inp entry s).committed = true) :
    JobFate cfg inp.clk s.job (executeClaimedJob cfg inp entry s).session.job := by
  unfold executeClaimedJob at hc ⊢
  split at hc
  · rename_i hdel
    rw [if_pos hdel]
    exact .succeeded
  · rename_i hdel
    rw [if_neg hdel]
    unfold placeAndProcess at hc ⊢
    cases hp : resolveOrchestratorPlacement cfg inp.placement s with
    | error e => exact failJobFromPlacement_fate cfg inp s e
    | ok p =>
        rw [hp] at hc
        simp only at hc ⊢
        by_cases hrepo : s.job.jobType = .repoImport
        · rw [if_pos hrepo] at hc ⊢
          exact processClaimedRunningJob_fate cfg inp none hc
        · rw [if_neg hrepo] at hc ⊢
          cases hb : inp.binding with
          | crashed => rw [hb] at hc; cases hc
          | failed m => exact failJobFromOrchestratorBinding_fate cfg inp s m
          | bound =>
              rw [hb] at hc
              have h := processClaimedRunningJob_fate cfg inp _ hc
              rwa [beginCreateBringupAfterPlacement_job] at h

end Fates

/-! ## How an execution ends -/

/-- How an execution ends, as far as the attempts of its job are concerned. -/
inductive ExecutionEnd where
  /-- One of the two capacity loops queued the job again. -/
  | waited
  /-- Committed, and not by way of a capacity loop. -/
  | reached
  /-- An exception that the worker does not catch: the session is rolled back. -/
  | crashed
  deriving DecidableEq, Repr

/-- The row a capacity loop leaves. -/
def isWaitingForCapacity (j : WorkspaceJob) : Bool :=
  j.status = .queued && j.failureStage = some FailureStage.capacity.value

def executionEnd (cfg : Settings) (entry : EntryPoint) (inp : WorkerInput) (s : Session) :
    ExecutionEnd :=
  if (executeClaimedJob cfg inp entry s).committed then
    if isWaitingForCapacity (executeClaimedJob cfg inp entry s).session.job then .waited
    else .reached
  else .crashed

/-- The job a step executes and how that ends. -/
def Step.ended (cfg : Settings) (db : Db) (st : Step) : Option (Nat × ExecutionEnd) :=
  (st.execution db).bind fun x =>
    (claimJob x.2.1 x.2.2 db).map fun s => (x.2.2, executionEnd cfg x.1 x.2.1 s)

/-- The executions of a run, in order. -/
def history (cfg : Settings) (db : Db) : List Step → List (Nat × ExecutionEnd)
  | [] => []
  | st :: steps => (st.ended cfg db).toList ++ history cfg (step cfg db st) steps

theorem history_append (cfg : Settings) (db : Db) (steps more : List Step) :
    history cfg db (steps ++ more)
      = history cfg db steps ++ history cfg (run (step cfg) db steps) more := by
  induction steps generalizing db with
  | nil => rfl
  | cons st steps ih => simp [history, ih]

/-- The executions of `jid` that were committed. -/
def committedOf (jid : Nat) (h : List (Nat × ExecutionEnd)) : Nat :=
  h.count (jid, .waited) + h.count (jid, .reached)

/-- The executions of `jid` that did not end in a capacity loop. -/
def reachedOf (jid : Nat) (h : List (Nat × ExecutionEnd)) : Nat :=
  h.count (jid, .reached) + h.count (jid, .crashed)

theorem committedOf_append (jid : Nat) (h h' : List (Nat × ExecutionEnd)) :
    committedOf jid (h ++ h') = committedOf jid h + committedOf jid h' := by
  simp only [committedOf, List.count_append]
  omega

/-! ## The counter counts the committed executions -/

theorem JobFate.budget {cfg : Settings} {clk : Clock} {j j' : WorkspaceJob}
    (h : JobFate cfg clk j j') :
    j'.attempt = j.attempt ∧ j'.maxAttempts = j.maxAttempts ∧ j'.createdAt = j.createdAt := by
  cases h with
  | waits => exact ⟨rfl, rfl, rfl⟩
  | retried _ _ => exact ⟨rfl, rfl, rfl⟩
  | succeeded => exact ⟨rfl, rfl, rfl⟩
  | failed => exact ⟨rfl, rfl, rfl⟩

/-- Every row counts the committed executions of its job. -/
def CountsExecutions (db : Db) (h : List (Nat × ExecutionEnd)) : Prop :=
  ∀ jid, ((db.jobs.lookup jid).map (·.attempt)).getD 0 = committedOf jid h

theorem claimJob_row {inp : WorkerInput} {jid : Nat} {db : Db} {s : Session}
    (h : claimJob inp jid db = some s) :
    ∃ job, db.jobs.lookup jid = some job ∧ s.job = markJobRunning inp.clk job
      ∧ queuedJobEligible inp.clk job = true := by
  unfold claimJob at h
  split at h
  · cases h
  · rename_i job hjob
    split at h
    · cases h
    · rename_i helig
      obtain ⟨ws, -, rfl⟩ := Option.map_eq_some_iff.mp h
      exact ⟨job, hjob, rfl, by simpa using helig⟩

/-- A request queues at most one job, with no attempts. -/
theorem IntentEffect.jobs {db db' : Db} (h : IntentEffect db db') :
    db'.jobs = db.jobs ∨ ∃ job, db'.jobs = db.jobs.insert (Table.freshKey db.jobs) job
      ∧ job.attempt = 0 := by
  cases h with
  | refused => exact .inl rfl
  | lifecycle _ _ _ _ _ _ hq => exact .inr ⟨_, rfl, hq.2⟩
  | created _ _ _ hq => exact .inr ⟨_, rfl, hq.2⟩
  | queued _ _ hq => exact .inr ⟨_, rfl, hq.2⟩

theorem CountsExecutions.intent {db db' : Db} {h : List (Nat × ExecutionEnd)}
    (hc : CountsExecutions db h) (heff : IntentEffect db db') : CountsExecutions db' h := by
  rcases heff.jobs with hjobs | ⟨job, hjobs, hnew⟩
  · intro jid
    rw [hjobs]
    exact hc jid
  · intro jid
    rw [hjobs, Table.lookup_insert_eq, ← hc jid]
    split
    · rename_i hjid
      subst hjid
      simp [hnew]
    · rfl

/-- What an execution adds to the count of a job. -/
theorem committedOf_executionEnd (cfg : Settings) (entry : EntryPoint) (inp : WorkerInput)
    (s : Session) (jid jid' : Nat) :
    committedOf jid' [(jid, executionEnd cfg entry inp s)]
      = if jid' = jid ∧ (executeClaimedJob cfg inp entry s).committed = true then 1 else 0 := by
  unfold executionEnd
  by_cases hj : jid' = jid
  · subst hj
    cases (executeClaimedJob cfg inp entry s).committed with
    | false => simp [committedOf]
    | true =>
        cases isWaitingForCapacity (executeClaimedJob cfg inp entry s).session.job <;>
          simp [committedOf]
  · have hj' : ¬ jid = jid' := fun h => hj h.symm
    simp [committedOf, hj, hj']

theorem CountsExecutions.step {cfg : Settings} {db : Db} {h : List (Nat × ExecutionEnd)}
    (hwf : WellFormed db) (hc : CountsExecutions db h) (st : Step) :
    CountsExecutions (step cfg db st) (h ++ (st.ended cfg db).toList) := by
  have heff := step_effect cfg hwf st
  generalize Devnest.step cfg db st = db' at heff
  cases heff with
  | intent heff hex =>
      simpa [Step.ended, hex] using hc.intent heff
  | drained heff hex =>
      intro jid
      simpa [Step.ended, hex, heff.jobs] using hc jid
  | @executed entry inp jid hex heff =>
      cases heff with
      | idle hs => simpa [Step.ended, hex, hs] using hc
      | orphan _ hjob hws _ =>
          have hsome := hwf.owned hjob
          rw [hws] at hsome
          cases hsome
      | @committed s hs hcom hend =>
          obtain ⟨job, hjob, hrow, -⟩ := claimJob_row hs
          have hattempt := (executeClaimedJob_fate cfg inp hcom).budget.1
          intro jid'
          rw [Step.ended, hex, Option.bind_some, hs, Option.map_some, Option.toList_some,
            committedOf_append, committedOf_executionEnd, hcom, commit_jobs,
            Table.lookup_insert_eq, ← hc jid']
          by_cases hj : jid' = jid
          · subst hj
            simp only [if_true, Option.map_some, Option.getD_some, and_self, hjob, hattempt, hrow]
            rfl
          · simp [hj]
      | @rolledBack s t hs hcom _ =>
          intro jid'
          rw [Step.ended, hex, Option.bind_some, hs, Option.map_some, Option.toList_some,
            committedOf_append, committedOf_executionEnd, hcom]
          simpa using hc jid'

theorem countsExecutions_run (cfg : Settings) (nodes : Table Nat ExecutionNode)
    (topologies : List Int) (steps : List Step) :
    CountsExecutions (run (step cfg) (initDb nodes topologies) steps)
      (history cfg (initDb nodes topologies) steps) := by
  -- on the last step, so that the history grows at its end
  induction steps using List.reverseRecOn with
  | nil => intro jid; simp [initDb, history, committedOf]
  | append_singleton steps st ih =>
      have hwf : WellFormed (run (step cfg) (initDb nodes topologies) steps) :=
        Reachable.invariant ⟨steps, rfl⟩ (wellFormed_initDb nodes topologies)
          fun _ st h => wellFormed_step cfg h st
      rw [run_append, history_append]
      simpa [history] using ih.step hwf st

/-! ## The budget of the bring-ups -/

/-- The orchestrator fails in a way that may be tried again: it raises an exception that is
no matter of node readiness, or answers with a result that is retried. -/
def RetryableFailure (cfg : Settings) (inp : WorkerInput) (s : Session) : Prop :=
  (∃ e t, executeJobBody cfg inp s = .raised e t ∧
    orchestratorExceptionRetryable s.job.jobType = true ∧ e.isStopOrDelete = false ∧
    (nodeReadinessRetryAllowed s.job.jobType && isNodeReadinessError (exceptionMessage e)) = false) ∨
  (∃ t m, t.job = s.job ∧ executeJobBody cfg inp s
    = .returned (resolveOrchestratorResultFailure cfg inp.clk t m .container true)) ∨
  ∃ t m, t.job = s.job ∧ (classifyReconcileFailure m).2 = true ∧
    executeJobBody cfg inp s = .returned (failReconcile cfg inp.clk t m)

/-- Where a retryable failure leads: another attempt while attempts remain, else `FAILED`. -/
theorem retryElse_failed_iff {cfg : Settings} {clk : Clock} {s terminal : Session}
    {message code : String} {stage : FailureStage} (hterm : terminal.job.status = .failed) :
    (retryElse cfg clk s true message stage code terminal).job.status = .failed
      ↔ attemptsRemain cfg s.job = false := by
  unfold retryElse tryScheduleWorkspaceJobRetry
  cases attemptsRemain cfg s.job with
  | true => simp [requeueJob]
  | false => simpa using hterm

theorem resolveOrchestratorResultFailure_failed_iff (cfg : Settings) (clk : Clock) (s : Session)
    (m : String) :
    (resolveOrchestratorResultFailure cfg clk s m .container true).job.status = .failed
      ↔ attemptsRemain cfg s.job = false := by
  have hterm : (finalizeJobFailedWorkspaceError clk s m .container).job.status = .failed := rfl
  unfold resolveOrchestratorResultFailure
  exact retryElse_failed_iff hterm

theorem attemptsRemain_congr (cfg : Settings) {j j' : WorkspaceJob} (h : j' = j) :
    attemptsRemain cfg j' = attemptsRemain cfg j := by rw [h]

theorem failReconcile_failed_iff (cfg : Settings) (clk : Clock) (s : Session) {m : String}
    (hretry : (classifyReconcileFailure m).2 = true) :
    (failReconcile cfg clk s m).job.status = .failed ↔ attemptsRemain cfg s.job = false := by
  rw [failReconcile_eq, hretry]
  refine retryElse_failed_iff ?_
  split <;> rfl

theorem processClaimedRunningJob_failed_iff {cfg : Settings} {inp : WorkerInput} {s : Session}
    (nodeKey : Option String) (h : RetryableFailure cfg inp s) :
    (processClaimedRunningJob cfg inp s nodeKey).session.job.status = .failed
      ↔ attemptsRemain cfg s.job = false := by
  unfold processClaimedRunningJob
  rcases h with ⟨e, t, hex, hretry, hkind, hready⟩ | ⟨t, m, hjob, hex⟩ | ⟨t, m, hjob, hretry, hex⟩
  · have hjob : t.job = s.job := by
      have hfate := executeJobBody_fate cfg inp s
      rwa [hex] at hfate
    have hsync := (syncAfterException_syncs t e).job.trans hjob
    rw [hex]
    simp only [handleOrchestratorException, hsync, hretry, hkind, hready, Bool.false_eq_true,
      if_false, Bool.not_false, Bool.and_self]
    rw [retryElse_failed_iff (by split <;> rfl), attemptsRemain_congr cfg hsync]
  · rw [hex, ← attemptsRemain_congr cfg hjob]
    exact resolveOrchestratorResultFailure_failed_iff cfg inp.clk t m
  · simp only [hex]
    rw [← attemptsRemain_congr cfg hjob]
    exact failReconcile_failed_iff cfg inp.clk t hretry

/-- **Waits against the budget.** After any run, a retryable failure of the orchestrator
that is not tried again has `effective_max_attempts - 1` executions before it that did not
end in a wait exactly when the committed executions, waits included, leave the budget open
or those without the waits exhaust it. -/
theorem retry_refused_iff (cfg : Settings) (nodes : Table Nat ExecutionNode)
    (topologies : List Int) (steps : List Step) {entry : EntryPoint} {inp : WorkerInput}
    {jid : Nat} {s : Session} (t : Session) (nodeKey : Option String)
    (hs : claimJob inp jid (run (step cfg) (initDb nodes topologies) steps) = some s)
    (ht : t.job = s.job)
    (hreach : executeClaimedJob cfg inp entry s = processClaimedRunningJob cfg inp t nodeKey)
    (hfail : RetryableFailure cfg inp t) :
    ((executeClaimedJob cfg inp entry s).session.job.status = .failed →
        effectiveMaxAttempts cfg s.job - 1
          ≤ reachedOf jid (history cfg (initDb nodes topologies) steps)) ↔
      (committedOf jid (history cfg (initDb nodes topologies) steps) + 1
          < effectiveMaxAttempts cfg s.job ∨
        effectiveMaxAttempts cfg s.job
          ≤ reachedOf jid (history cfg (initDb nodes topologies) steps) + 1) := by
  obtain ⟨job, hjob, hrow, -⟩ := claimJob_row hs
  have hcount := countsExecutions_run cfg nodes topologies steps jid
  rw [hjob] at hcount
  have hattempt : s.job.attempt
      = committedOf jid (history cfg (initDb nodes topologies) steps) + 1 := by
    rw [hrow, ← hcount]
    rfl
  rw [hreach, processClaimedRunningJob_failed_iff nodeKey hfail, attemptsRemain_congr cfg ht]
  simp only [attemptsRemain, hattempt, decide_eq_false_iff_not, not_lt]
  push_cast
  omega

/-- A job that never waited has its whole budget. -/
theorem budget_open_without_waits {jid : Nat} {h : List (Nat × ExecutionEnd)}
    (hnone : h.count (jid, .waited) = 0) (n : Int) :
    committedOf jid h + 1 < n ∨ n ≤ reachedOf jid h + 1 := by
  simp only [committedOf, reachedOf, hnone]
  omega

/-- A bring-up that fails. -/
def failingWorker (now : Nat) : WorkerInput :=
  sampleWorker now { bringUpWorkspaceRuntime := .returned { success := false } }

/-- No node takes the workspace. -/
def fullWorker (now : Nat) : WorkerInput :=
  { sampleWorker now sampleOrch with placement := { schedule := .noNode "no node" } }

/-- A workspace is created and its job has one execution. -/
def oneExecution (first : WorkerInput) : List Step :=
  [.createWorkspace { now := 0 } 7 "a" {}, .processNextQueuedJob first 1]

/-- Two bring-ups fail: the second is the last attempt, and one was made before it. -/
theorem second_failure_within_budget : ∃ s,
    claimJob (failingWorker 100) 1 (run (step {}) sampleDb (oneExecution (failingWorker 1))) = some s ∧
    ((executeClaimedJob {} (failingWorker 100) .runPendingJobs s).session.job.status = .failed →
      effectiveMaxAttempts {} s.job - 1
        ≤ reachedOf 1 (history {} sampleDb (oneExecution (failingWorker 1)))) := by
  have hbudget : ∀ s, claimJob (failingWorker 100) 1
      (run (step {}) sampleDb (oneExecution (failingWorker 1))) = some s →
      RetryableFailure {} (failingWorker 100) (beginCreateBringupAfterPlacement s) →
      executeClaimedJob {} (failingWorker 100) .runPendingJobs s = processClaimedRunningJob {}
        (failingWorker 100) (beginCreateBringupAfterPlacement s) (some "node-1") →
      (executeClaimedJob {} (failingWorker 100) .runPendingJobs s).session.job.status = .failed →
      effectiveMaxAttempts {} s.job - 1
        ≤ reachedOf 1 (history {} sampleDb (oneExecution (failingWorker 1))) := by
    intro s hs hfail hreach
    refine (retry_refused_iff {} (AList.insert 1 sampleNode ∅) [1] _ _ _ hs
      (beginCreateBringupAfterPlacement_job s) hreach hfail).mpr ?_
    exact budget_open_without_waits (by decide +kernel) _
  exact ⟨_, rfl, hbudget _ rfl (.inr (.inl ⟨_, _, rfl, rfl⟩)) rfl⟩

/-- No node takes the workspace at first; the first bring-up fails and is the last attempt,
although none was made before it. -/
theorem wait_uses_up_attempt : ∃ s,
    claimJob (failingWorker 100) 1 (run (step {}) sampleDb (oneExecution (fullWorker 1))) = some s ∧
    RetryableFailure {} (failingWorker 100) (beginCreateBringupAfterPlacement s) ∧
    capacityWaitTimedOut {} (failingWorker 100).clk s.job = false ∧
    (executeClaimedJob {} (failingWorker 100) .runPendingJobs s).session.job.status = .failed ∧
    ¬ effectiveMaxAttempts {} s.job - 1
      ≤ reachedOf 1 (history {} sampleDb (oneExecution (fullWorker 1))) := by
  refine ⟨_, rfl, .inr (.inl ⟨_, _, ?_, rfl⟩), ?_, ?_, ?_⟩
  · rfl
  · decide +kernel
  · decide +kernel
  · decide +kernel

end Devnest
