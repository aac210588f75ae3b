import Devnest.Steps

/-!
# Which incomplete teardowns leave a cleanup task

The orchestrator can report that something of a container is left: a
bring-up whose rollback failed (on its own or inside a restart or an
update), a stop or a delete that did not finish. The worker records the
debt on two of these paths only, and `ensure_durable_cleanup_task` does
not reopen a row that once `SUCCEEDED`.

`pending_after_iff` says exactly when a `PENDING` row is there afterwards,
for every contents of the tables.
-/

namespace Devnest

/-! ## Incomplete teardowns -/

/-- A bring-up that failed and whose rollback failed, by result or by exception. -/
def rollbackFailed : Outcome WorkspaceBringUpError WorkspaceBringUpResult → Bool
  | .returned res => !res.success && res.rollbackAttempted && res.rollbackSucceeded == some false
  | .raised e => e.rollbackAttempted && e.rollbackSucceeded == some false
  | .crashed => false

def stopIncomplete : Outcome String WorkspaceStopResult → Bool
  | .returned res => !res.success
  | .raised _ | .crashed => false

/-- The container stayed, or the topology was not detached. -/
def deleteIncomplete : Outcome String WorkspaceDeleteResult → Bool
  | .returned res => res.containerDeleted == some false || res.topologyDetached == some false
  | .raised _ | .crashed => false

/-- A restart whose stop did not finish, or whose bring-up could not be rolled back. -/
def restartIncomplete (stop : Outcome String WorkspaceStopResult)
    (bringUp : Outcome WorkspaceBringUpError WorkspaceBringUpResult) : Prop :=
  stopIncomplete stop = true ∨
    ((∃ res, stop = .returned res ∧ res.success = true) ∧ rollbackFailed bringUp = true)

/-- The orchestrator reports an incomplete teardown to a job of this type. Restart and
update report what their stop and bring-up came to. -/
inductive ReportsIncomplete (orch : OrchestratorService) : WorkspaceJobType → Prop
  | create (h : rollbackFailed orch.bringUpWorkspaceRuntime = true) : ReportsIncomplete orch .create
  | start (h : rollbackFailed orch.bringUpWorkspaceRuntime = true) : ReportsIncomplete orch .start
  | stop (h : stopIncomplete orch.stopWorkspaceRuntime = true) : ReportsIncomplete orch .stop
  | delete (h : deleteIncomplete orch.deleteWorkspaceRuntime = true) : ReportsIncomplete orch .delete
  | restart {nid : String} {tid : Int} {stop : Outcome String WorkspaceStopResult}
      {bringUp : Outcome WorkspaceBringUpError WorkspaceBringUpResult}
      (hres : orch.restartWorkspaceRuntime = Devnest.restartWorkspaceRuntime nid tid stop bringUp)
      (h : restartIncomplete stop bringUp) : ReportsIncomplete orch .restart
  | update {strict : Bool} {nid : String} {tid : Int} {cid : Option String} {ref : String}
      {requested : Int} {ins : ContainerInspection} {probe : Except String HealthProbe}
      {stop : Outcome String WorkspaceStopResult}
      {bringUp : Outcome WorkspaceBringUpError WorkspaceBringUpResult}
      (hres : orch.updateWorkspaceRuntime = Devnest.updateWorkspaceRuntime strict nid tid cid ref
        requested (.ok ins) probe stop bringUp)
      (hreq : 0 ≤ requested) (hcid : strict = true → PyText.stripOr cid ≠ "")
      (hver : configVersionFromInspection ins ≠ requested) (h : restartIncomplete stop bringUp) :
      ReportsIncomplete orch .update

theorem ReportsIncomplete.isLifecycle {orch : OrchestratorService} {jt : WorkspaceJobType}
    (h : ReportsIncomplete orch jt) : jt.isLifecycle = true := by
  cases h <;> rfl

/-- A composed restart that is incomplete returns a failure. -/
theorem restartWorkspaceRuntime_incomplete {nid : String} {tid : Int}
    {stop : Outcome String WorkspaceStopResult}
    {bringUp : Outcome WorkspaceBringUpError WorkspaceBringUpResult}
    (h : restartIncomplete stop bringUp) :
    ∃ res, restartWorkspaceRuntime nid tid stop bringUp = .returned res ∧ res.success = false := by
  rcases h with hstop | ⟨⟨res, rfl, hsucc⟩, hup⟩
  · cases stop with
    | returned res =>
        have hsucc : res.success = false := by simpa [stopIncomplete] using hstop
        refine ⟨failedRestart nid tid res false res.issues, ?_, rfl⟩
        simp only [restartWorkspaceRuntime, hsucc, Bool.not_false, if_true]
    | raised m => cases hstop
    | crashed => cases hstop
  · cases bringUp with
    | returned up =>
        have hfail : up.success = false := by
          simp only [rollbackFailed, Bool.and_eq_true, Bool.not_eq_true'] at hup
          exact hup.1.1
        exact ⟨_, by simp [restartWorkspaceRuntime, hsucc]; rfl, hfail⟩
    | raised e => exact ⟨_, by simp [restartWorkspaceRuntime, hsucc]; rfl, rfl⟩
    | crashed => cases hup

theorem updateWorkspaceRuntime_incomplete {strict : Bool} {nid : String} {tid : Int}
    {cid : Option String} {ref : String} {requested : Int} {ins : ContainerInspection}
    {probe : Except String HealthProbe} {stop : Outcome String WorkspaceStopResult}
    {bringUp : Outcome WorkspaceBringUpError WorkspaceBringUpResult} (hreq : 0 ≤ requested)
    (hcid : strict = true → PyText.stripOr cid ≠ "")
    (hver : configVersionFromInspection ins ≠ requested) (h : restartIncomplete stop bringUp) :
    ∃ res, updateWorkspaceRuntime strict nid tid cid ref requested (.ok ins) probe stop bringUp =
      .returned res ∧ res.success = false ∧ res.noOp = false := by
  obtain ⟨r, hr, hfail⟩ := @restartWorkspaceRuntime_incomplete nid tid stop bringUp h
  have hneg : ¬ requested < 0 := by omega
  have hstrict : ¬ (strict && PyText.stripOr cid = "") = true := by
    simp only [Bool.and_eq_true, decide_eq_true_eq, not_and]
    exact hcid
  simp only [updateWorkspaceRuntime, if_neg hneg, if_neg hstrict, if_neg hver, hr]
  exact ⟨_, rfl, hfail, rfl⟩

/-! ## What is recorded -/

/-- The row of a scope may be set `PENDING`: it never `SUCCEEDED`. -/
def reopens (tasks : CleanupTasks) (sc : CleanupScope) : Prop :=
  ∀ task, tasks.get sc = some task → task.status ≠ .succeeded

/-- The execution records an incomplete teardown: a bring-up of a workspace with a runtime
row, or a stop, and the row of its scope can be set. -/
def RecordsDebt (s : Session) : Prop :=
  match s.job.jobType with
  | .create | .start => s.rt.isSome = true ∧ reopens s.tasks .bringupRollback
  | .stop => reopens s.tasks .stopIncomplete
  | _ => False

theorem anyPending_iff (tasks : CleanupTasks) :
    tasks.anyPending = true ↔ ∃ sc, tasks.isPending sc = true := by
  simp only [CleanupTasks.anyPending, Bool.or_eq_true]
  constructor
  · rintro (h | h)
    · exact ⟨_, h⟩
    · exact ⟨_, h⟩
  · rintro ⟨sc, h⟩
    cases sc
    · exact .inl h
    · exact .inr h

theorem Ensures.anyPending_iff {sc : CleanupScope} {s s' : Session} (h : Ensures sc s s') :
    s'.tasks.anyPending = true ↔ s.tasks.anyPending = true ∨ reopens s.tasks sc := by
  rcases h with ⟨⟨ht, -⟩, task, hget, hsucc⟩ | ⟨hre, ⟨task, hset, hp⟩, -⟩
  · have hno : ¬ reopens s.tasks sc := fun h => h task hget hsucc
    simp [ht, hno]
  · have hany : s'.tasks.anyPending = true := by
      rw [Devnest.anyPending_iff]
      exact ⟨sc, by rw [hset, isPending_set, if_pos rfl, hp]; rfl⟩
    simp [hany, show reopens s.tasks sc from hre]

/-- A sync after a failed rollback records the debt of an existing row. -/
theorem syncCleanupRequired_pending_iff {s : Session} {r : WorkspaceRuntime} :
    (syncCleanupRequired s r).tasks.anyPending = true ↔
      s.tasks.anyPending = true ∨ reopens s.tasks .bringupRollback :=
  (ensureDurableCleanupTask_ensures
    { s with rt := some { r with healthStatus := .cleanupRequired } } .bringupRollback).anyPending_iff

theorem syncRuntimeAfterFailedBringup_pending_iff {s : Session} {res : WorkspaceBringUpResult}
    (h : rollbackFailed (.returned res) = true) :
    (syncRuntimeAfterFailedBringup s res).tasks.anyPending = true ↔
      s.tasks.anyPending = true ∨ (s.rt.isSome = true ∧ reopens s.tasks .bringupRollback) := by
  simp only [rollbackFailed, Bool.and_eq_true, Bool.not_eq_true', beq_iff_eq] at h
  unfold syncRuntimeAfterFailedBringup
  cases hrt : s.rt with
  | none => simp [h.1.2]
  | some r => simpa [h.1.2, h.2] using syncCleanupRequired_pending_iff

theorem syncAfterException_pending_iff {s : Session} {e : WorkspaceBringUpError}
    (h : rollbackFailed (.raised e) = true) :
    (syncAfterException s (.bringUp e)).tasks.anyPending = true ↔
      s.tasks.anyPending = true ∨ (s.rt.isSome = true ∧ reopens s.tasks .bringupRollback) := by
  simp only [rollbackFailed, Bool.and_eq_true, beq_iff_eq] at h
  simp only [syncAfterException, syncRuntimeAfterBringupException]
  cases hrt : s.rt with
  | none => simp [h.1]
  | some r => simpa [h.1, h.2] using syncCleanupRequired_pending_iff

/-! ## Executions -/

/-- The execution gets to call the orchestrator. -/
def CallsOrchestrator (cfg : Settings) (entry : EntryPoint) (inp : WorkerInput) (s : Session) :
    Prop :=
  ¬ (entry = .runPendingJobs ∧ s.job.jobType = .delete ∧ s.rt = none) ∧
    (resolveOrchestratorPlacement cfg inp.placement s).isOk = true ∧ inp.binding = .bound ∧
    (s.job.jobType = .create ∨ s.job.jobType = .start →
      runtimeOverridesError (s.config.getD {}) = none)

instance (cfg : Settings) (entry : EntryPoint) (inp : WorkerInput) (s : Session) :
    Decidable (CallsOrchestrator cfg entry inp s) :=
  inferInstanceAs (Decidable (_ ∧ _ ∧ _ ∧ _))

section Executions

variable {cfg : Settings} {inp : WorkerInput}

/-- The rows the statement looks at, after the job's body. -/
def PendingSpec (s : Session) (ex : Execution) : Prop :=
  ex.committed = true ∧
    (ex.session.tasks.anyPending = true ↔ s.tasks.anyPending = true ∨ RecordsDebt s)

theorem pendingSpec_of_tasks {s : Session} {ex : Execution} (hc : ex.committed = true)
    (ht : ex.session.tasks = s.tasks) (hno : ¬ RecordsDebt s) : PendingSpec s ex :=
  ⟨hc, by simp [ht, hno]⟩

theorem bringUp_pendingSpec {s : Session} {nodeKey : Option String}
    (hjt : s.job.jobType = .create ∨ s.job.jobType = .start)
    (hlimits : runtimeOverridesError (s.config.getD {}) = none)
    (h : rollbackFailed inp.orch.bringUpWorkspaceRuntime = true) :
    PendingSpec s (processClaimedRunningJob cfg inp s nodeKey) := by
  have hbody : executeJobBody cfg inp s = executeBringUpJob cfg inp s := by
    rcases hjt with hjt | hjt <;> simp only [executeJobBody, hjt]
  have hdebt : RecordsDebt s ↔ s.rt.isSome = true ∧ reopens s.tasks .bringupRollback := by
    unfold RecordsDebt
    rcases hjt with hjt | hjt <;> rw [hjt]
  unfold processClaimedRunningJob
  rw [hbody]
  unfold executeBringUpJob
  simp only [hlimits]
  cases hup : inp.orch.bringUpWorkspaceRuntime with
  | crashed => rw [hup] at h; cases h
  | raised e =>
      rw [hup] at h
      obtain ⟨hn, -⟩ := handleOrchestratorException_spec cfg inp s nodeKey (.bringUp e)
      refine ⟨rfl, ?_⟩
      rw [hdebt, ← syncAfterException_pending_iff h, hn.tasks]
  | returned res =>
      rw [hup] at h
      have hfail : res.success = false := by
        simp only [rollbackFailed, Bool.and_eq_true, Bool.not_eq_true'] at h
        exact h.1.1
      simp only [finalizeBringupResult, hfail, Bool.false_eq_true, if_false]
      refine ⟨rfl, ?_⟩
      rw [hdebt, ← syncRuntimeAfterFailedBringup_pending_iff h]
      obtain ⟨hn, -⟩ := resolveOrchestratorResultFailure_fails cfg inp.clk
        (syncRuntimeAfterFailedBringup s res) _ .container
        (lifecycleResultFailureRetryable (syncRuntimeAfterFailedBringup s res).job.jobType)
      rw [hn.tasks]

theorem stop_pendingSpec {s : Session} {nodeKey : Option String} (hjt : s.job.jobType = .stop)
    (h : stopIncomplete inp.orch.stopWorkspaceRuntime = true) :
    PendingSpec s (processClaimedRunningJob cfg inp s nodeKey) := by
  have hdebt : RecordsDebt s ↔ reopens s.tasks .stopIncomplete := by rw [RecordsDebt, hjt]
  unfold processClaimedRunningJob executeJobBody
  simp only [hjt]
  cases hst : inp.orch.stopWorkspaceRuntime with
  | crashed => rw [hst] at h; cases h
  | raised m => rw [hst] at h; cases h
  | returned res =>
      rw [hst] at h
      have hfail : res.success = false := by simpa [stopIncomplete] using h
      refine ⟨rfl, ?_⟩
      rw [hdebt, ← (ensureDurableCleanupTask_ensures s .stopIncomplete).anyPending_iff]
      simp only [finalizeStopResult, hfail, Bool.false_eq_true, if_false]
      obtain ⟨hn, -⟩ := resolveOrchestratorResultFailure_fails cfg inp.clk
        (ensureDurableCleanupTask s .stopIncomplete)
        (orText (formatIssues res.issues) "Stop completed without success") .container false
      rw [hn.tasks]

theorem delete_pendingSpec {s : Session} {nodeKey : Option String} (hjt : s.job.jobType = .delete)
    (h : deleteIncomplete inp.orch.deleteWorkspaceRuntime = true) :
    PendingSpec s (processClaimedRunningJob cfg inp s nodeKey) := by
  have hno : ¬ RecordsDebt s := by simp [RecordsDebt, hjt]
  unfold processClaimedRunningJob executeJobBody
  simp only [hjt]
  cases hd : inp.orch.deleteWorkspaceRuntime with
  | crashed => rw [hd] at h; cases h
  | raised m => rw [hd] at h; cases h
  | returned res => exact pendingSpec_of_tasks rfl rfl hno

theorem restart_pendingSpec {s : Session} {nodeKey : Option String} {res : WorkspaceRestartResult}
    (hjt : s.job.jobType = .restart) (hres : inp.orch.restartWorkspaceRuntime = .returned res)
    (hfail : res.success = false) : PendingSpec s (processClaimedRunningJob cfg inp s nodeKey) := by
  have hno : ¬ RecordsDebt s := by simp [RecordsDebt, hjt]
  unfold processClaimedRunningJob executeJobBody
  simp only [hjt, hres, finalizeRestartResult, hfail, Bool.false_eq_true, if_false]
  exact pendingSpec_of_tasks rfl
    (resolveOrchestratorResultFailure_fails cfg inp.clk s _ .container _).1.tasks hno

theorem update_pendingSpec {s : Session} {nodeKey : Option String} {res : WorkspaceUpdateResult}
    (hjt : s.job.jobType = .update) (hres : inp.orch.updateWorkspaceRuntime = .returned res)
    (hfail : res.success = false) (hnoop : res.noOp = false) :
    PendingSpec s (processClaimedRunningJob cfg inp s nodeKey) := by
  have hno : ¬ RecordsDebt s := by simp [RecordsDebt, hjt]
  unfold processClaimedRunningJob executeJobBody
  simp only [hjt, hres, finalizeUpdateResult, hfail, hnoop, Bool.false_eq_true, if_false,
    Bool.false_and]
  exact pendingSpec_of_tasks rfl
    (resolveOrchestratorResultFailure_fails cfg inp.clk s _ .container _).1.tasks hno

theorem processClaimedRunningJob_pendingSpec {s : Session} {nodeKey : Option String}
    (hlimits : s.job.jobType = .create ∨ s.job.jobType = .start →
      runtimeOverridesError (s.config.getD {}) = none)
    (h : ReportsIncomplete inp.orch s.job.jobType) :
    PendingSpec s (processClaimedRunningJob cfg inp s nodeKey) := by
  generalize hjt : s.job.jobType = jt at h
  cases h with
  | create h => exact bringUp_pendingSpec (.inl hjt) (hlimits (.inl hjt)) h
  | start h => exact bringUp_pendingSpec (.inr hjt) (hlimits (.inr hjt)) h
  | stop h => exact stop_pendingSpec hjt h
  | delete h => exact delete_pendingSpec hjt h
  | @restart nid tid stop bringUp hres h =>
      obtain ⟨res, hr, hfail⟩ := @restartWorkspaceRuntime_incomplete nid tid stop bringUp h
      exact restart_pendingSpec hjt (hres.trans hr) hfail
  | update hres hreq hcid hver h =>
      obtain ⟨res, hr, hfail, hnoop⟩ := updateWorkspaceRuntime_incomplete hreq hcid hver h
      exact update_pendingSpec hjt (hres.trans hr) hfail hnoop

theorem executeClaimedJob_pendingSpec {entry : EntryPoint} {s : Session}
    (hcall : CallsOrchestrator cfg entry inp s) (h : ReportsIncomplete inp.orch s.job.jobType) :
    PendingSpec s (executeClaimedJob cfg inp entry s) := by
  obtain ⟨hshort, hplaced, hbound, hlimits⟩ := hcall
  have hne : ¬ (entry = .runPendingJobs && s.job.jobType = .delete && s.rt.isNone) = true := by
    simpa [and_assoc] using hshort
  have hrepo : s.job.jobType ≠ .repoImport := by rintro hjt; rw [hjt] at h; cases h
  unfold executeClaimedJob
  rw [if_neg hne]
  unfold placeAndProcess
  cases hp : resolveOrchestratorPlacement cfg inp.placement s with
  | error e => rw [hp] at hplaced; cases hplaced
  | ok p =>
      simp only [if_neg hrepo, hbound]
      have hb := (beginCreate_fields s).1
      have hspec : PendingSpec (beginCreateBringupAfterPlacement s) (processClaimedRunningJob cfg inp
          (beginCreateBringupAfterPlacement s) (some p.1)) :=
        processClaimedRunningJob_pendingSpec (by rw [hb]; exact hlimits) (by rw [hb]; exact h)
      have hdebt : RecordsDebt (beginCreateBringupAfterPlacement s) ↔ RecordsDebt s := by
        rw [hb]; exact Iff.rfl
      unfold PendingSpec at hspec ⊢
      rw [hdebt, show (beginCreateBringupAfterPlacement s).tasks = s.tasks by rw [hb]] at hspec
      exact hspec

end Executions

/-- **Exactly when the debt is recorded**: after an execution to which the orchestrator
reported an incomplete teardown, a row of the workspace is `PENDING` just in case one was
before or this execution records it. -/
theorem pending_after_iff {cfg : Settings} {entry : EntryPoint} {inp : WorkerInput} {jid : Nat}
    {db : Db} {s : Session} (hs : claimJob inp jid db = some s)
    (hcall : CallsOrchestrator cfg entry inp s) (h : ReportsIncomplete inp.orch s.job.jobType) :
    ((runJob cfg entry inp jid db).tasksOf s.wid).anyPending = true ↔
      (db.tasksOf s.wid).anyPending = true ∨ RecordsDebt s := by
  obtain ⟨hc, hiff⟩ := executeClaimedJob_pendingSpec hcall h
  have hw : (executeClaimedJob cfg inp entry s).session.wid = s.wid :=
    ((executeClaimedJob_lifecycle cfg inp h.isLifecycle hc).target inp).1
  rw [runJob_of_claim hs, if_pos hc, commit_tasksOf, hw, if_pos rfl, hiff, (claimJob_claimed hs).tasks]

/-! ## The first bring-up, and an unfinished stop -/

/-- A workspace whose `CREATE` is queued. -/
def createdDb : Db := step {} sampleDb (.createWorkspace { now := 0 } 7 "a" {})

/-- The first `CREATE` has no runtime row yet, so a failed rollback leaves no trace. -/
theorem first_create_loses_debt :
    ¬ ∀ cfg entry inp jid db s, claimJob inp jid db = some s →
      CallsOrchestrator cfg entry inp s → ReportsIncomplete inp.orch s.job.jobType →
      ((runJob cfg entry inp jid db).tasksOf s.wid).anyPending = true := by
  intro h
  have hsome : (claimJob (sampleWorker 1 failedRollbackOrch) 1 createdDb).isSome = true := by decide
  have hall : (claimJob (sampleWorker 1 failedRollbackOrch) 1 createdDb).all (fun s =>
      decide (CallsOrchestrator {} .runPendingJobs (sampleWorker 1 failedRollbackOrch) s) &&
        s.job.jobType = .create && s.wid = 1) = true := by decide
  have hnone : ((runJob {} .runPendingJobs (sampleWorker 1 failedRollbackOrch) 1
      createdDb).tasksOf 1).anyPending = false := by decide
  obtain ⟨s, hs⟩ := Option.isSome_iff_exists.mp hsome
  have hs' := Option.all_eq_true _ _ |>.mp hall s hs
  simp only [Bool.and_eq_true, decide_eq_true_eq] at hs'
  have hbad := h {} .runPendingJobs _ 1 createdDb s hs hs'.1.1 (by rw [hs'.1.2]; exact .create rfl)
  rw [hs'.2, hnone] at hbad
  cases hbad

/-- A running workspace whose `STOP` is queued. -/
def stoppingDb : Db :=
  Runs.run (step {}) createdDb
    [.processNextQueuedJob (sampleWorker 1 sampleOrch) 1, .requestStopWorkspace { now := 2 } 1 7 7]

def unfinishedStopOrch : OrchestratorService :=
  { stopWorkspaceRuntime := .returned { success := false } }

theorem unfinished_stop_is_recorded :
    ((runJob {} .runPendingJobs (sampleWorker 3 unfinishedStopOrch) 2 stoppingDb).tasksOf 1).anyPending =
      true := by
  have hsome : (claimJob (sampleWorker 3 unfinishedStopOrch) 2 stoppingDb).isSome = true := by
    decide
  have hall : (claimJob (sampleWorker 3 unfinishedStopOrch) 2 stoppingDb).all (fun s =>
      decide (CallsOrchestrator {} .runPendingJobs (sampleWorker 3 unfinishedStopOrch) s) &&
        s.job.jobType = .stop && s.wid = 1 && (s.tasks.get .stopIncomplete).isNone) = true := by
    decide
  obtain ⟨s, hs⟩ := Option.isSome_iff_exists.mp hsome
  have hs' := Option.all_eq_true _ _ |>.mp hall s hs
  simp only [Bool.and_eq_true, decide_eq_true_eq, Option.isNone_iff_eq_none] at hs'
  have hiff := pending_after_iff hs hs'.1.1.1 (by rw [hs'.1.1.2]; exact .stop rfl)
  rw [hs'.1.2] at hiff
  refine hiff.mpr (.inr ?_)
  rw [RecordsDebt, hs'.1.1.2]
  exact fun task hget => by rw [hs'.2] at hget; cases hget

end Devnest
