import Devnest.Steps

/-!
# DELETED is absorbing

A deleted workspace accepts two kinds of requests: another `DELETE`, and
the requests that only queue a job. None of them takes it out of
`DELETED` and `DELETING`; what does is the execution of a job that fails
on its way to the orchestrator, because the runtime row is gone and the
failure path writes `ERROR` whatever the job's type.

`KeepsDeleted` lists the executions that leave the workspace deleted.
-/

namespace Devnest

open Runs

def WorkspaceStatus.isGone (st : WorkspaceStatus) : Bool := st = .deleted || st = .deleting

/-- The workspace is `DELETED`, or `DELETING` once more. -/
def Gone (w : Nat) (db : Db) : Prop :=
  ∃ ws, db.workspaces.lookup w = some ws ∧ ws.status.isGone = true

/-! ## Executions -/

/-- The executions on a deleted workspace that leave it so: a `DELETE` that finds no runtime
row in `run_pending_jobs`, or reaches an orchestrator that answers; and a job of another
type, unless it fails for good before the orchestrator runs or reconciles while another
`DELETE` is queued. Other lifecycle jobs do not. -/
def KeepsDeleted (cfg : Settings) (entry : EntryPoint) (inp : WorkerInput) (s : Session) : Prop :=
  if s.job.jobType = .delete then
    (entry = .runPendingJobs ∧ s.rt = none) ∨
      EarlyFailuresRetry cfg inp s (∀ m, inp.orch.deleteWorkspaceRuntime ≠ .raised m)
  else s.job.jobType.isLifecycle = false ∧
    EarlyFailuresRetry cfg inp s (s.job.jobType = .reconcileRuntime → s.ws.status = .deleting →
      inp.lockAcquired = false ∧ attemptsRemain cfg s.job = true)

section Executions

variable (cfg : Settings) (inp : WorkerInput) {s : Session}

/-- The body keeps the status and raises nothing. -/
def OnlyKeeps (s : Session) : Exit → Prop
  | .returned s' => Keeps s s'
  | .raised _ _ => False
  | .crashed _ => True

/-- A reconcile of a `DELETED` workspace fails alone. -/
theorem executeReconcileRuntimeJob_deleted (clk : Clock) (inp : ReconcileInput)
    (hdel : s.ws.status = .deleted) :
    OnlyKeeps s (executeReconcileRuntimeJob cfg clk inp s) := by
  have hset : s.ws.status.isSettled = true := by rw [hdel]; rfl
  have hidle : ¬ s.ws.status.isBusy = true := by rw [hdel]; simp [WorkspaceStatus.isBusy]
  rw [executeReconcileRuntimeJob_eq, if_neg hidle]
  split
  · exact failReconcile_settled cfg clk hset _
  · simp only [hdel]
    have hroute := reconcileOrphanRoute_spec cfg clk inp (cleanupPass inp s)
    unfold reconcileDeleted
    generalize reconcileOrphanRoute cfg clk inp (cleanupPass inp s) = ex at hroute
    cases ex with
    | returned s' => exact hroute.2.2 hset
    | raised e s' => exact hroute
    | crashed s' => exact trivial

theorem reconcile_staysGone (hjt : s.job.jobType = .reconcileRuntime)
    (hdel : s.ws.status = .deleted) (nodeKey : Option String) :
    Stays WorkspaceStatus.isGone (processClaimedRunningJob cfg inp s nodeKey) := by
  have hbody := executeReconcileRuntimeJob_deleted cfg inp.clk inp.reconcile hdel
  unfold processClaimedRunningJob
  rw [show executeJobBody cfg inp s = executeReconcileRuntimeJob cfg inp.clk inp.reconcile s by
    simp only [executeJobBody, hjt]]
  generalize executeReconcileRuntimeJob cfg inp.clk inp.reconcile s = ex at hbody
  cases ex with
  | returned s' => exact fun _ => by rw [hbody.2, hdel]; rfl
  | raised e s' => exact hbody.elim
  | crashed s' => exact fun h => by cases h

/-- A `DELETE` that reaches the orchestrator ends `DELETED` unless the orchestrator raises. -/
theorem delete_staysGone_iff (hjt : s.job.jobType = .delete) (nodeKey : Option String) :
    Stays WorkspaceStatus.isGone (processClaimedRunningJob cfg inp s nodeKey) ↔
      ∀ m, inp.orch.deleteWorkspaceRuntime ≠ .raised m := by
  unfold processClaimedRunningJob executeJobBody
  simp only [hjt]
  cases inp.orch.deleteWorkspaceRuntime with
  | crashed => simp [Stays]
  | returned res => simp [Stays, finalizeDeleteResult, WorkspaceStatus.isGone]
  | raised m =>
      simp [Stays, handleOrchestratorException, syncAfterException, hjt, nodeReadinessRetryAllowed,
        orchestratorExceptionRetryable, retryElse, WorkspaceJobType.isSnapshot, failJobTerminal,
        workspaceError, WorkspaceStatus.isGone]

theorem aux_staysGone_iff (hjt : s.job.jobType.isLifecycle = false)
    (hg : s.ws.status.isGone = true) (nodeKey : Option String) :
    Stays WorkspaceStatus.isGone (processClaimedRunningJob cfg inp s nodeKey) ↔
      (s.job.jobType = .reconcileRuntime → s.ws.status = .deleting →
        inp.lockAcquired = false ∧ attemptsRemain cfg s.job = true) := by
  by_cases hrec : s.job.jobType = .reconcileRuntime
  · by_cases hdel : s.ws.status = .deleting
    · have hb : s.ws.status.isBusy = true := by rw [hdel]; rfl
      simpa [hrec, hdel] using reconcile_stays_iff cfg inp hrec hb hg rfl nodeKey
    · have hd : s.ws.status = .deleted := by simpa [WorkspaceStatus.isGone, hdel] using hg
      simpa [hdel] using reconcile_staysGone cfg inp hrec hd nodeKey
  · simpa [hrec] using processClaimedRunningJob_stays cfg inp hjt hrec hg nodeKey

/-- **Exactly when** a `DELETE` or a job of another type leaves a deleted workspace
deleted. -/
theorem executeClaimedJob_staysGone_iff (entry : EntryPoint) (hg : s.ws.status.isGone = true)
    (hjt : s.job.jobType = .delete ∨ s.job.jobType.isLifecycle = false) :
    Stays WorkspaceStatus.isGone (executeClaimedJob cfg inp entry s) ↔
      KeepsDeleted cfg entry inp s := by
  unfold KeepsDeleted
  by_cases hdel : s.job.jobType = .delete
  · rw [if_pos hdel]
    by_cases hshort : entry = .runPendingJobs ∧ s.rt = none
    · simp [hshort, executeClaimedJob, hdel, Stays, finalizeDeleteRuntimeMissingIdempotent,
        WorkspaceStatus.isGone]
    · have hexec : executeClaimedJob cfg inp entry s = placeAndProcess cfg inp s := by
        simpa [executeClaimedJob, hdel] using fun h₁ h₂ => absurd ⟨h₁, h₂⟩ hshort
      rw [hexec, or_iff_right hshort]
      exact placeAndProcess_stays_iff cfg inp (by simp [hdel]) (by simp [hdel]) (by rw [hdel]; rfl) hg
        rfl fun _ nodeKey => delete_staysGone_iff cfg inp hdel nodeKey
  · have hjt := hjt.resolve_left hdel
    have hcre : s.job.jobType ≠ .create := by rintro h; rw [h] at hjt; cases hjt
    have hsta : s.job.jobType ≠ .start := by rintro h; rw [h] at hjt; cases hjt
    rw [if_neg hdel, executeClaimedJob_eq cfg inp entry hdel, and_iff_right hjt]
    exact placeAndProcess_stays_iff cfg inp hcre hsta (nodeReadinessRetryAllowed_aux hjt) hg rfl
      fun _ nodeKey => aux_staysGone_iff cfg inp hjt hg nodeKey

end Executions

/-! ## Requests -/

section Requests

variable {db db' : Db} {inp : IntentInput} {w owner user : Nat}

/-- An owner's request that asks for neither a busy nor a deleted workspace. -/
theorem Gone.refused (hg : Gone w db) {ws : Workspace} {u : Unit}
    (hown : getOwnedWorkspace db w owner false = .ok ws) (hb : requireNotBusy ws = .ok u) :
    False := by
  obtain ⟨ws', hws', hst⟩ := hg
  obtain ⟨hws, hnd⟩ := getOwnedWorkspace_ok hown
  obtain rfl : ws = ws' := Option.some.inj (hws.symm.trans hws')
  have hidle := requireNotBusy_ok hb
  cases h : ws.status <;> simp_all [WorkspaceStatus.isGone, WorkspaceStatus.isBusy]

theorem Gone.start_refused (hg : Gone w db) : requestStartWorkspace db inp w owner user ≠ .ok db' := by
  intro h
  obtain ⟨ws, hown, h⟩ := bind_eq_ok.mp h
  obtain ⟨_, hb, -⟩ := bind_eq_ok.mp h
  exact hg.refused hown hb

theorem Gone.restart_refused (hg : Gone w db) :
    requestRestartWorkspace db inp w owner user ≠ .ok db' := by
  intro h
  obtain ⟨ws, hown, h⟩ := bind_eq_ok.mp h
  obtain ⟨_, hb, -⟩ := bind_eq_ok.mp h
  exact hg.refused hown hb

theorem Gone.update_refused (hg : Gone w db) {config : WorkspaceConfig} :
    requestUpdateWorkspace db inp w owner user config ≠ .ok db' := by
  intro h
  obtain ⟨ws, hown, h⟩ := bind_eq_ok.mp h
  obtain ⟨_, hb, -⟩ := bind_eq_ok.mp h
  exact hg.refused hown hb

end Requests

/-! ## Steps -/

theorem IntentEffect.gone {db db' : Db} (h : IntentEffect db db') {w : Nat} (hg : Gone w db) :
    Gone w db' := by
  obtain ⟨ws, hws, hst⟩ := hg
  cases h with
  | refused => exact ⟨ws, hws, hst⟩
  | @lifecycle wid ws' st job configs hws' hidle _ hdel _ _ _ =>
      by_cases hw : w = wid
      · subst hw
        obtain rfl : ws = ws' := Option.some.inj (hws.symm.trans hws')
        have hd : ws.status = .deleted := by
          cases h : ws.status <;> simp_all [WorkspaceStatus.isGone, WorkspaceStatus.isBusy]
        exact ⟨{ ws with status := st }, by simp [Db.queueJob], by rw [hdel hd]; rfl⟩
      · exact ⟨ws, by simpa [Db.queueJob, hw] using hws, hst⟩
  | created _ _ _ _ =>
      exact ⟨ws, by simpa [Db.queueJob, Table.ne_freshKey hws] using hws, hst⟩
  | queued _ _ _ => exact ⟨ws, hws, hst⟩

/-- The condition on one execution: those on `w` keep it deleted. -/
def KeepsDeletedAt (cfg : Settings) (w : Nat) (entry : EntryPoint) (inp : WorkerInput)
    (s : Session) : Prop := s.wid = w → KeepsDeleted cfg entry inp s

theorem KeepsDeleted.job {cfg : Settings} {entry : EntryPoint} {inp : WorkerInput} {s : Session}
    (h : KeepsDeleted cfg entry inp s) :
    s.job.jobType = .delete ∨ s.job.jobType.isLifecycle = false := by
  unfold KeepsDeleted at h
  split at h
  · rename_i hdel; exact .inl hdel
  · exact .inr h.1

theorem step_gone (cfg : Settings) {db : Db} (hwf : WellFormed db) {w : Nat} (hg : Gone w db)
    {st : Step} (hst : OnExecution (KeepsDeletedAt cfg w) db st) : Gone w (step cfg db st) := by
  have h := step_effect cfg hwf st
  generalize step cfg db st = db' at h
  cases h with
  | intent h _ => exact h.gone hg
  | @executed entry inp jid hex h =>
      cases h with
      | idle _ => exact hg
      | orphan _ _ _ _ => exact hg
      | @committed s hs hc hend =>
          have hcl := claimJob_claimed hs
          obtain ⟨ws, hws, hgone⟩ := hg
          by_cases hw : w = s.wid
          · subst hw
            obtain rfl : s.ws = ws := Option.some.inj (hcl.ws.symm.trans hws)
            have hkeep : KeepsDeleted cfg entry inp s := hst _ hex s hs rfl
            refine ⟨_, by rw [commit_workspaces_lookup, hend.target.1, if_pos rfl], ?_⟩
            exact (executeClaimedJob_staysGone_iff cfg inp entry hgone hkeep.job).mpr hkeep hc
          · exact ⟨ws, by rw [commit_workspaces_lookup, hend.target.1, if_neg hw]; exact hws, hgone⟩
      | rolledBack _ _ _ => exact hg
  | drained h _ =>
      obtain ⟨ws, hws, hgone⟩ := hg
      exact ⟨ws, by rw [h.workspaces]; exact hws, hgone⟩

/-! ## Runs -/

/-- **DELETED is absorbing** as long as the executions on the workspace keep it deleted, and
then no `START`, `RESTART` or `UPDATE` of it is ever accepted. -/
theorem deleted_absorbing {cfg : Settings} {nodes : Table Nat ExecutionNode}
    {topologies : List Int} {before after : List Step} {w : Nat} {ws : Workspace}
    (hws : (run (step cfg) (initDb nodes topologies) before).workspaces.lookup w = some ws)
    (hdel : ws.status = .deleted)
    (h : Along (step cfg) (OnExecution (KeepsDeletedAt cfg w))
      (run (step cfg) (initDb nodes topologies) before) after) :
    ∃ ws', (run (step cfg) (initDb nodes topologies) (before ++ after)).workspaces.lookup w =
        some ws' ∧ (ws'.status = .deleted ∨ ws'.status = .deleting) ∧
      ∀ inp owner user config db',
        requestStartWorkspace (run (step cfg) (initDb nodes topologies) (before ++ after))
          inp w owner user ≠ .ok db' ∧
        requestRestartWorkspace (run (step cfg) (initDb nodes topologies) (before ++ after))
          inp w owner user ≠ .ok db' ∧
        requestUpdateWorkspace (run (step cfg) (initDb nodes topologies) (before ++ after))
          inp w owner user config ≠ .ok db' := by
  have hwf : WellFormed (run (step cfg) (initDb nodes topologies) before) :=
    Reachable.invariant ⟨before, rfl⟩ (wellFormed_initDb nodes topologies)
      fun _ st h => wellFormed_step cfg h st
  have hinv := run_of_along (Q := fun db => WellFormed db ∧ Gone w db)
    ⟨hwf, ws, hws, by rw [hdel]; rfl⟩
    (fun db st ⟨hwf, hg⟩ hst => ⟨wellFormed_step cfg hwf st, step_gone cfg hwf hg hst⟩) h
  rw [run_append]
  obtain ⟨ws', hws', hst⟩ := hinv.2
  refine ⟨ws', hws', by simpa [WorkspaceStatus.isGone] using hst, fun inp owner user config db' => ?_⟩
  exact ⟨hinv.2.start_refused, hinv.2.restart_refused, hinv.2.update_refused⟩

def deleteOrch : OrchestratorService :=
  { sampleOrch with deleteWorkspaceRuntime := .returned { success := true } }

/-- Create, bring up, delete. -/
def deleteRun : List Step :=
  [.createWorkspace { now := 0 } 7 "a" {},
   .processNextQueuedJob (sampleWorker 1 deleteOrch) 1,
   .requestDeleteWorkspace { now := 2 } 1 7 7,
   .processNextQueuedJob (sampleWorker 3 deleteOrch) 2]

/-- Delete the deleted workspace once more. -/
def deleteAgain : List Step :=
  [.requestDeleteWorkspace { now := 4 } 1 7 7,
   .processNextQueuedJob (sampleWorker 5 deleteOrch) 3]

/-- The second `DELETE` finds no runtime row and ends at once. -/
theorem deleteAgain_absorbed :
    Along (step {}) (OnExecution (KeepsDeletedAt {} 1)) (run (step {}) sampleDb deleteRun)
      deleteAgain ∧
    ∃ ws, (run (step {}) sampleDb (deleteRun ++ deleteAgain)).workspaces.lookup 1 = some ws ∧
      (ws.status = .deleted ∨ ws.status = .deleting) := by
  have hcheck : Along (step {}) (fun db st => st.claimPasses (fun entry s =>
        entry = .runPendingJobs && s.job.jobType = .delete && s.rt.isNone) db = true)
      (run (step {}) sampleDb deleteRun) deleteAgain := by decide +kernel
  have halong : Along (step {}) (OnExecution (KeepsDeletedAt {} 1))
      (run (step {}) sampleDb deleteRun) deleteAgain := by
    refine hcheck.mono (OnExecution.of_claimPasses fun entry inp s h _ => ?_)
    simp only [Bool.and_eq_true, decide_eq_true_eq, Option.isNone_iff_eq_none] at h
    unfold KeepsDeleted
    rw [if_pos h.1.2]
    exact .inl ⟨h.1.1, h.2⟩
  have hdel : ((run (step {}) sampleDb deleteRun).workspaces.lookup 1).map (·.status) =
      some .deleted := by decide
  obtain ⟨ws, hws, hst⟩ := Option.map_eq_some_iff.mp hdel
  obtain ⟨ws', hws', hst', -⟩ := deleted_absorbing hws hst halong
  exact ⟨halong, ws', hws', hst'⟩

/-- A reconcile of the deleted workspace, tried twice. -/
def reconcileDeletedRun : List Step :=
  [.enqueueReconcileRuntimeJob { now := 4 } 1,
   .processNextQueuedJob (sampleWorker 5 deleteOrch) 3,
   .processNextQueuedJob (sampleWorker 60 deleteOrch) 3]

/-- Without a runtime row there is no placement, and the second failure writes `ERROR`. -/
theorem reconcile_undeletes :
    placementStrictEnforced {} = true ∧
      ¬ ∀ before after w ws ws',
        (run (step {}) sampleDb before).workspaces.lookup w = some ws → ws.status = .deleted →
        (run (step {}) sampleDb (before ++ after)).workspaces.lookup w = some ws' →
        ws'.status = .deleted ∨ ws'.status = .deleting := by
  refine ⟨rfl, fun h => ?_⟩
  have hdel : ((run (step {}) sampleDb deleteRun).workspaces.lookup 1).map (·.status) =
      some .deleted := by decide
  have herr : ((run (step {}) sampleDb (deleteRun ++ reconcileDeletedRun)).workspaces.lookup 1).map
      (·.status) = some .error := by decide
  obtain ⟨ws, hws, hst⟩ := Option.map_eq_some_iff.mp hdel
  obtain ⟨ws', hws', hst'⟩ := Option.map_eq_some_iff.mp herr
  have hbad := h deleteRun reconcileDeletedRun 1 ws ws' hws hst hws'
  rw [hst'] at hbad
  simp at hbad

end Devnest
