import Devnest.Steps

/-!
# Snapshot and import jobs beside the lifecycle

`SNAPSHOT_CREATE`, `SNAPSHOT_RESTORE` and `REPO_IMPORT` work for a
workspace without owning its status. Their own bodies never write it, and
neither does the reclaim of a stuck one. Before the body, though, such a
job passes through `_fail_job_from_placement` and
`_fail_job_from_orchestrator_binding`, whose terminal ends were written
for lifecycle jobs: when the last attempt ends there, the workspace goes
to `ERROR` whatever it was doing.
-/

namespace Devnest

/-- The job types that leave the lifecycle alone. -/
def WorkspaceJobType.isAuxiliary : WorkspaceJobType → Bool
  | snapshotCreate | snapshotRestore | repoImport => true
  | create | start | stop | restart | delete | update | reconcileRuntime => false

theorem not_isLifecycle_of_isAuxiliary {jt : WorkspaceJobType} (h : jt.isAuxiliary = true) :
    jt.isLifecycle = false := by
  cases jt <;> first | rfl | cases h

/-- No workspace has another status. -/
def StatusesKept (db db' : Db) : Prop :=
  ∀ w, (db'.workspaces.lookup w).map (·.status) = (db.workspaces.lookup w).map (·.status)

theorem StatusesKept.refl (db : Db) : StatusesKept db db := fun _ => rfl

section Auxiliary

variable (cfg : Settings) (inp : WorkerInput)

/-- The job ends before its body: no placement, or no orchestrator. -/
def failsEarly (s : Session) : Bool :=
  match resolveOrchestratorPlacement cfg inp.placement s with
  | .error _ => true
  | .ok _ =>
      if s.job.jobType = .repoImport then false
      else match inp.binding with
        | .failed _ => true
        | .bound | .crashed => false

theorem earlyFailuresRetry_iff (s : Session) :
    EarlyFailuresRetry cfg inp s True ↔
      (failsEarly cfg inp s = true → attemptsRemain cfg s.job = true) := by
  unfold EarlyFailuresRetry failsEarly
  cases resolveOrchestratorPlacement cfg inp.placement s with
  | error e => simp
  | ok p =>
      by_cases hrepo : s.job.jobType = .repoImport
      · simp [hrepo]
      · simp only [if_neg hrepo]
        cases inp.binding <;> simp

/-- **One execution**: the status the job meets survives exactly when an early failure still has
an attempt left, or when there is nothing to spoil. -/
theorem executeClaimedJob_status_iff {s : Session} (entry : EntryPoint)
    (hjt : s.job.jobType.isAuxiliary = true) :
    ((executeClaimedJob cfg inp entry s).committed = true →
        (executeClaimedJob cfg inp entry s).session.ws.status = s.ws.status) ↔
      (failsEarly cfg inp s = true → attemptsRemain cfg s.job = true ∨ s.ws.status = .error) := by
  have haux := not_isLifecycle_of_isAuxiliary hjt
  by_cases herr : s.ws.status = .error
  · refine ⟨fun _ _ => .inr herr, fun _ hc => ?_⟩
    rcases ((executeClaimedJob_aux cfg inp entry haux).1 hc).status with hk | hs
    · exact hk.2
    · rw [hs.2, herr]
  · have hdel : s.job.jobType ≠ .delete := by rintro h; rw [h] at hjt; cases hjt
    have hcre : s.job.jobType ≠ .create := by rintro h; rw [h] at hjt; cases hjt
    have hsta : s.job.jobType ≠ .start := by rintro h; rw [h] at hjt; cases hjt
    have hrec : s.job.jobType ≠ .reconcileRuntime := by rintro h; rw [h] at hjt; cases hjt
    let G : WorkspaceStatus → Bool := fun st => decide (st = s.ws.status)
    have hG : G s.ws.status = true := decide_eq_true rfl
    have hGerr : G .error = false := decide_eq_false fun h => herr h.symm
    have hstays := placeAndProcess_stays_iff cfg inp hcre hsta
      (nodeReadinessRetryAllowed_aux haux) hG hGerr
      fun _ nodeKey => iff_true_intro (processClaimedRunningJob_stays cfg inp haux hrec hG nodeKey)
    rw [executeClaimedJob_eq cfg inp entry hdel]
    simp only [herr, or_false, ← earlyFailuresRetry_iff, ← hstays, Stays, G, decide_eq_true_eq]

/-- Reclaiming a stuck job of these types touches the job row alone. -/
theorem reclaimJob_statusesKept {clk : Clock} {db : Db} {jid : Nat} {job : WorkspaceJob}
    (hjob : db.jobs.lookup jid = some job) (hjt : job.jobType.isAuxiliary = true) :
    StatusesKept db (reclaimJob cfg clk db jid) := by
  unfold reclaimJob
  simp only [hjob, not_isLifecycle_of_isAuxiliary hjt]
  split
  · exact .refl db
  · split
    · rename_i hlife; cases hlife
    · exact .refl db

/-- What the commit or the rollback of an execution does to the statuses. -/
theorem runJob_statusesKept_iff {entry : EntryPoint} {jid : Nat} {db : Db} {s : Session}
    (hs : claimJob inp jid db = some s)
    (hwid : (executeClaimedJob cfg inp entry s).committed = true →
      (executeClaimedJob cfg inp entry s).session.wid = s.wid) :
    StatusesKept db (runJob cfg entry inp jid db) ↔
      ((executeClaimedJob cfg inp entry s).committed = true →
        (executeClaimedJob cfg inp entry s).session.ws.status = s.ws.status) := by
  have hws := (claimJob_claimed hs).ws
  rw [runJob_of_claim hs]
  cases hc : (executeClaimedJob cfg inp entry s).committed with
  | false => exact ⟨fun _ h => by simp at h, fun _ w => rfl⟩
  | true =>
      have hw := hwid hc
      simp only [if_true, true_implies]
      constructor
      · intro h
        simpa [hw, hws] using h s.wid
      · intro h w
        rw [commit_workspaces_lookup, hw]
        by_cases hsw : w = s.wid
        · subst hsw
          simp [hws, h]
        · rw [if_neg hsw]

/-- Nothing to claim: the statuses stay. -/
theorem runJob_statusesKept_of_no_claim {entry : EntryPoint} {jid : Nat} {db : Db}
    (hs : claimJob inp jid db = none) : StatusesKept db (runJob cfg entry inp jid db) := by
  have heff := runJob_effect cfg entry inp jid db
  generalize runJob cfg entry inp jid db = db' at heff
  cases heff with
  | idle _ => exact .refl db
  | orphan _ _ _ _ => exact .refl db
  | committed hs' _ _ => rw [hs] at hs'; cases hs'
  | rolledBack hs' _ _ => rw [hs] at hs'; cases hs'

/-- **Snapshot and import jobs leave every status alone**, run through either entry point or
reclaimed, exactly when no execution of theirs ends its last attempt before the body on a
workspace that is not in `ERROR`. -/
theorem auxiliary_job_keeps_statuses_iff {entry : EntryPoint} {clk : Clock} {jid : Nat} {db : Db}
    {job : WorkspaceJob} (hjob : db.jobs.lookup jid = some job)
    (hjt : job.jobType.isAuxiliary = true) :
    (StatusesKept db (runJob cfg entry inp jid db) ∧ StatusesKept db (reclaimJob cfg clk db jid)) ↔
      ∀ s ∈ claimJob inp jid db, failsEarly cfg inp s = true →
        attemptsRemain cfg s.job = true ∨ s.ws.status = .error := by
  rw [and_iff_left (reclaimJob_statusesKept cfg hjob hjt)]
  cases hs : claimJob inp jid db with
  | none =>
      exact ⟨fun _ s hs' => by simp at hs', fun _ => runJob_statusesKept_of_no_claim cfg inp hs⟩
  | some s =>
      have hsjt : s.job.jobType.isAuxiliary = true := by
        obtain ⟨j, hj, hsame, -⟩ := (claimJob_claimed hs).job
        rw [hjob] at hj
        obtain rfl := Option.some.inj hj
        rw [hsame.2]
        exact hjt
      have hwid : (executeClaimedJob cfg inp entry s).committed = true →
          (executeClaimedJob cfg inp entry s).session.wid = s.wid := fun hc =>
        ((executeClaimedJob_aux cfg inp entry (not_isLifecycle_of_isAuxiliary hsjt)).1 hc).target.1
      rw [runJob_statusesKept_iff cfg inp hs hwid, executeClaimedJob_status_iff cfg inp entry hsjt]
      constructor
      · intro h s' hs'
        obtain rfl := Option.some.inj hs'
        exact h
      · exact fun h => h s rfl

end Auxiliary

/-- A running workspace with a snapshot requested; one attempt has been made. -/
def snapshotQueuedDb (attempt : Nat) : Db :=
  { sampleDb with
    workspaces := AList.insert 1 { ownerUserId := 7, status := .running } ∅
    runtimes := AList.insert 1 { nodeId := some "node-1", topologyId := some 1 } ∅
    snapshots := AList.insert 1 { workspaceId := 1 } ∅
    jobs := AList.insert 1 { workspaceId := 1, workspaceSnapshotId := some 1,
                             jobType := .snapshotCreate, requestedByUserId := 7,
                             requestedConfigVersion := 1, attempt := attempt, createdAt := 10 } ∅ }

/-- A worker that cannot reach its node. -/
def unreachableWorker : WorkerInput :=
  { sampleWorker 20 {} with binding := .failed "ssh: connection refused" }

theorem first_failed_snapshot_attempt_keeps_running :
    StatusesKept (snapshotQueuedDb 0)
        (runJob {} .runPendingJobs unreachableWorker 1 (snapshotQueuedDb 0)) ∧
      StatusesKept (snapshotQueuedDb 0) (reclaimJob {} { now := 900 } (snapshotQueuedDb 0) 1) :=
  (auxiliary_job_keeps_statuses_iff {} unreachableWorker rfl rfl).mpr
    fun s hs _ => by
      obtain rfl := Option.some.inj hs
      exact .inl (by decide +kernel)

/-- The second attempt is the last one, and takes the running workspace to `ERROR`. -/
theorem failed_snapshot_stops_running :
    ¬ ∀ (cfg : Settings) (inp : WorkerInput) (entry : EntryPoint) (clk : Clock) (jid : Nat) (db : Db)
        (job : WorkspaceJob), db.jobs.lookup jid = some job → job.jobType.isAuxiliary = true →
      StatusesKept db (runJob cfg entry inp jid db) ∧
        StatusesKept db (reclaimJob cfg clk db jid) := by
  intro h
  have hkept := (h {} unreachableWorker .runPendingJobs { now := 900 } 1 (snapshotQueuedDb 1) _
    rfl rfl).1 1
  revert hkept
  decide +kernel

end Devnest
