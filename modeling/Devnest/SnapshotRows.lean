import Devnest.AuxiliaryJobs
import Devnest.WorkerDeaths

/-!
# Snapshot rows and the jobs that settle them

`create_snapshot` writes a `CREATING` row and `restore_snapshot` moves one to
`RESTORING`, each together with the job that will settle it. The job's own
body settles the row on every path, and so does the exception handler. The
two handlers of an early failure know nothing of snapshots: a job they fail
for good leaves its row behind.

`SnapshotInv` ties every open snapshot job to its row and every row in a
transitional status to an open job.
-/

namespace Devnest

open Runs

/-! ## Executions that leave the snapshot table alone -/

/-- The exit leaves the snapshot table as `s` had it; an exception leaves the job, too. -/
def Exit.KeepsSnapshots (s : Session) : Exit → Prop
  | .returned s' => s'.snapshots = s.snapshots
  | .raised _ s' => s'.snapshots = s.snapshots ∧ s'.job = s.job
  | .crashed _ => True

theorem Exit.KeepsSnapshots.trans {s t : Session} {ex : Exit} (h : ex.KeepsSnapshots t)
    (ht : t.snapshots = s.snapshots) (hjob : t.job = s.job) : ex.KeepsSnapshots s := by
  cases ex with
  | returned s' => exact Eq.trans h ht
  | raised e s' => exact ⟨h.1.trans ht, h.2.trans hjob⟩
  | crashed s' => trivial

section Keeps

variable (cfg : Settings) (clk : Clock) (inp : WorkerInput)

theorem retryElse_snapshots {s terminal : Session} {retryable : Bool} {m : String}
    {stage : FailureStage} {code : String} (ht : terminal.snapshots = s.snapshots) :
    (retryElse cfg clk s retryable m stage code terminal).snapshots = s.snapshots :=
  retryElse_elim (P := fun s' => s'.snapshots = s.snapshots) cfg clk (fun _ _ _ => rfl) ht

theorem waitElse_snapshots {s terminal : Session} {m code reason : String}
    (ht : terminal.snapshots = s.snapshots) :
    (waitElse cfg clk s m code reason terminal).snapshots = s.snapshots :=
  waitElse_elim (P := fun s' => s'.snapshots = s.snapshots) cfg clk (fun _ _ _ => rfl) ht

theorem failJobFromPlacement_snapshots (s : Session) (e : PlacementError) :
    (failJobFromPlacement cfg inp s e).snapshots = s.snapshots := by
  cases e with
  | noSchedulableNode m => exact waitElse_snapshots cfg inp.clk rfl
  | invalidPlacementParameters m | authoritativePlacement m =>
      exact retryElse_snapshots cfg inp.clk rfl

theorem markNodeNotReadyForRetry_snapshots (s : Session) (k : Option String) (r : String) :
    (markNodeNotReadyForRetry s k r).snapshots = s.snapshots := by
  unfold markNodeNotReadyForRetry
  split
  · rfl
  · split
    · rfl
    · split <;> rfl

theorem waitForNodeReadiness_snapshots (s : Session) (k : Option String) (r code : String) :
    (waitForNodeReadiness cfg inp s k r code).snapshots = s.snapshots := by
  have hmark := markNodeNotReadyForRetry_snapshots s k r
  unfold waitForNodeReadiness
  generalize markNodeNotReadyForRetry s k r = t at hmark ⊢
  dsimp only
  refine Eq.trans (waitElse_snapshots cfg inp.clk ?_) hmark
  rfl

theorem failJobFromOrchestratorBinding_snapshots (s : Session) (m : String) :
    (failJobFromOrchestratorBinding cfg inp s m).snapshots = s.snapshots := by
  unfold failJobFromOrchestratorBinding
  split
  · exact waitForNodeReadiness_snapshots cfg inp s _ _ _
  · exact retryElse_snapshots cfg inp.clk rfl

theorem ensureDurableCleanupTask_snapshots (s : Session) (sc : CleanupScope) :
    (ensureDurableCleanupTask s sc).snapshots = s.snapshots := by
  unfold ensureDurableCleanupTask
  split
  · rfl
  · split <;> rfl

theorem syncRuntimeAfterFailedBringup_snapshots (s : Session) (res : WorkspaceBringUpResult) :
    (syncRuntimeAfterFailedBringup s res).snapshots = s.snapshots := by
  unfold syncRuntimeAfterFailedBringup
  split
  · rfl
  · split
    · rfl
    · split
      · rfl
      · exact ensureDurableCleanupTask_snapshots _ _

theorem syncAfterException_snapshots (s : Session) (e : OrchestratorException) :
    (syncAfterException s e).snapshots = s.snapshots := by
  cases e with
  | bringUp be =>
      simp only [syncAfterException, syncRuntimeAfterBringupException]
      split
      · rfl
      · split
        · rfl
        · split
          · rfl
          · exact ensureDurableCleanupTask_snapshots _ _
  | stop m | delete m | restart m | update m | snapshot m => rfl

theorem finalizeRuntimeRunningSuccess_snapshots (port : Option String → Option Nat) (s : Session)
    (f : RuntimeFacts) (v : Int) :
    (finalizeRuntimeRunningSuccess cfg clk port s f v).KeepsSnapshots s := by
  unfold finalizeRuntimeRunningSuccess
  split
  · exact ⟨rfl, rfl⟩
  · exact rfl

theorem resolveOrchestratorResultFailure_snapshots (s : Session) (m : String) (st : FailureStage)
    (retryable : Bool) :
    (resolveOrchestratorResultFailure cfg clk s m st retryable).snapshots = s.snapshots :=
  retryElse_snapshots cfg clk rfl

theorem executeBringUpJob_snapshots (s : Session) :
    (executeBringUpJob cfg inp s).KeepsSnapshots s := by
  unfold executeBringUpJob
  split
  · exact rfl
  · split
    · trivial
    · exact ⟨rfl, rfl⟩
    · unfold finalizeBringupResult
      split
      · exact finalizeRuntimeRunningSuccess_snapshots cfg inp.clk inp.port s _ _
      · exact (resolveOrchestratorResultFailure_snapshots cfg inp.clk _ _ _ _).trans
          (syncRuntimeAfterFailedBringup_snapshots s _)

theorem finalizeStopResult_snapshots (s : Session) (res : WorkspaceStopResult) :
    (finalizeStopResult cfg clk s res).snapshots = s.snapshots := by
  unfold finalizeStopResult
  split
  · rfl
  · exact (resolveOrchestratorResultFailure_snapshots cfg clk _ _ _ _).trans
      (ensureDurableCleanupTask_snapshots s _)

theorem finalizeRestartResult_snapshots (s : Session) (res : WorkspaceRestartResult) :
    (finalizeRestartResult cfg clk inp.port s res).KeepsSnapshots s := by
  unfold finalizeRestartResult
  split
  · exact finalizeRuntimeRunningSuccess_snapshots cfg clk inp.port s _ _
  · exact resolveOrchestratorResultFailure_snapshots cfg clk s _ _ _

theorem finalizeUpdateResult_snapshots (s : Session) (res : WorkspaceUpdateResult) :
    (finalizeUpdateResult cfg clk inp.port s res).KeepsSnapshots s := by
  unfold finalizeUpdateResult
  simp only
  split
  · exact finalizeRuntimeRunningSuccess_snapshots cfg clk inp.port s _ _
  · split
    · exact rfl
    · exact resolveOrchestratorResultFailure_snapshots cfg clk s _ _ _

theorem failReconcile_snapshots (s : Session) (m : String) :
    (failReconcile cfg clk s m).snapshots = s.snapshots := by
  rw [failReconcile_eq]
  refine retryElse_snapshots cfg clk ?_
  split <;> rfl

theorem reconcileOrphanRoute_snapshots (rinp : ReconcileInput) (s : Session) :
    (reconcileOrphanRoute cfg clk rinp s).KeepsSnapshots s := by
  unfold reconcileOrphanRoute
  split
  · exact rfl
  · split
    · trivial
    · exact failReconcile_snapshots cfg clk s _
    · split
      · exact rfl
      · split
        · trivial
        · exact failReconcile_snapshots cfg clk s _
        · exact rfl

theorem reconcileRunningRoute_snapshots (rinp : ReconcileInput) (s : Session)
    (rt : WorkspaceRuntime) : (reconcileRunningRoute cfg clk rinp s rt).KeepsSnapshots s := by
  unfold reconcileRunningRoute
  simp only
  split
  · exact rfl
  · split
    · trivial
    · exact failReconcile_snapshots cfg clk s _
    · generalize gatewayRouteNeedsRepair _ _ _ _ = needsRepair
      cases needsRepair with
      | true =>
          rw [if_pos rfl]
          split
          · trivial
          · exact failReconcile_snapshots cfg clk s _
          · exact rfl
      | false => exact rfl

theorem executeReconcileRuntimeJob_snapshots (rinp : ReconcileInput) (s : Session) :
    (executeReconcileRuntimeJob cfg clk rinp s).KeepsSnapshots s := by
  have hpass : (cleanupPass rinp s).snapshots = s.snapshots := rfl
  rw [executeReconcileRuntimeJob_eq]
  split
  · exact failReconcile_snapshots cfg clk s _
  · split
    · exact failReconcile_snapshots cfg clk (cleanupPass rinp s) _
    · show Exit.KeepsSnapshots (cleanupPass rinp s) _
      generalize cleanupPass rinp s = t
      split
      · exact reconcileOrphanRoute_snapshots cfg clk rinp t
      · unfold reconcileErrorCleanup
        split
        · trivial
        · exact failReconcile_snapshots cfg clk t _
        · split
          · exact (reconcileOrphanRoute_snapshots cfg clk rinp _).trans rfl rfl
          · exact reconcileOrphanRoute_snapshots cfg clk rinp t
      · unfold reconcileStopped
        split
        · trivial
        · exact failReconcile_snapshots cfg clk t _
        · split
          · split
            · trivial
            · exact failReconcile_snapshots cfg clk t _
            · simp only
              split
              · trivial
              · exact finalizeStopResult_snapshots cfg clk t _
          · exact reconcileOrphanRoute_snapshots cfg clk rinp t
      · unfold reconcileRunning
        split
        · trivial
        · exact failReconcile_snapshots cfg clk t _
        · split
          · exact failReconcile_snapshots cfg clk t _
          · split
            · exact ⟨rfl, rfl⟩
            · exact (reconcileRunningRoute_snapshots cfg clk rinp _ _).trans rfl rfl

theorem executeJobBody_snapshots {s : Session} (hjt : s.job.jobType.isSnapshot = false) :
    (executeJobBody cfg inp s).KeepsSnapshots s := by
  unfold executeJobBody
  split
  · unfold executeRepoImportJob
    split
    · exact rfl
    · trivial
  · exact executeBringUpJob_snapshots cfg inp s
  · exact executeBringUpJob_snapshots cfg inp s
  · split
    · trivial
    · exact ⟨rfl, rfl⟩
    · exact finalizeStopResult_snapshots cfg inp.clk s _
  · split
    · trivial
    · exact ⟨rfl, rfl⟩
    · exact rfl
  · split
    · trivial
    · exact ⟨rfl, rfl⟩
    · exact finalizeRestartResult_snapshots cfg inp.clk inp s _
  · split
    · trivial
    · exact ⟨rfl, rfl⟩
    · exact finalizeUpdateResult_snapshots cfg inp.clk inp s _
  · exact executeReconcileRuntimeJob_snapshots cfg inp.clk inp.reconcile s
  · rename_i h; rw [h] at hjt; cases hjt
  · rename_i h; rw [h] at hjt; cases hjt

theorem handleOrchestratorException_snapshots {s : Session} (nodeKey : Option String)
    (e : OrchestratorException) (hjt : (syncAfterException s e).job.jobType.isSnapshot = false) :
    (handleOrchestratorException cfg inp s nodeKey e).snapshots = s.snapshots := by
  refine Eq.trans ?_ (syncAfterException_snapshots s e)
  unfold handleOrchestratorException
  generalize syncAfterException s e = t at hjt ⊢
  dsimp only
  split
  · exact waitForNodeReadiness_snapshots cfg inp t _ _ _
  · rw [hjt]
    exact retryElse_snapshots cfg inp.clk rfl

/-- **Executions of the other jobs** leave every snapshot row alone. -/
theorem executeClaimedJob_snapshots {s : Session} (entry : EntryPoint)
    (hjt : s.job.jobType.isSnapshot = false)
    (hc : (executeClaimedJob cfg inp entry s).committed = true) :
    (executeClaimedJob cfg inp entry s).session.snapshots = s.snapshots := by
  have hproc : ∀ t nodeKey, t.job = s.job →
      (processClaimedRunningJob cfg inp t nodeKey).committed = true →
      (processClaimedRunningJob cfg inp t nodeKey).session.snapshots = t.snapshots := by
    intro t nodeKey ht hc
    have hbody := executeJobBody_snapshots cfg inp (s := t) (by rw [ht]; exact hjt)
    unfold processClaimedRunningJob at hc ⊢
    cases hex : executeJobBody cfg inp t with
    | returned s' => rw [hex] at hbody; exact hbody
    | raised e s' =>
        rw [hex] at hbody
        refine (handleOrchestratorException_snapshots cfg inp nodeKey e ?_).trans hbody.1
        rw [(syncAfterException_syncs s' e).job, hbody.2, ht]
        exact hjt
    | crashed s' => rw [hex] at hc; cases hc
  have hbegin := (beginCreate_fields s).1
  have hsnap : (beginCreateBringupAfterPlacement s).snapshots = s.snapshots := by rw [hbegin]
  have hjob : (beginCreateBringupAfterPlacement s).job = s.job := by rw [hbegin]
  unfold executeClaimedJob at hc ⊢
  split
  · rfl
  · rename_i hnot
    rw [if_neg hnot] at hc
    unfold placeAndProcess at hc ⊢
    split
    · exact failJobFromPlacement_snapshots cfg inp s _
    · rename_i hp
      rw [hp] at hc
      dsimp only at hc ⊢
      split
      · rename_i hrepo
        rw [if_pos hrepo] at hc
        exact hproc s none rfl hc
      · rename_i hrepo
        rw [if_neg hrepo] at hc
        split
        · rfl
        · exact failJobFromOrchestratorBinding_snapshots cfg inp s _
        · rename_i hb
          rw [hb] at hc
          exact (hproc _ _ hjob hc).trans hsnap

end Keeps

/-! ## The end of a snapshot job -/

/-- The status of the row a snapshot job works for. -/
def WorkspaceJobType.awaited : WorkspaceJobType → WorkspaceSnapshotStatus
  | .snapshotCreate => .creating
  | _ => .restoring

/-- How a snapshot job's execution leaves the job and its row: queued again with nothing
changed, or ended with the row out of its transitional status. -/
inductive SnapshotEnd (s s' : Session) : Prop
  | requeued (hj : s'.job.status = .queued)
      (hsid : s'.job.workspaceSnapshotId = s.job.workspaceSnapshotId)
      (hsnaps : s'.snapshots = s.snapshots)
  | settled {sid : Nat} {snap snap' : WorkspaceSnapshot}
      (hsid : s.job.workspaceSnapshotId = some sid) (hsnap : s.snapshots.lookup sid = some snap)
      (hwid : snap'.workspaceId = snap.workspaceId) (hj : s'.job.status.isOpen = false)
      (hst : snap'.status = .available ∨ snap'.status = .failed ∨
        snap'.status = snap.status ∧ snap.status ≠ s.job.jobType.awaited)
      (hsnaps : ∀ k, s'.snapshots.lookup k =
        if k = sid then some snap' else s.snapshots.lookup k)

/-- The row a session's job works for is there and belongs to the workspace. -/
def Session.SnapshotLinked (s : Session) : Prop :=
  ∃ sid snap, s.job.workspaceSnapshotId = some sid ∧ s.snapshots.lookup sid = some snap ∧
    snap.workspaceId = s.wid

section Ends

variable (cfg : Settings) (inp : WorkerInput) {s : Session}

theorem SnapshotEnd.of_setSnapshot {s' : Session} {sid : Nat} {snap snap' : WorkspaceSnapshot}
    (hsid : s.job.workspaceSnapshotId = some sid) (hsnap : s.snapshots.lookup sid = some snap)
    (hsnaps : s'.snapshots = s.snapshots.insert sid snap')
    (hwid : snap'.workspaceId = snap.workspaceId) (hj : s'.job.status.isOpen = false)
    (hst : snap'.status = .available ∨ snap'.status = .failed) : SnapshotEnd s s' := by
  refine .settled hsid hsnap hwid hj ?_ fun k => by rw [hsnaps, Table.lookup_insert_eq]
  rcases hst with hst | hst
  · exact .inl hst
  · exact .inr (.inl hst)

/-- An attempt that may be repeated leaves the row as it is. -/
theorem retryElse_snapshotEnd {retryable : Bool} {m : String} {stage : FailureStage} {code : String}
    {terminal : Session} (ht : (retryable && attemptsRemain cfg s.job) = false →
      SnapshotEnd s terminal) :
    SnapshotEnd s (retryElse cfg inp.clk s retryable m stage code terminal) := by
  unfold retryElse
  cases retryable with
  | false => exact ht rfl
  | true =>
      cases hrem : attemptsRemain cfg s.job with
      | true =>
          simp only [if_true, tryScheduleWorkspaceJobRetry, hrem]
          exact .requeued rfl rfl rfl
      | false =>
          simp only [if_true, tryScheduleWorkspaceJobRetry, hrem, Bool.false_eq_true, if_false]
          exact ht (by rw [hrem]; rfl)

theorem finishSnapshotCreate_end {sid : Nat} {snap : WorkspaceSnapshot}
    (hsid : s.job.workspaceSnapshotId = some sid) (hsnap : s.snapshots.lookup sid = some snap)
    (res : WorkspaceSnapshotOperationResult) (uploaded : Bool) :
    SnapshotEnd s (finishSnapshotCreate inp s sid snap res uploaded) := by
  unfold finishSnapshotCreate
  split
  · split
    · exact .of_setSnapshot hsid hsnap rfl rfl rfl (.inr rfl)
    · exact .of_setSnapshot hsid hsnap rfl rfl rfl (.inl rfl)
  · exact .of_setSnapshot hsid hsnap rfl rfl rfl (.inr rfl)

/-- A snapshot body returns with the row settled, or raises with nothing written. -/
def SnapshotExit (s : Session) : Exit → Prop
  | .returned s' => SnapshotEnd s s'
  | .raised e s' => s' = s ∧ ∃ m, e = .snapshot m
  | .crashed _ => True

theorem executeSnapshotCreateJob_exit (hl : s.SnapshotLinked) :
    SnapshotExit s (executeSnapshotCreateJob inp s) := by
  obtain ⟨sid, snap, hsid, hsnap, hwid⟩ := hl
  unfold executeSnapshotCreateJob
  simp only [hsid, hsnap, hwid, ne_eq, not_true_eq_false, if_false]
  split
  · exact finishSnapshotCreate_end inp hsid hsnap _ _
  · split
    · trivial
    · exact ⟨rfl, _, rfl⟩
    · exact finishSnapshotCreate_end inp hsid hsnap _ _

theorem executeSnapshotRestoreJob_exit (hl : s.SnapshotLinked) :
    SnapshotExit s (executeSnapshotRestoreJob inp s) := by
  obtain ⟨sid, snap, hsid, hsnap, hwid⟩ := hl
  unfold executeSnapshotRestoreJob
  simp only [hsid, hsnap, hwid, ne_eq, not_true_eq_false, if_false]
  split
  · exact .of_setSnapshot hsid hsnap rfl hwid.symm rfl (.inl rfl)
  · split
    · exact .of_setSnapshot hsid hsnap rfl hwid.symm rfl (.inl rfl)
    · split
      · trivial
      · exact ⟨rfl, _, rfl⟩
      · split
        · exact .of_setSnapshot hsid hsnap rfl hwid.symm rfl (.inl rfl)
        · exact .of_setSnapshot hsid hsnap rfl hwid.symm rfl (.inl rfl)

/-- The exception handler knows of snapshots: its terminal end settles the row. -/
theorem settleSnapshotAfterException_end (hl : s.SnapshotLinked) (m : String)
    (stage : FailureStage) (code : String) :
    SnapshotEnd s (failJobOnly inp (settleSnapshotAfterException s) m stage code) := by
  obtain ⟨sid, snap, hsid, hsnap, -⟩ := hl
  simp only [settleSnapshotAfterException, hsid, hsnap]
  split
  · rename_i hcre
    split
    · exact .of_setSnapshot hsid hsnap rfl rfl rfl (.inr rfl)
    · rename_i hst
      refine .settled hsid hsnap rfl rfl (.inr (.inr ⟨rfl, ?_⟩)) fun k => ?_
      · rw [hcre]
        exact hst
      · show s.snapshots.lookup k = _
        split
        · rename_i hk
          rw [hk, hsnap]
        · rfl
  · exact .of_setSnapshot hsid hsnap rfl rfl rfl (.inl rfl)

theorem handleOrchestratorException_end (hl : s.SnapshotLinked)
    (hjt : s.job.jobType.isSnapshot = true) (nodeKey : Option String) (m : String) :
    SnapshotEnd s (handleOrchestratorException cfg inp s nodeKey (.snapshot m)) := by
  have hnode : nodeReadinessRetryAllowed s.job.jobType = false := by
    cases h : s.job.jobType <;> first | rfl | (rw [h] at hjt; cases hjt)
  unfold handleOrchestratorException
  dsimp only [syncAfterException]
  rw [hnode, hjt]
  exact retryElse_snapshotEnd cfg inp fun _ => settleSnapshotAfterException_end inp hl _ _ _

theorem processClaimedRunningJob_end (hl : s.SnapshotLinked) (hjt : s.job.jobType.isSnapshot = true)
    (nodeKey : Option String)
    (hc : (processClaimedRunningJob cfg inp s nodeKey).committed = true) :
    SnapshotEnd s (processClaimedRunningJob cfg inp s nodeKey).session := by
  have hbody : SnapshotExit s (executeJobBody cfg inp s) := by
    cases h : s.job.jobType with
    | snapshotCreate => simpa only [executeJobBody, h] using executeSnapshotCreateJob_exit inp hl
    | snapshotRestore => simpa only [executeJobBody, h] using executeSnapshotRestoreJob_exit inp hl
    | _ => rw [h] at hjt; cases hjt
  unfold processClaimedRunningJob at hc ⊢
  cases hex : executeJobBody cfg inp s with
  | returned s' => rw [hex] at hbody; exact hbody
  | raised e s' =>
      rw [hex] at hbody
      obtain ⟨rfl, m, rfl⟩ := hbody
      exact handleOrchestratorException_end cfg inp hl hjt nodeKey m
  | crashed s' => rw [hex] at hc; cases hc

/-- **A snapshot job settles its row**, unless its last attempt ends before the body. -/
theorem executeClaimedJob_snapshotEnd (entry : EntryPoint) (hl : s.SnapshotLinked)
    (hjt : s.job.jobType.isSnapshot = true)
    (hearly : failsEarly cfg inp s = true → attemptsRemain cfg s.job = true)
    (hc : (executeClaimedJob cfg inp entry s).committed = true) :
    SnapshotEnd s (executeClaimedJob cfg inp entry s).session := by
  have hdel : s.job.jobType ≠ .delete := by rintro h; rw [h] at hjt; cases hjt
  have hcre : s.job.jobType ≠ .create := by rintro h; rw [h] at hjt; cases hjt
  have hsta : s.job.jobType ≠ .start := by rintro h; rw [h] at hjt; cases hjt
  have hrepo : s.job.jobType ≠ .repoImport := by rintro h; rw [h] at hjt; cases hjt
  have hnode : nodeReadinessRetryAllowed s.job.jobType = false := by
    cases h : s.job.jobType <;> first | rfl | (rw [h] at hjt; cases hjt)
  have hbegin : beginCreateBringupAfterPlacement s = s := by
    simp [beginCreateBringupAfterPlacement, hcre]
  have hcap := resolve_noCapacity cfg inp.placement hcre hsta
  rw [executeClaimedJob_eq cfg inp entry hdel] at hc ⊢
  unfold failsEarly at hearly
  unfold placeAndProcess at hc ⊢
  cases hp : resolveOrchestratorPlacement cfg inp.placement s with
  | error e =>
      rw [hp] at hearly hcap
      have hrem := hearly rfl
      have hretry : ∀ m code t, SnapshotEnd s
          (retryElse cfg inp.clk s true m .placement code t) := fun m code t =>
        retryElse_snapshotEnd cfg inp fun h => by rw [hrem] at h; cases h
      cases e with
      | noSchedulableNode m => exact absurd rfl (hcap m)
      | invalidPlacementParameters m => exact hretry _ _ _
      | authoritativePlacement m => exact hretry _ _ _
  | ok p =>
      simp only [hp, if_neg hrepo, hbegin] at hearly hc ⊢
      cases hb : inp.binding with
      | crashed => rw [hb] at hc; cases hc
      | failed m =>
          rw [hb] at hearly
          have hrem := hearly rfl
          simp only [failJobFromOrchestratorBinding, hnode, Bool.false_and, Bool.false_eq_true,
            if_false]
          exact retryElse_snapshotEnd cfg inp fun h => by rw [hrem] at h; cases h
      | bound =>
          rw [hb] at hc
          exact processClaimedRunningJob_end cfg inp hl hjt _ hc

end Ends

/-! ## The tables -/

/-- Some open job of type `jt` works for snapshot `sid`. -/
def OpenSnapshotJob (db : Db) (jt : WorkspaceJobType) (sid : Nat) : Prop :=
  ∃ jid job, db.jobs.lookup jid = some job ∧ job.jobType = jt ∧ job.status.isOpen = true ∧
    job.workspaceSnapshotId = some sid

/-- A `CREATING` row has an open `SNAPSHOT_CREATE` job, a `RESTORING` one an open
`SNAPSHOT_RESTORE` job. -/
def SnapshotsSettle (db : Db) : Prop :=
  ∀ sid snap, db.snapshots.lookup sid = some snap →
    (snap.status = .creating → OpenSnapshotJob db .snapshotCreate sid) ∧
    (snap.status = .restoring → OpenSnapshotJob db .snapshotRestore sid)

/-- What holds between any two steps. No commit shows a snapshot job `RUNNING`, so a reclaim
never fails one. -/
structure SnapshotInv (db : Db) : Prop where
  settle : SnapshotsSettle db
  linked : ∀ {jid job}, db.jobs.lookup jid = some job → job.jobType.isSnapshot = true →
    job.status.isOpen = true → ∃ sid snap, job.workspaceSnapshotId = some sid ∧
      db.snapshots.lookup sid = some snap ∧ snap.workspaceId = job.workspaceId
  idle : ∀ {jid job}, db.jobs.lookup jid = some job → job.jobType.isSnapshot = true →
    job.status ≠ .running
  owned : ∀ {jid job}, db.jobs.lookup jid = some job →
    (db.workspaces.lookup job.workspaceId).isSome

/-- Another job row is written, open or not. -/
theorem OpenSnapshotJob.insert {db db' : Db} {jt : WorkspaceJobType} {sid jid : Nat}
    {job : WorkspaceJob} (h : OpenSnapshotJob db jt sid)
    (hjobs : db'.jobs = db.jobs.insert jid job)
    (hold : ∀ j, db.jobs.lookup jid = some j → j.jobType = jt → j.workspaceSnapshotId = some sid →
      j.status.isOpen = true → OpenSnapshotJob db' jt sid) : OpenSnapshotJob db' jt sid := by
  obtain ⟨k, j, hk, hjt, hopen, hsid⟩ := h
  by_cases hkj : k = jid
  · subst hkj
    exact hold j hk hjt hsid hopen
  · refine ⟨k, j, ?_, hjt, hopen, hsid⟩
    rw [hjobs, Table.lookup_insert_eq, if_neg hkj]
    exact hk

/-- Writing one job row that is no snapshot job, beside untouched snapshot rows. -/
theorem SnapshotInv.insert_job {db db' : Db} {jid : Nat} {job : WorkspaceJob} (h : SnapshotInv db)
    (hjobs : db'.jobs = db.jobs.insert jid job) (hsnaps : db'.snapshots = db.snapshots)
    (hws : ∀ w, (db.workspaces.lookup w).isSome → (db'.workspaces.lookup w).isSome)
    (howned : (db'.workspaces.lookup job.workspaceId).isSome)
    (hjt : job.jobType.isSnapshot = false)
    (hold : ∀ j, db.jobs.lookup jid = some j → j.jobType.isSnapshot = false) : SnapshotInv db' := by
  have hlook : ∀ {k j}, db'.jobs.lookup k = some j → j = job ∨ db.jobs.lookup k = some j := by
    intro k j hl
    rw [hjobs, Table.lookup_insert_eq] at hl
    split at hl
    · exact .inl (Option.some.inj hl).symm
    · exact .inr hl
  refine ⟨fun sid snap hsnap => ?_, fun {k j} hl hj hopen => ?_, fun {k j} hl hj => ?_,
    fun {k j} hl => ?_⟩
  · rw [hsnaps] at hsnap
    obtain ⟨hc, hr⟩ := h.settle sid snap hsnap
    refine ⟨fun hst => (hc hst).insert hjobs fun j hl hj => ?_,
      fun hst => (hr hst).insert hjobs fun j hl hj => ?_⟩
    all_goals
      have := hold j hl
      rw [hj] at this
      cases this
  · rcases hlook hl with rfl | hl
    · rw [hjt] at hj
      cases hj
    · rw [hsnaps]
      exact h.linked hl hj hopen
  · rcases hlook hl with rfl | hl
    · rw [hjt] at hj
      cases hj
    · exact h.idle hl hj
  · rcases hlook hl with rfl | hl
    · exact howned
    · exact hws _ (h.owned hl)

/-- Neither jobs nor snapshots nor workspaces change. -/
theorem SnapshotInv.congr {db db' : Db} (h : SnapshotInv db) (hjobs : db'.jobs = db.jobs)
    (hsnaps : db'.snapshots = db.snapshots)
    (hws : ∀ w, (db.workspaces.lookup w).isSome → (db'.workspaces.lookup w).isSome) :
    SnapshotInv db' := by
  refine ⟨fun sid snap hsnap => ?_, fun hl => ?_, fun hl => ?_, fun hl => ?_⟩
  · rw [hsnaps] at hsnap
    unfold OpenSnapshotJob
    rw [hjobs]
    exact h.settle sid snap hsnap
  · rw [hsnaps]
    exact h.linked (hjobs ▸ hl)
  · exact h.idle (hjobs ▸ hl)
  · exact hws _ (h.owned (hjobs ▸ hl))

theorem not_isSnapshot_of_isLifecycle {jt : WorkspaceJobType} (h : jt.isLifecycle = true) :
    jt.isSnapshot = false := by
  cases jt <;> first | rfl | cases h

/-- A snapshot request: the new job brings its row, transitional, along. -/
theorem SnapshotInv.request {db db' : Db} {job : WorkspaceJob} {sid : Nat} {row : WorkspaceSnapshot}
    (h : SnapshotInv db) (hjobs : db'.jobs = db.jobs.insert (Table.freshKey db.jobs) job)
    (hsnaps : db'.snapshots = db.snapshots.insert sid row)
    (hws : db'.workspaces = db.workspaces) (howned : (db.workspaces.lookup job.workspaceId).isSome)
    (hjt : job.jobType.isSnapshot = true) (hq : job.status = .queued)
    (hsid : job.workspaceSnapshotId = some sid) (hwid : row.workspaceId = job.workspaceId)
    (hst : row.status = job.jobType.awaited)
    (hold : ∀ snap, db.snapshots.lookup sid = some snap → snap.workspaceId = row.workspaceId) :
    SnapshotInv db' := by
  have hnew : db'.jobs.lookup (Table.freshKey db.jobs) = some job := by
    rw [hjobs, Table.lookup_insert_eq, if_pos rfl]
  have hlook : ∀ {k j}, db'.jobs.lookup k = some j → j = job ∨ db.jobs.lookup k = some j := by
    intro k j hl
    rw [hjobs, Table.lookup_insert_eq] at hl
    split at hl
    · exact .inl (Option.some.inj hl).symm
    · exact .inr hl
  have hfresh : ∀ {jt k}, OpenSnapshotJob db jt k → OpenSnapshotJob db' jt k := fun ho =>
    ho.insert hjobs fun j hl => by rw [Table.lookup_freshKey] at hl; cases hl
  refine ⟨fun k snap hk => ?_, fun {k j} hl hj hopen => ?_, fun {k j} hl hj => ?_,
    fun {k j} hl => ?_⟩
  · rw [hsnaps, Table.lookup_insert_eq] at hk
    split at hk
    · rename_i hks
      subst hks
      obtain rfl := Option.some.inj hk
      cases hjob : job.jobType with
      | snapshotCreate =>
          rw [hjob] at hst
          refine ⟨fun _ => ⟨_, job, hnew, hjob, by rw [hq]; rfl, hsid⟩, fun hr => ?_⟩
          rw [hst] at hr
          cases hr
      | snapshotRestore =>
          rw [hjob] at hst
          refine ⟨fun hc => ?_, fun _ => ⟨_, job, hnew, hjob, by rw [hq]; rfl, hsid⟩⟩
          rw [hst] at hc
          cases hc
      | _ => rw [hjob] at hjt; cases hjt
    · obtain ⟨hc, hr⟩ := h.settle k snap hk
      exact ⟨fun hst => hfresh (hc hst), fun hst => hfresh (hr hst)⟩
  · rcases hlook hl with rfl | hl
    · refine ⟨sid, row, hsid, ?_, hwid⟩
      rw [hsnaps, Table.lookup_insert_eq, if_pos rfl]
    · obtain ⟨sid', snap, hsid', hsnap, hw⟩ := h.linked hl hj hopen
      by_cases hs : sid' = sid
      · subst hs
        refine ⟨sid', row, hsid', ?_, (hold snap hsnap).symm.trans hw⟩
        rw [hsnaps, Table.lookup_insert_eq, if_pos rfl]
      · refine ⟨sid', snap, hsid', ?_, hw⟩
        rw [hsnaps, Table.lookup_insert_eq, if_neg hs]
        exact hsnap
  · rcases hlook hl with rfl | hl
    · rw [hq]
      simp
    · exact h.idle hl hj
  · rw [hws]
    rcases hlook hl with rfl | hl
    · exact howned
    · exact h.owned hl

theorem IntentEffect.snapshotInv {db db' : Db} (h : IntentEffect db db') (hinv : SnapshotInv db) :
    SnapshotInv db' := by
  have hfresh : ∀ j, db.jobs.lookup (Table.freshKey db.jobs) = some j →
      j.jobType.isSnapshot = false := fun j hl => by rw [Table.lookup_freshKey] at hl; cases hl
  cases h with
  | refused => exact hinv
  | lifecycle hws _ _ _ hwid hjt _ =>
      refine hinv.insert_job rfl rfl (fun w => isSome_lookup_insert) ?_
        (not_isSnapshot_of_isLifecycle hjt) hfresh
      simp [Db.queueJob, hwid]
  | created _ hwid hjt _ =>
      refine hinv.insert_job rfl rfl (fun w => isSome_lookup_insert) ?_
        (not_isSnapshot_of_isLifecycle hjt) hfresh
      simp [Db.queueJob, hwid]
  | queued hws _ hq hsnaps =>
      have howned := Option.isSome_iff_exists.mpr ⟨_, hws⟩
      cases hsnaps with
      | none hjt => exact hinv.insert_job rfl rfl (fun _ h => h) howned hjt hfresh
      | create hjt hsid =>
          refine hinv.request rfl rfl rfl howned (by rw [hjt]; rfl) hq.1 hsid rfl
            (by rw [hjt]; rfl) fun snap hsnap => ?_
          rw [Table.lookup_freshKey] at hsnap
          cases hsnap
      | restore hjt hsid hsnap hwid _ _ _ _ =>
          refine hinv.request rfl rfl rfl howned (by rw [hjt]; rfl) hq.1 hsid hwid
            (by rw [hjt]; rfl) fun snap' hsnap' => ?_
          rw [hsnap] at hsnap'
          obtain rfl := Option.some.inj hsnap'
          rfl

/-! ## Executions, deaths and reclaims -/

section Executions

variable {cfg : Settings} {inp : WorkerInput} {entry : EntryPoint} {jid : Nat} {db db' : Db}

/-- The claimed row, and the snapshot table it is claimed with. -/
theorem claimJob_snapshots {s : Session} (h : claimJob inp jid db = some s) :
    s.snapshots = db.snapshots ∧ ∃ j, db.jobs.lookup jid = some j ∧ j.jobType = s.job.jobType ∧
      j.workspaceId = s.wid ∧ j.workspaceSnapshotId = s.job.workspaceSnapshotId ∧
      j.status = .queued := by
  obtain ⟨j, hj, -, hq⟩ := (claimJob_claimed h).job
  unfold claimJob at h
  rw [hj] at h
  dsimp only at h
  split at h
  · cases h
  · obtain ⟨ws, -, rfl⟩ := Option.map_eq_some_iff.mp h
    exact ⟨rfl, j, hj, rfl, rfl, rfl, hq⟩

theorem SnapshotInv.claimed {s : Session} (h : SnapshotInv db) (hs : claimJob inp jid db = some s)
    (hjt : s.job.jobType.isSnapshot = true) : s.SnapshotLinked := by
  obtain ⟨hsnaps, j, hj, hjtj, hwid, hsidj, hq⟩ := claimJob_snapshots hs
  obtain ⟨sid, snap, hsid, hsnap, hw⟩ := h.linked hj (by rw [hjtj]; exact hjt) (by rw [hq]; rfl)
  exact ⟨sid, snap, hsidj ▸ hsid, hsnaps ▸ hsnap, hw.trans hwid⟩

/-- The end of a snapshot job is committed. -/
theorem SnapshotInv.commit_end {s s' : Session} (h : SnapshotInv db)
    (hs : claimJob inp jid db = some s) (hjt : s.job.jobType.isSnapshot = true)
    (hend : SnapshotEnd s s') (htarget : s'.wid = s.wid ∧ SameJob s.job s'.job)
    (hrun : s'.job.status ≠ .running) : SnapshotInv (s'.commit jid db) := by
  obtain ⟨hsnaps, old, hold, hjtold, hwidold, hsidold, hqold⟩ := claimJob_snapshots hs
  have hjob' : (s'.commit jid db).jobs.lookup jid = some s'.job := by
    rw [commit_jobs, Table.lookup_insert_eq, if_pos rfl]
  have hlook : ∀ {k j}, (s'.commit jid db).jobs.lookup k = some j →
      j = s'.job ∨ k ≠ jid ∧ db.jobs.lookup k = some j := by
    intro k j hl
    rw [commit_jobs, Table.lookup_insert_eq] at hl
    split at hl
    · exact .inl (Option.some.inj hl).symm
    · rename_i hk
      exact .inr ⟨hk, hl⟩
  have howned : ∀ {k j}, (s'.commit jid db).jobs.lookup k = some j →
      ((s'.commit jid db).workspaces.lookup j.workspaceId).isSome := by
    intro k j hl
    rcases hlook hl with rfl | ⟨-, hl⟩
    · simp [htarget.1, htarget.2.1, (claimJob_claimed hs).target]
    · exact isSome_lookup_insert (h.owned hl)
  have hidle : ∀ {k j}, (s'.commit jid db).jobs.lookup k = some j → j.jobType.isSnapshot = true →
      j.status ≠ .running := by
    intro k j hl hj
    rcases hlook hl with rfl | ⟨-, hl⟩
    · exact hrun
    · exact h.idle hl hj
  have hlinked := h.linked hold (by rw [hjtold]; exact hjt) (by rw [hqold]; rfl)
  cases hend with
  | requeued hj hsid hsame =>
      have hopen : ∀ {jt k}, OpenSnapshotJob db jt k → OpenSnapshotJob (s'.commit jid db) jt k :=
        fun ho => ho.insert (commit_jobs s' jid db) fun j hl hjj hsidj _ => by
          rw [hold] at hl
          obtain rfl := Option.some.inj hl
          refine ⟨jid, s'.job, hjob', ?_, by rw [hj]; rfl, ?_⟩
          · rw [htarget.2.2, ← hjtold]
            exact hjj
          · rw [hsid, ← hsidold]
            exact hsidj
      refine ⟨fun sid snap hsnap => ?_, fun {k j} hl hjj hopenj => ?_, hidle, howned⟩
      · have hsnap' : db.snapshots.lookup sid = some snap := by
          rw [← hsnaps, ← hsame]
          exact hsnap
        obtain ⟨hc, hr⟩ := h.settle sid snap hsnap'
        exact ⟨fun hst => hopen (hc hst), fun hst => hopen (hr hst)⟩
      · show ∃ sid snap, _ ∧ s'.snapshots.lookup sid = _ ∧ _
        rw [hsame, hsnaps]
        rcases hlook hl with rfl | ⟨-, hl⟩
        · rw [hsid, ← hsidold, htarget.2.1, (claimJob_claimed hs).target, ← hwidold]
          exact hlinked
        · exact h.linked hl hjj hopenj
  | @settled sid snap snap' hsid hsnap hwid hj hst hrow =>
      have hother : ∀ {jt k}, k ≠ sid ∨ jt ≠ s.job.jobType → OpenSnapshotJob db jt k →
          OpenSnapshotJob (s'.commit jid db) jt k :=
        fun hne ho => ho.insert (commit_jobs s' jid db) fun j hl hjj hsidj _ => by
          rw [hold] at hl
          obtain rfl := Option.some.inj hl
          rw [hsidold, hsid] at hsidj
          rcases hne with hne | hne
          · exact absurd (Option.some.inj hsidj).symm hne
          · exact absurd (hjj.symm.trans hjtold) hne
      refine ⟨fun k row hk => ?_, fun {k j} hl hjj hopenj => ?_, hidle, howned⟩
      · have hk' : s'.snapshots.lookup k = some row := hk
        rw [hrow k] at hk'
        split at hk'
        · rename_i hks
          subst hks
          obtain rfl := Option.some.inj hk'
          obtain ⟨hc, hr⟩ := h.settle k snap (hsnaps ▸ hsnap)
          rcases hst with hst | hst | ⟨hst, hne⟩
          · exact ⟨by simp [hst], by simp [hst]⟩
          · exact ⟨by simp [hst], by simp [hst]⟩
          · rw [hst]
            refine ⟨fun hcre => hother (.inr fun heq => ?_) (hc hcre),
              fun hres => hother (.inr fun heq => ?_) (hr hres)⟩
            · rw [← heq, hcre] at hne
              exact hne rfl
            · rw [← heq, hres] at hne
              exact hne rfl
        · rename_i hks
          rw [hsnaps] at hk'
          obtain ⟨hc, hr⟩ := h.settle k row hk'
          exact ⟨fun h => hother (.inl hks) (hc h), fun h => hother (.inl hks) (hr h)⟩
      · show ∃ sid snap, _ ∧ s'.snapshots.lookup sid = _ ∧ _
        rcases hlook hl with rfl | ⟨-, hl⟩
        · rw [hj] at hopenj
          cases hopenj
        · obtain ⟨sid', row, hsid', hrow', hw⟩ := h.linked hl hjj hopenj
          by_cases heq : sid' = sid
          · subst heq
            refine ⟨sid', snap', hsid', by rw [hrow, if_pos rfl], ?_⟩
            rw [hsnaps, hrow'] at hsnap
            obtain rfl := Option.some.inj hsnap
            exact hwid.trans hw
          · exact ⟨sid', row, hsid', by rw [hrow, if_neg heq, hsnaps]; exact hrow', hw⟩

theorem ExecEffect.snapshotInv (h : ExecEffect cfg entry inp jid db db') (hinv : SnapshotInv db)
    (hearly : ∀ s ∈ claimJob inp jid db, s.job.jobType.isSnapshot = true →
      failsEarly cfg inp s = true → attemptsRemain cfg s.job = true) : SnapshotInv db' := by
  cases h with
  | idle _ => exact hinv
  | orphan _ hjob hws _ =>
      have hsome := hinv.owned hjob
      rw [hws] at hsome
      cases hsome
  | @committed s hs hc hend =>
      obtain ⟨hsnaps, old, hold, hjtold, -, -, -⟩ := claimJob_snapshots hs
      cases hjt : s.job.jobType.isSnapshot with
      | true =>
          exact hinv.commit_end hs hjt (executeClaimedJob_snapshotEnd cfg inp entry
            (hinv.claimed hs hjt) hjt (hearly s hs hjt) hc) hend.target hend.not_running
      | false =>
          have hsame := hend.target
          refine hinv.insert_job (commit_jobs _ _ _) ?_ (fun w => isSome_lookup_insert) ?_ ?_ ?_
          · exact (executeClaimedJob_snapshots cfg inp entry hjt hc).trans hsnaps
          · simp [hsame.1, hsame.2.1, (claimJob_claimed hs).target]
          · rw [hsame.2.2]
            exact hjt
          · intro j hj
            rw [hold] at hj
            obtain rfl := Option.some.inj hj
            rw [hjtold]
            exact hjt
  | rolledBack _ _ _ => exact hinv.congr rfl rfl fun _ h => h

/-- Snapshot jobs never call the topology adapter. -/
theorem sessionAtCommit_not_snapshot {point : CommitPoint} {s s' : Session}
    (h : sessionAtCommit cfg inp entry point s = some s') : s.job.jobType.isSnapshot = false := by
  unfold sessionAtCommit at h
  split at h
  · cases h
  · split at h
    · unfold sessionInBody at h
      rw [show (beginCreateBringupAfterPlacement s).job = s.job by rw [(beginCreate_fields s).1]] at h
      cases hjt : s.job.jobType with
      | snapshotCreate | snapshotRestore => rw [hjt] at h; cases h
      | _ => rfl
    · cases h

theorem dieDuringJob_snapshotInv {point : CommitPoint} (hinv : SnapshotInv db) :
    SnapshotInv (dieDuringJob cfg inp entry point jid db) := by
  unfold dieDuringJob
  split
  · exact hinv
  · rename_i s' hs'
    obtain ⟨s, hs, hat⟩ := Option.bind_eq_some_iff.mp hs'
    obtain ⟨hsnaps, old, hold, hjtold, -, -, -⟩ := claimJob_snapshots hs
    have hjt := sessionAtCommit_not_snapshot hat
    obtain ⟨hwid, hjob, hsnap, -⟩ := (sessionAtCommit_cases cfg inp hat).target
    refine hinv.insert_job (commit_jobs _ _ _) (hsnap.trans hsnaps) (fun w => isSome_lookup_insert)
      ?_ (by rw [hjob]; exact hjt) fun j hj => ?_
    · simp [hwid, hjob, (claimJob_claimed hs).target]
    · rw [hold] at hj
      obtain rfl := Option.some.inj hj
      rw [hjtold]
      exact hjt

theorem drainPendingCleanupTasks_snapshotInv (hinv : SnapshotInv db) (answers : List DrainAnswer) :
    SnapshotInv (drainPendingCleanupTasks db answers) := by
  unfold drainPendingCleanupTasks
  induction answers generalizing db with
  | nil => exact hinv
  | cons ans answers ih =>
      refine ih ?_
      unfold drainWorkspace
      split
      · exact hinv
      · split
        · exact hinv
        · exact hinv.congr rfl rfl fun _ h => h

/-- A turn of the reclaim on a job that is no snapshot job. -/
theorem reclaimJob_snapshotInv {clk : Clock} {job : WorkspaceJob} (hinv : SnapshotInv db)
    (hjob : db.jobs.lookup jid = some job) (hjt : job.jobType.isSnapshot = false) :
    SnapshotInv (reclaimJob cfg clk db jid) := by
  have hold : ∀ j, db.jobs.lookup jid = some j → j.jobType.isSnapshot = false := by
    intro j hj
    rw [hjob] at hj
    obtain rfl := Option.some.inj hj
    exact hjt
  have howned := hinv.owned hjob
  have h := reclaimJob_effect cfg clk hjob
  generalize reclaimJob cfg clk db jid = db' at h
  cases h with
  | requeued hsame _ _ =>
      exact hinv.insert_job rfl rfl (fun _ h => h) (by rw [hsame.1]; exact howned)
        (by rw [hsame.2]; exact hjt) hold
  | failedAlone hsame _ _ =>
      exact hinv.insert_job rfl rfl (fun _ h => h) (by rw [hsame.1]; exact howned)
        (by rw [hsame.2]; exact hjt) hold
  | failedWithWorkspace hsame _ _ _ hjobs _ hsnaps hst _ =>
      have hws : ∀ w, (db.workspaces.lookup w).isSome → (db'.workspaces.lookup w).isSome := by
        intro w hw
        have hstw := hst w
        split at hstw
        · rw [← Option.isSome_map (f := (·.status)), hstw]
          rfl
        · rw [← Option.isSome_map (f := (·.status)), hstw, Option.isSome_map]
          exact hw
      exact hinv.insert_job hjobs hsnaps hws (by rw [hsame.1]; exact hws _ howned)
        (by rw [hsame.2]; exact hjt) hold

end Executions

/-! ## Runs -/

/-- No snapshot job ends its last attempt before its body. -/
def SnapshotJobsReachBody (cfg : Settings) (db : Db) : FaultStep → Prop
  | .tick st => OnExecution (fun _ inp s => s.job.jobType.isSnapshot = true →
      failsEarly cfg inp s = true → attemptsRemain cfg s.job = true) db st
  | .workerDies _ _ _ _ => True

theorem snapshotInv_faultStep {cfg : Settings} {db : Db} {st : FaultStep} (hinv : SnapshotInv db)
    (hst : SnapshotJobsReachBody cfg db st) : SnapshotInv (faultStep cfg db st) := by
  cases st with
  | workerDies entry inp point jid => exact dieDuringJob_snapshotInv hinv
  | tick st =>
      have h := tick_effect cfg db st
      show SnapshotInv (step cfg db st)
      generalize step cfg db st = db' at h
      cases h with
      | intent h _ => exact h.snapshotInv hinv
      | executed hex h => exact h.snapshotInv hinv fun s hs => hst _ hex s hs
      | drained _ => exact drainPendingCleanupTasks_snapshotInv hinv _
      | reclaimed _ =>
          refine reclaimStuckRunningJobs_keeps hinv fun _ _ j job h hj hrun hjob hsame => ?_
          refine reclaimJob_snapshotInv h hjob ?_
          rw [hsame.2]
          exact Bool.eq_false_iff.mpr fun hjt => hinv.idle hj hjt hrun

/-- **Snapshot rows settle**: in every run of requests, executions, drains, reclaims and worker
deaths whose snapshot jobs all reach their body or keep an attempt, every `CREATING` and every
`RESTORING` row of every state reached still has its open job. -/
theorem snapshot_rows_settle {cfg : Settings} (nodes : Table Nat ExecutionNode)
    (topologies : List Int) {steps : List FaultStep}
    (hsteps : Along (faultStep cfg) (SnapshotJobsReachBody cfg) (initDb nodes topologies) steps) :
    Always (faultStep cfg) SnapshotsSettle (initDb nodes topologies) steps := by
  have h0 : SnapshotInv (initDb nodes topologies) := by
    refine ⟨fun sid snap h => ?_, fun h => ?_, fun h => ?_, fun h => ?_⟩
    all_goals simp [initDb] at h
  have hinv : Always (faultStep cfg) SnapshotInv (initDb nodes topologies) steps :=
    always_of_along h0 (fun db st h hst => snapshotInv_faultStep h hst) hsteps
  exact hinv.mono fun _ h => h.settle

/-- A workspace is up and a snapshot of it requested. -/
def snapshotRequested : List FaultStep :=
  [.tick (.createWorkspace { now := 10 } 7 "demo" {}),
   .tick (.processNextQueuedJob (sampleWorker 20 sampleOrch) 1),
   .tick (.createSnapshot { now := 30 } 1 7)]

/-- Attempts of the snapshot job by workers that cannot reach the node. -/
def snapshotAttempts : List Nat → List FaultStep :=
  List.map fun now => .tick (.processNextQueuedJob { unreachableWorker with clk := { now := now } } 2)

/-- The first attempt fails before the body and is repeated: the row still has its job. -/
theorem failed_snapshot_attempt_keeps_job :
    Always (faultStep {}) SnapshotsSettle sampleDb (snapshotRequested ++ snapshotAttempts [100]) ∧
      ((run (faultStep {}) sampleDb (snapshotRequested ++ snapshotAttempts [100])).snapshots.lookup
        1).map (·.status) = some .creating := by
  have hpass : ∀ (db : Db) (st : Step),
      st.claimPasses (fun _ s => !s.job.jobType.isSnapshot || attemptsRemain {} s.job) db = true →
      SnapshotJobsReachBody {} db (.tick st) := by
    intro db st h
    refine OnExecution.of_claimPasses (C := fun _ inp s => s.job.jobType.isSnapshot = true →
      failsEarly {} inp s = true → attemptsRemain {} s.job = true) ?_ db st h
    intro _ _ s hs hsnap _
    rw [hsnap] at hs
    simpa using hs
  refine ⟨snapshot_rows_settle _ _ ⟨?_, ?_, ?_, ?_, trivial⟩, by decide +kernel⟩
  · exact hpass _ _ rfl
  · exact hpass _ _ (by decide +kernel)
  · exact hpass _ _ rfl
  · exact hpass _ _ (by decide +kernel)

/-- The second attempt is the last one: the job is `FAILED`, the row `CREATING` for ever. -/
theorem failed_snapshot_leaves_row_creating :
    ¬ ∀ (cfg : Settings) (nodes : Table Nat ExecutionNode) (topologies : List Int)
        (steps : List FaultStep),
      Always (faultStep cfg) SnapshotsSettle (initDb nodes topologies) steps := by
  intro h
  have hend := (h {} (AList.insert 1 sampleNode ∅) [1]
    (snapshotRequested ++ snapshotAttempts [100, 1000])).last
  have hrow : ((run (faultStep {}) sampleDb (snapshotRequested ++ snapshotAttempts [100, 1000])
      ).snapshots.lookup 1) = some { workspaceId := 1, status := .creating } := by decide +kernel
  have hclosed : (Table.rows (run (faultStep {}) sampleDb (snapshotRequested ++
      snapshotAttempts [100, 1000])).jobs).all (fun j => !j.status.isOpen) = true := by
    decide +kernel
  obtain ⟨jid, job, hjob, -, hopen, -⟩ := (hend 1 _ hrow).1 rfl
  have hnot := List.all_eq_true.mp hclosed job (Table.mem_rows_iff.mpr ⟨jid, hjob⟩)
  rw [hopen] at hnot
  cases hnot

end Devnest
