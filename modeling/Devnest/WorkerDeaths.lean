import Devnest.Steps

/-!
# Workers that die

The topology adapter commits the worker's session in the middle of a job:
from there on the claim is visible as `RUNNING`. A worker that dies after
such a commit leaves the job row `RUNNING` and whatever its session had
written so far, and `reclaim_stuck_running_jobs` finds it later.

`FaultStep` adds such deaths to the steps of the system. Snapshot and import
jobs never call the adapter, so only their whole transactions are seen.
-/

namespace Devnest

open Runs

/-! ## The session at a commit of the adapter -/

/-- Where the adapter commits: while the orchestrator works for the job itself, or during a
reconcile's cleanup pass after some turns of its loop. -/
inductive CommitPoint where
  | job
  | cleanup (turns : Nat)
  deriving DecidableEq, Repr

/-- The cleanup pass of a reconcile, cut off after `turns` tasks. -/
def cleanupTurns (inp : ReconcileInput) (turns : Nat) (s : Session) : Session :=
  let c := (s.tasks.pendingScopes.take turns).foldl
    (cleanupTaskTurn s.wid s.ws.status inp.orch.cleanupStop) ⟨s.rt, s.tasks, s.trace⟩
  { s with rt := c.rt, tasks := c.tasks, trace := c.trace }

section Deaths

variable (cfg : Settings) (inp : WorkerInput)

/-- The session when the adapter commits, for a job whose orchestrator has been built. -/
def sessionInBody (point : CommitPoint) (s : Session) : Option Session :=
  match s.job.jobType with
  | .create | .start => if (runtimeOverridesError (s.config.getD {})).isSome then none else some s
  | .stop | .delete | .restart | .update => some s
  | .reconcileRuntime =>
      if !inp.lockAcquired then none
      else match point with
        | .cleanup turns => some (cleanupTurns inp.reconcile turns s)
        | .job => if s.ws.status.isBusy then none else some (cleanupPass inp.reconcile s)
  | .snapshotCreate | .snapshotRestore | .repoImport => none

/-- The session of a claimed job when the adapter commits, if the job gets that far. -/
def sessionAtCommit (entry : EntryPoint) (point : CommitPoint) (s : Session) : Option Session :=
  if entry = .runPendingJobs && s.job.jobType = .delete && s.rt.isNone then none
  else match resolveOrchestratorPlacement cfg inp.placement s, inp.binding with
    | .ok _, .bound => sessionInBody inp point (beginCreateBringupAfterPlacement s)
    | _, _ => none

/-- The worker claims `jid`, the adapter commits, and the worker dies. -/
def dieDuringJob (entry : EntryPoint) (point : CommitPoint) (jid : Nat) (db : Db) : Db :=
  match (claimJob inp jid db).bind (sessionAtCommit cfg inp entry point) with
  | none => db
  | some s => s.commit jid db

/-- What such a commit can hold: the claimed rows, a `CREATING` workspace, or a cleanup pass. -/
inductive AtCommit (s : Session) : Session → Prop
  | begun : AtCommit s (beginCreateBringupAfterPlacement s)
  | cleaning (turns : Nat) : AtCommit s (cleanupTurns inp.reconcile turns s)
  | cleaned : AtCommit s (cleanupPass inp.reconcile s)

theorem sessionAtCommit_cases {entry : EntryPoint} {point : CommitPoint} {s s' : Session}
    (h : sessionAtCommit cfg inp entry point s = some s') : AtCommit inp s s' := by
  have hbegun : ∀ t, some (beginCreateBringupAfterPlacement s) = some t → AtCommit inp s t := by
    intro t ht
    obtain rfl := Option.some.inj ht
    exact .begun
  unfold sessionAtCommit at h
  split at h
  · cases h
  · split at h
    · cases hjt : (beginCreateBringupAfterPlacement s).job.jobType with
      | reconcileRuntime =>
          have hsjt : s.job.jobType = .reconcileRuntime := by
            rw [(beginCreate_fields s).1] at hjt
            exact hjt
          rw [beginCreate_of_aux (by rw [hsjt]; rfl)] at h
          simp only [sessionInBody, hsjt] at h
          split at h
          · cases h
          · split at h
            · obtain rfl := Option.some.inj h
              exact .cleaning _
            · split at h
              · cases h
              · obtain rfl := Option.some.inj h
                exact .cleaned
      | create | start =>
          simp only [sessionInBody, hjt] at h
          split at h
          · cases h
          · exact hbegun _ h
      | stop | delete | restart | update =>
          simp only [sessionInBody, hjt] at h
          exact hbegun _ h
      | snapshotCreate | snapshotRestore | repoImport =>
          simp only [sessionInBody, hjt] at h
          cases h
    · cases h

/-- The commit is about the claimed job and its workspace. -/
theorem AtCommit.target {s s' : Session} (h : AtCommit inp s s') :
    s'.wid = s.wid ∧ s'.job = s.job ∧ s'.snapshots = s.snapshots ∧
      (s'.ws.status = s.ws.status ∨ s'.ws.status = .creating) := by
  cases h with
  | begun =>
      obtain ⟨hf, hst⟩ := beginCreate_fields s
      refine ⟨by rw [hf], by rw [hf], by rw [hf], ?_⟩
      rcases hst with hst | ⟨-, -, hst⟩
      · exact .inl hst
      · exact .inr hst
  | cleaning turns => exact ⟨rfl, rfl, rfl, .inl rfl⟩
  | cleaned => exact ⟨rfl, rfl, rfl, .inl rfl⟩

end Deaths

/-! ## Steps with deaths -/

inductive FaultStep where
  | tick (st : Step)
  | workerDies (entry : EntryPoint) (inp : WorkerInput) (point : CommitPoint) (jid : Nat)

def faultStep (cfg : Settings) (db : Db) : FaultStep → Db
  | .tick st => step cfg db st
  | .workerDies entry inp point jid => dieDuringJob cfg inp entry point jid db

/-! ## The reclaim, row by row -/

/-- What one turn of the reclaim does to a stuck job and its workspace. -/
inductive ReclaimEffect (jid : Nat) (job : WorkspaceJob) (db : Db) : Db → Prop
  | requeued {j : WorkspaceJob} (hsame : SameJob job j) (hsnap : j.workspaceSnapshotId = job.workspaceSnapshotId)
      (hj : j.status = .queued) :
      ReclaimEffect jid job db { db with jobs := db.jobs.insert jid j }
  | failedAlone {j : WorkspaceJob} (hsame : SameJob job j) (hj : j.status = .failed)
      (hlife : job.jobType.isLifecycle = false ∨ db.workspaces.lookup job.workspaceId = none) :
      ReclaimEffect jid job db { db with jobs := db.jobs.insert jid j }
  | failedWithWorkspace {j : WorkspaceJob} {ws : Workspace} {db' : Db} (hsame : SameJob job j)
      (hj : j.status = .failed) (hlife : job.jobType.isLifecycle = true)
      (hws : db.workspaces.lookup job.workspaceId = some ws)
      (hjobs : db'.jobs = db.jobs.insert jid j) (hconf : db'.configs = db.configs)
      (hsnaps : db'.snapshots = db.snapshots)
      (hst : ∀ w, (db'.workspaces.lookup w).map (·.status) =
        if w = job.workspaceId then some .error else (db.workspaces.lookup w).map (·.status))
      (hrt : ∀ w, db'.runtimes.lookup w = if w = job.workspaceId then
        clearRuntimeCapacityReservation (db.runtimes.lookup w) else db.runtimes.lookup w) :
      ReclaimEffect jid job db db'

theorem reclaimJob_effect (cfg : Settings) (clk : Clock) {db : Db} {jid : Nat} {job : WorkspaceJob}
    (hjob : db.jobs.lookup jid = some job) :
    ReclaimEffect jid job db (reclaimJob cfg clk db jid) := by
  unfold reclaimJob
  simp only [hjob]
  split
  · rename_i j hj
    unfold tryScheduleWorkspaceJobRetry at hj
    split at hj
    · obtain rfl := Option.some.inj hj
      exact .requeued ⟨rfl, rfl⟩ rfl rfl
    · cases hj
  · split
    · rename_i ws _ hws hlife
      refine .failedWithWorkspace ?_ ?_ hlife hws rfl rfl rfl (fun w => ?_) (fun w => ?_)
      · exact ⟨rfl, rfl⟩
      · exact rfl
      · simp only [Table.lookup_insert_eq]
        split <;> rfl
      · cases hclear : clearRuntimeCapacityReservation (db.runtimes.lookup job.workspaceId) with
        | some r =>
            simp only [Table.lookup_insert_eq]
            split
            · rename_i hw; rw [hw, hclear]
            · rfl
        | none =>
            simp only
            split
            · rename_i hw
              subst hw
              rw [hclear]
              exact Option.map_eq_none_iff.mp hclear
            · rfl
    · rename_i hnot
      refine .failedAlone ⟨rfl, rfl⟩ rfl ?_
      cases hlife : job.jobType.isLifecycle with
      | false => exact .inl rfl
      | true =>
          right
          cases hws : db.workspaces.lookup job.workspaceId with
          | none => rfl
          | some ws => exact (hnot ws hws hlife).elim

/-- A turn changes no job's workspace or type. -/
theorem reclaimJob_sameJob (cfg : Settings) (clk : Clock) {db : Db} (jid : Nat) {k : Nat}
    {j : WorkspaceJob} (hj : db.jobs.lookup k = some j) :
    ∃ j', (reclaimJob cfg clk db jid).jobs.lookup k = some j' ∧ SameJob j j' := by
  cases hjob : db.jobs.lookup jid with
  | none => exact ⟨j, by simp [reclaimJob, hjob, hj], .refl j⟩
  | some job =>
      have hinsert : ∀ j', SameJob job j' → ∃ j'', (db.jobs.insert jid j').lookup k = some j'' ∧
          SameJob j j'' := by
        intro j' hsame
        by_cases hk : k = jid
        · subst hk
          rw [hjob] at hj
          obtain rfl := Option.some.inj hj
          exact ⟨j', by simp, hsame⟩
        · exact ⟨j, by simp [hk, hj], .refl j⟩
      have h := reclaimJob_effect cfg clk hjob
      generalize reclaimJob cfg clk db jid = db' at h
      cases h with
      | requeued hsame _ _ => exact hinsert _ hsame
      | failedAlone hsame _ _ => exact hinsert _ hsame
      | failedWithWorkspace hsame _ _ _ hjobs _ _ _ _ =>
          rw [hjobs]
          exact hinsert _ hsame

/-- A property that every turn on a stuck job keeps is kept by the reclaim. -/
theorem reclaimStuckRunningJobs_keeps {Q : Db → Prop} {cfg : Settings} {clk : Clock} {db : Db}
    (h0 : Q db)
    (hturn : ∀ db' jid j job, Q db' → db.jobs.lookup jid = some j → j.status = .running →
      db'.jobs.lookup jid = some job → SameJob j job → Q (reclaimJob cfg clk db' jid)) :
    Q (reclaimStuckRunningJobs cfg clk db) := by
  have hfold : ∀ (l : List Nat) (db' : Db), Q db' →
      (∀ jid ∈ l, ∃ j job, db.jobs.lookup jid = some j ∧ j.status = .running ∧
        db'.jobs.lookup jid = some job ∧ SameJob j job) →
      Q (l.foldl (reclaimJob cfg clk) db') := by
    intro l
    induction l with
    | nil => exact fun db' h _ => h
    | cons jid l ih =>
        intro db' h hl
        obtain ⟨j, job, hj, hrun, hjob, hsame⟩ := hl jid (List.mem_cons_self ..)
        refine ih _ (hturn db' jid j job h hj hrun hjob hsame) fun k hk => ?_
        obtain ⟨j', job', hj', hrun', hjob', hsame'⟩ := hl k (List.mem_cons_of_mem _ hk)
        obtain ⟨job'', hjob'', hsame''⟩ := reclaimJob_sameJob cfg clk jid hjob'
        exact ⟨j', job'', hj', hrun', hjob'', hsame'.trans hsame''⟩
  unfold reclaimStuckRunningJobs
  split
  · exact h0
  · refine hfold _ db h0 fun jid hjid => ?_
    obtain ⟨e, he, rfl⟩ := List.mem_map.mp (List.mem_of_mem_take hjid)
    obtain ⟨hmem, hstuck⟩ := List.mem_filter.mp he
    have hlook := AList.mem_lookup_iff.mpr hmem
    simp only [isStuckRunning, Bool.and_eq_true, decide_eq_true_eq] at hstuck
    exact ⟨e.2, e.2, hlook, hstuck.1, hlook, .refl e.2⟩

end Devnest
