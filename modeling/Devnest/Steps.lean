import Devnest.AuxOutcomes

/-!
# What one step can do

The inversion lemmas of the system: `IntentEffect` for the requests,
`runJob_effect` for job executions, and what the drain and the reclaim
leave alone. Every invariant over runs is proved from these, without
unfolding a request or the worker.

Between two steps no job is `RUNNING` and every job has its workspace
(`WellFormed`), so the reclaim of stuck jobs finds nothing to do.
-/

namespace Devnest

/-! ## Rows after a commit -/

section Commit

variable (s : Session) (jid : Nat) (db : Db)

@[simp] theorem commit_workspaces_lookup (w : Nat) :
    (s.commit jid db).workspaces.lookup w =
      if w = s.wid then some s.ws else db.workspaces.lookup w := by
  simp [Session.commit]

@[simp] theorem commit_jobs : (s.commit jid db).jobs = db.jobs.insert jid s.job := rfl

@[simp] theorem commit_trace : (s.commit jid db).trace = s.trace ++ db.trace := rfl

@[simp] theorem commit_runtimes_lookup (w : Nat) :
    (s.commit jid db).runtimes.lookup w = if w = s.wid then s.rt else db.runtimes.lookup w := by
  unfold Session.commit
  cases hrt : s.rt with
  | some r => simp
  | none =>
      by_cases h : w = s.wid
      · subst h; simp
      · simp [h]

@[simp] theorem commit_tasksOf (w : Nat) :
    (s.commit jid db).tasksOf w = if w = s.wid then s.tasks else db.tasksOf w := by
  unfold Db.tasksOf Session.commit
  by_cases h : w = s.wid <;> simp [h]

end Commit

/-! ## Requests -/

theorem bind_eq_ok {ε α β : Type} {x : Except ε α} {f : α → Except ε β} {b : β} :
    (x >>= f) = .ok b ↔ ∃ a, x = .ok a ∧ f a = .ok b := by
  cases x with
  | ok a => simp [Bind.bind, Except.bind]
  | error e => simp [Bind.bind, Except.bind]

/-- What a request with `job` does to the snapshot rows. -/
inductive SnapshotRequest (db : Db) (job : WorkspaceJob) : Table Nat WorkspaceSnapshot → Prop
  | none (hjt : job.jobType.isSnapshot = false) : SnapshotRequest db job db.snapshots
  | create (hjt : job.jobType = .snapshotCreate)
      (hsid : job.workspaceSnapshotId = some (Table.freshKey db.snapshots)) :
      SnapshotRequest db job (db.snapshots.insert (Table.freshKey db.snapshots)
        { workspaceId := job.workspaceId, status := .creating })
  | restore {sid : Nat} {snap : WorkspaceSnapshot} {ws : Workspace}
      (hjt : job.jobType = .snapshotRestore) (hsid : job.workspaceSnapshotId = some sid)
      (hsnap : db.snapshots.lookup sid = some snap) (hwid : snap.workspaceId = job.workspaceId)
      (hav : snap.status = .available) (hws : db.workspaces.lookup job.workspaceId = some ws)
      (hst : ws.status = .stopped) (hpend : pendingSnapshotJobs db job.workspaceId = false) :
      SnapshotRequest db job (db.snapshots.insert sid { snap with status := .restoring })

/-- What a request does to the tables. -/
inductive IntentEffect (db : Db) : Db → Prop
  | refused : IntentEffect db db
  | lifecycle {wid : Nat} {ws : Workspace} {st : WorkspaceStatus} {job : WorkspaceJob}
      {configs : Table (Nat × Nat) WorkspaceConfig} (hws : db.workspaces.lookup wid = some ws)
      (hidle : ws.status.isBusy = false) (hst : st.isBusy = true)
      (hdel : ws.status = .deleted → st = .deleting) (hwid : job.workspaceId = wid)
      (hjt : job.jobType.isLifecycle = true) (hq : job.status = .queued ∧ job.attempt = 0) :
      IntentEffect db ({ db with
        workspaces := db.workspaces.insert wid { ws with status := st }, configs := configs }.queueJob job)
  | created {ws : Workspace} {job : WorkspaceJob} {configs : Table (Nat × Nat) WorkspaceConfig}
      (hst : ws.status = .pending ∨ ws.status = .creating)
      (hwid : job.workspaceId = Table.freshKey db.workspaces)
      (hjt : job.jobType.isLifecycle = true) (hq : job.status = .queued ∧ job.attempt = 0) :
      IntentEffect db ({ db with
        workspaces := db.workspaces.insert (Table.freshKey db.workspaces) ws
        configs := configs }.queueJob job)
  | queued {ws : Workspace} {job : WorkspaceJob} {snapshots : Table Nat WorkspaceSnapshot}
      (hws : db.workspaces.lookup job.workspaceId = some ws)
      (hjt : job.jobType.isLifecycle = false) (hq : job.status = .queued ∧ job.attempt = 0)
      (hsnaps : SnapshotRequest db job snapshots) :
      IntentEffect db ({ db with snapshots := snapshots }.queueJob job)

section Intents

variable {db db' : Db} {inp : IntentInput} {wid owner user : Nat}

theorem getOwnedWorkspace_ok {includeDeleted : Bool} {ws : Workspace}
    (h : getOwnedWorkspace db wid owner includeDeleted = .ok ws) :
    db.workspaces.lookup wid = some ws ∧ (includeDeleted = false → ws.status ≠ .deleted) := by
  unfold getOwnedWorkspace at h
  split at h
  · cases h
  · rename_i ws' hws
    split at h
    · cases h
    · split at h
      · cases h
      · rename_i hdel
        cases h
        exact ⟨hws, fun hi hst => hdel (by simp [hi, hst])⟩

theorem requireNotBusy_ok {ws : Workspace} {u : Unit} (h : requireNotBusy ws = .ok u) :
    ws.status.isBusy = false := by
  unfold requireNotBusy at h
  split at h
  · cases h
  · rename_i hb; simpa using hb

theorem persistIntent_ok {ws : Workspace} {st : WorkspaceStatus} {jt : WorkspaceJobType}
    {version : Nat} (h : persistIntent db inp wid ws st jt user version = .ok db') :
    db' = { db with workspaces := db.workspaces.insert wid { ws with status := st } }.queueJob
      (newJob inp wid user jt version) := by
  unfold persistIntent at h
  split at h
  · obtain ⟨_, _, h⟩ := bind_eq_ok.mp h
    exact (Except.ok.inj h).symm
  · exact (Except.ok.inj h).symm

/-- The four intents that end in `persistIntent`. -/
theorem persistIntent_effect {ws : Workspace} {st : WorkspaceStatus} {jt : WorkspaceJobType}
    {version : Nat} (hws : db.workspaces.lookup wid = some ws) (hidle : ws.status.isBusy = false)
    (hst : st.isBusy = true) (hdel : ws.status = .deleted → st = .deleting)
    (hjt : jt.isLifecycle = true)
    (h : persistIntent db inp wid ws st jt user version = .ok db') : IntentEffect db db' := by
  rw [persistIntent_ok h]
  exact .lifecycle hws hidle hst hdel rfl hjt ⟨rfl, rfl⟩

theorem requestStartWorkspace_effect (h : requestStartWorkspace db inp wid owner user = .ok db') :
    IntentEffect db db' := by
  obtain ⟨ws, hown, h⟩ := bind_eq_ok.mp h
  obtain ⟨_, hb, h⟩ := bind_eq_ok.mp h
  obtain ⟨_, -, h⟩ := bind_eq_ok.mp h
  obtain ⟨_, -, h⟩ := bind_eq_ok.mp h
  obtain ⟨_, -, h⟩ := bind_eq_ok.mp h
  obtain ⟨hws, hnd⟩ := getOwnedWorkspace_ok hown
  exact persistIntent_effect hws (requireNotBusy_ok hb) rfl (fun hd => absurd hd (hnd rfl)) rfl h

theorem requestStopWorkspace_effect (h : requestStopWorkspace db inp wid owner user = .ok db') :
    IntentEffect db db' := by
  obtain ⟨ws, hown, h⟩ := bind_eq_ok.mp h
  obtain ⟨_, hb, h⟩ := bind_eq_ok.mp h
  obtain ⟨_, -, h⟩ := bind_eq_ok.mp h
  obtain ⟨_, -, h⟩ := bind_eq_ok.mp h
  obtain ⟨hws, hnd⟩ := getOwnedWorkspace_ok hown
  exact persistIntent_effect hws (requireNotBusy_ok hb) rfl (fun hd => absurd hd (hnd rfl)) rfl h

theorem requestRestartWorkspace_effect
    (h : requestRestartWorkspace db inp wid owner user = .ok db') : IntentEffect db db' := by
  obtain ⟨ws, hown, h⟩ := bind_eq_ok.mp h
  obtain ⟨_, hb, h⟩ := bind_eq_ok.mp h
  obtain ⟨_, -, h⟩ := bind_eq_ok.mp h
  obtain ⟨_, -, h⟩ := bind_eq_ok.mp h
  obtain ⟨_, -, h⟩ := bind_eq_ok.mp h
  obtain ⟨hws, hnd⟩ := getOwnedWorkspace_ok hown
  exact persistIntent_effect hws (requireNotBusy_ok hb) rfl (fun hd => absurd hd (hnd rfl)) rfl h

theorem requestDeleteWorkspace_effect (h : requestDeleteWorkspace db inp wid owner user = .ok db') :
    IntentEffect db db' := by
  obtain ⟨ws, hown, h⟩ := bind_eq_ok.mp h
  obtain ⟨_, hb, h⟩ := bind_eq_ok.mp h
  obtain ⟨_, -, h⟩ := bind_eq_ok.mp h
  obtain ⟨_, -, h⟩ := bind_eq_ok.mp h
  obtain ⟨hws, -⟩ := getOwnedWorkspace_ok hown
  exact persistIntent_effect hws (requireNotBusy_ok hb) rfl (fun _ => rfl) rfl h

theorem requestUpdateWorkspace_effect {config : WorkspaceConfig}
    (h : requestUpdateWorkspace db inp wid owner user config = .ok db') : IntentEffect db db' := by
  obtain ⟨ws, hown, h⟩ := bind_eq_ok.mp h
  obtain ⟨_, hb, h⟩ := bind_eq_ok.mp h
  obtain ⟨_, -, h⟩ := bind_eq_ok.mp h
  obtain ⟨_, -, h⟩ := bind_eq_ok.mp h
  obtain ⟨hws, hnd⟩ := getOwnedWorkspace_ok hown
  rw [← Except.ok.inj h]
  exact .lifecycle hws (requireNotBusy_ok hb) rfl (fun hd => absurd hd (hnd rfl)) rfl rfl ⟨rfl, rfl⟩

theorem createWorkspace_effect {name : String} {config : WorkspaceConfig}
    (h : createWorkspace db inp owner name config = .ok db') : IntentEffect db db' := by
  obtain ⟨_, -, h⟩ := bind_eq_ok.mp h
  rw [← Except.ok.inj h]
  exact .created (.inl rfl) rfl rfl ⟨rfl, rfl⟩

theorem createOperatorPinnedTestWorkspace_effect {cfg : Settings} {executionNodeId : Nat}
    {suffix : String} {config : WorkspaceConfig}
    (h : createOperatorPinnedTestWorkspace cfg db inp owner executionNodeId suffix config =
      .ok db') : IntentEffect db db' := by
  obtain ⟨_, -, h⟩ := bind_eq_ok.mp h
  obtain ⟨_, -, h⟩ := bind_eq_ok.mp h
  rw [← Except.ok.inj h]
  exact .created (.inr rfl) rfl rfl ⟨rfl, rfl⟩

theorem enqueueReconcileRuntimeJob_effect {cfg : Settings}
    (h : enqueueReconcileRuntimeJob cfg db inp wid = .ok db') : IntentEffect db db' := by
  unfold enqueueReconcileRuntimeJob at h
  split at h
  · cases h
  · rename_i ws hws
    obtain ⟨_, -, h⟩ := bind_eq_ok.mp h
    obtain ⟨_, -, h⟩ := bind_eq_ok.mp h
    obtain ⟨_, -, h⟩ := bind_eq_ok.mp h
    obtain ⟨_, -, h⟩ := bind_eq_ok.mp h
    rw [← Except.ok.inj h]
    exact .queued hws rfl ⟨rfl, rfl⟩ (.none rfl)

theorem createSnapshot_effect (h : createSnapshot db inp wid owner = .ok db') :
    IntentEffect db db' := by
  obtain ⟨ws, hown, h⟩ := bind_eq_ok.mp h
  obtain ⟨_, -, h⟩ := bind_eq_ok.mp h
  obtain ⟨hws, -⟩ := getOwnedWorkspace_ok hown
  split at h
  · obtain ⟨_, hbad, -⟩ := bind_eq_ok.mp h
    cases hbad
  · obtain ⟨_, -, h⟩ := bind_eq_ok.mp h
    rw [← Except.ok.inj h]
    exact .queued hws rfl ⟨rfl, rfl⟩ (.create rfl rfl)

theorem restoreSnapshot_effect {sid : Nat} (h : restoreSnapshot db inp sid owner = .ok db') :
    IntentEffect db db' := by
  unfold restoreSnapshot at h
  split at h
  · cases h
  · rename_i snap hsnap
    split at h
    · cases h
    · rename_i ws hws
      split at h
      · cases h
      · split at h
        · cases h
        · rename_i hav
          split at h
          · cases h
          · rename_i hst
            split at h
            · cases h
            · rename_i hpend
              split at h
              · cases h
              · rw [← Except.ok.inj h]
                refine .queued hws rfl ⟨rfl, rfl⟩ (.restore rfl rfl hsnap rfl ?_ hws ?_ ?_)
                · simpa using hav
                · simpa using hst
                · exact Bool.eq_false_iff.mpr hpend

theorem importRepo_effect (h : importRepo db inp wid owner = .ok db') : IntentEffect db db' := by
  obtain ⟨ws, hown, h⟩ := bind_eq_ok.mp h
  obtain ⟨hws, -⟩ := getOwnedWorkspace_ok hown
  split at h
  · obtain ⟨_, hbad, -⟩ := bind_eq_ok.mp h
    cases hbad
  · rw [← Except.ok.inj h]
    exact .queued hws rfl ⟨rfl, rfl⟩ (.none rfl)

theorem accepted_effect {r : Except IntentError Db} (h : ∀ db', r = .ok db' → IntentEffect db db') :
    IntentEffect db (accepted db r) := by
  cases r with
  | ok db' => exact h db' rfl
  | error e => exact .refused

end Intents

/-! ## Job executions -/

/-- The session a claim of job `jid` starts from, when there is one to claim. -/
def claimJob (inp : WorkerInput) (jid : Nat) (db : Db) : Option Session :=
  match db.jobs.lookup jid with
  | none => none
  | some job =>
      if !queuedJobEligible inp.clk job then none
      else (db.workspaces.lookup job.workspaceId).map fun ws =>
        Session.load db (markJobRunning inp.clk job) ws

/-- What a claimed session holds. -/
structure Claimed (db : Db) (jid : Nat) (s : Session) : Prop where
  job : ∃ j, db.jobs.lookup jid = some j ∧ SameJob j s.job ∧ j.status = .queued
  target : s.job.workspaceId = s.wid
  ws : db.workspaces.lookup s.wid = some s.ws
  rt : s.rt = db.runtimes.lookup s.wid
  tasks : s.tasks = db.tasksOf s.wid
  trace : s.trace = []

theorem claimJob_claimed {inp : WorkerInput} {jid : Nat} {db : Db} {s : Session}
    (h : claimJob inp jid db = some s) : Claimed db jid s := by
  unfold claimJob at h
  split at h
  · cases h
  · rename_i job hjob
    split at h
    · cases h
    · rename_i helig
      obtain ⟨ws, hws, rfl⟩ := Option.map_eq_some_iff.mp h
      simp only [queuedJobEligible, Bool.not_eq_true, Bool.not_eq_false', Bool.and_eq_true,
        beq_iff_eq] at helig
      exact ⟨⟨job, hjob, ⟨rfl, rfl⟩, helig.1⟩, rfl, hws, rfl, rfl, rfl⟩

theorem runJob_of_claim {cfg : Settings} {entry : EntryPoint} {inp : WorkerInput} {jid : Nat}
    {db : Db} {s : Session} (hs : claimJob inp jid db = some s) :
    runJob cfg entry inp jid db =
      if (executeClaimedJob cfg inp entry s).committed then
        (executeClaimedJob cfg inp entry s).session.commit jid db
      else (executeClaimedJob cfg inp entry s).session.rollback db := by
  unfold claimJob at hs
  unfold runJob
  split at hs
  · cases hs
  · rename_i job hjob
    split at hs
    · cases hs
    · rename_i helig
      obtain ⟨ws, hws, rfl⟩ := Option.map_eq_some_iff.mp hs
      have hws' : db.workspaces.lookup (markJobRunning inp.clk job).workspaceId = some ws := hws
      simp only [hjob, if_neg helig, hws']

/-- How an execution of any job can end. -/
inductive JobEnd (inp : WorkerInput) (s s' : Session) : Prop
  | lifecycle (hjt : s.job.jobType.isLifecycle = true) (h : LifecycleEnd inp s s')
  | aux (hjt : s.job.jobType.isLifecycle = false) (h : AuxEnd inp s s')

theorem JobEnd.target {inp : WorkerInput} {s s' : Session} (h : JobEnd inp s s') :
    s'.wid = s.wid ∧ SameJob s.job s'.job := by
  cases h with
  | lifecycle _ h => exact h.target inp
  | aux _ h => exact h.target

theorem JobEnd.not_running {inp : WorkerInput} {s s' : Session} (h : JobEnd inp s s') :
    s'.job.status ≠ .running := by
  cases h with
  | lifecycle _ h =>
      rcases h.ends inp with ⟨hj, -⟩ | ⟨hj | hj, -⟩ <;> simp [hj]
  | aux _ h =>
      rcases h.status with hk | hs
      · exact hk.1
      · simp [hs.1]

/-- What claiming and running job `jid` does to the tables. -/
inductive ExecEffect (cfg : Settings) (entry : EntryPoint) (inp : WorkerInput) (jid : Nat) (db : Db) :
    Db → Prop
  | idle (hs : claimJob inp jid db = none) : ExecEffect cfg entry inp jid db db
  | orphan {job j : WorkspaceJob} (hs : claimJob inp jid db = none)
      (hjob : db.jobs.lookup jid = some job) (hws : db.workspaces.lookup job.workspaceId = none)
      (hj : j.status = .failed) :
      ExecEffect cfg entry inp jid db { db with jobs := db.jobs.insert jid j }
  | committed {s : Session} (hs : claimJob inp jid db = some s)
      (hc : (executeClaimedJob cfg inp entry s).committed = true)
      (h : JobEnd inp s (executeClaimedJob cfg inp entry s).session) :
      ExecEffect cfg entry inp jid db ((executeClaimedJob cfg inp entry s).session.commit jid db)
  | rolledBack {s t : Session} (hs : claimJob inp jid db = some s)
      (hc : (executeClaimedJob cfg inp entry s).committed = false) (ht : Cleaned s t) :
      ExecEffect cfg entry inp jid db { db with trace := t.trace.filter Event.isCall ++ db.trace }

theorem runJob_effect (cfg : Settings) (entry : EntryPoint) (inp : WorkerInput) (jid : Nat) (db : Db) :
    ExecEffect cfg entry inp jid db (runJob cfg entry inp jid db) := by
  unfold runJob
  split
  · rename_i hjob
    exact .idle (by simp [claimJob, hjob])
  · rename_i job hjob
    split
    · rename_i helig
      exact .idle (by simp only [claimJob, hjob, helig, if_true])
    · rename_i helig
      simp only
      split
      · rename_i hws
        exact .orphan (by simp only [claimJob, hjob, helig, Bool.false_eq_true, if_false];
                          exact Option.map_eq_none_iff.mpr hws) hjob hws rfl
      · rename_i ws hws
        have hs : claimJob inp jid db =
            some (Session.load db (markJobRunning inp.clk job) ws) := by
          simp only [claimJob, hjob, helig, Bool.false_eq_true, if_false]
          exact Option.map_eq_some_iff.mpr ⟨ws, hws, rfl⟩
        generalize Session.load db (markJobRunning inp.clk job) ws = s at hs ⊢
        split
        · rename_i hc
          refine .committed hs hc ?_
          cases hjt : s.job.jobType.isLifecycle with
          | true => exact .lifecycle hjt (executeClaimedJob_lifecycle cfg inp hjt hc)
          | false => exact .aux hjt ((executeClaimedJob_aux cfg inp entry hjt).1 hc)
        · rename_i hc
          have hc := Bool.eq_false_iff.mpr hc
          unfold Session.rollback
          cases hjt : s.job.jobType.isLifecycle with
          | true =>
              rw [executeClaimedJob_lifecycle_trace cfg inp hjt hc]
              exact .rolledBack hs hc (.refl s)
          | false =>
              obtain ⟨t, ht, htr⟩ := (executeClaimedJob_aux cfg inp entry hjt).2 hc
              rw [htr]
              exact .rolledBack hs hc ht

/-! ## The drain -/

/-- What the drain does: no status, no job, no placement, no new debt; each call is for a
task that was pending, at the status of that moment. -/
structure DrainEffect (db db' : Db) : Prop where
  workspaces : db'.workspaces = db.workspaces
  jobs : db'.jobs = db.jobs
  rows : ∀ w, (db'.runtimes.lookup w).map (·.placement) = (db.runtimes.lookup w).map (·.placement)
  pending : ∀ w sc, (db'.tasksOf w).isPending sc = true → (db.tasksOf w).isPending sc = true
  calls : ∃ new, db'.trace = new ++ db.trace ∧ ∀ e ∈ new, ∃ w sc ws,
    e = .cleanupStop w sc ws.status ∧ db.workspaces.lookup w = some ws ∧
      (db.tasksOf w).isPending sc = true

theorem DrainEffect.refl (db : Db) : DrainEffect db db :=
  ⟨rfl, rfl, fun _ => rfl, fun _ _ h => h, [], rfl, by simp⟩

theorem DrainEffect.trans {db db' db'' : Db} (h : DrainEffect db db') (h' : DrainEffect db' db'') :
    DrainEffect db db'' where
  workspaces := h'.workspaces.trans h.workspaces
  jobs := h'.jobs.trans h.jobs
  rows := fun w => (h'.rows w).trans (h.rows w)
  pending := fun w sc hp => h.pending w sc (h'.pending w sc hp)
  calls := by
    obtain ⟨new, htr, hnew⟩ := h.calls
    obtain ⟨new', htr', hnew'⟩ := h'.calls
    refine ⟨new' ++ new, by rw [htr', htr, List.append_assoc], fun e he => ?_⟩
    rcases List.mem_append.mp he with he | he
    · obtain ⟨w, sc, ws, rfl, hws, hp⟩ := hnew' e he
      exact ⟨w, sc, ws, rfl, h.workspaces ▸ hws, h.pending w sc hp⟩
    · exact hnew e he

theorem drainWorkspace_effect (db : Db) (ans : DrainAnswer) :
    DrainEffect db (drainWorkspace db ans) := by
  unfold drainWorkspace
  split
  · exact .refl db
  · rename_i ws hws
    split
    · exact .refl db
    · have heff := processDurableCleanupTasksForWorkspace_effect ans.wid ws.status ans.stop
        { rt := db.runtimes.lookup ans.wid, tasks := db.tasksOf ans.wid, trace := [] }
      generalize processDurableCleanupTasksForWorkspace ans.wid ws.status ans.stop
        { rt := db.runtimes.lookup ans.wid, tasks := db.tasksOf ans.wid, trace := [] } = c at heff
      obtain ⟨rt, tasks, trace⟩ := c
      obtain ⟨hrow, hpend, new, htr, hnew⟩ := heff
      refine ⟨rfl, rfl, fun w => ?_, fun w sc => ?_, trace, rfl, fun e he => ?_⟩
      · cases rt with
        | none => rfl
        | some r =>
            by_cases hw : w = ans.wid
            · subst hw; simpa using hrow
            · simp [hw]
      · intro hp
        by_cases hw : w = ans.wid
        · subst hw
          exact hpend sc (by simpa [Db.tasksOf] using hp)
        · simpa [Db.tasksOf, hw] using hp
      · rw [show trace = new by simpa using htr] at he
        obtain ⟨sc, rfl, hp⟩ := hnew e he
        exact ⟨ans.wid, sc, ws, rfl, hws, hp⟩

theorem drainPendingCleanupTasks_effect (db : Db) (answers : List DrainAnswer) :
    DrainEffect db (drainPendingCleanupTasks db answers) := by
  unfold drainPendingCleanupTasks
  induction answers generalizing db with
  | nil => exact .refl db
  | cons ans answers ih => exact (drainWorkspace_effect db ans).trans (ih _)

/-! ## Well-formed tables -/

/-- What holds between any two steps: jobs have workspaces and none is `RUNNING`. -/
structure WellFormed (db : Db) : Prop where
  owned : ∀ {jid job}, db.jobs.lookup jid = some job → (db.workspaces.lookup job.workspaceId).isSome
  idle : ∀ {jid job}, db.jobs.lookup jid = some job → job.status ≠ .running

/-- No job is `RUNNING`, so the reclaim selects none. -/
theorem reclaimStuckRunningJobs_eq {cfg : Settings} {clk : Clock} {db : Db} (h : WellFormed db) :
    reclaimStuckRunningJobs cfg clk db = db := by
  unfold reclaimStuckRunningJobs
  split
  · rfl
  · have hnil : db.jobs.entries.filter (fun e => isStuckRunning cfg clk e.2) = [] := by
      refine List.filter_eq_nil_iff.mpr fun e he => ?_
      have hne := h.idle (AList.mem_lookup_iff.mpr he)
      simp [isStuckRunning, hne]
    rw [hnil]
    rfl

/-! ## One step -/

/-- The execution a step asks for. -/
def Step.execution (db : Db) : Step → Option (EntryPoint × WorkerInput × Nat)
  | .processNextQueuedJob inp jid =>
      if isOldestQueued inp.clk db jid then some (.runPendingJobs, inp, jid) else none
  | .runQueuedWorkspaceJobById inp jid => some (.runQueuedWorkspaceJobById, inp, jid)
  | _ => none

/-- `C` holds of the session of the job a step runs, if it runs one. -/
def OnExecution (C : EntryPoint → WorkerInput → Session → Prop) (db : Db) (st : Step) : Prop :=
  ∀ x ∈ st.execution db, ∀ s ∈ claimJob x.2.1 x.2.2 db, C x.1 x.2.1 s

theorem OnExecution.of_none {C : EntryPoint → WorkerInput → Session → Prop} {db : Db} {st : Step}
    (h : st.execution db = none) : OnExecution C db st := by
  intro x hx
  rw [h] at hx
  cases hx

theorem OnExecution.of_claim {C : EntryPoint → WorkerInput → Session → Prop} {inp : WorkerInput}
    {db : Db} {jid : Nat} (h : ∀ s ∈ claimJob inp jid db, C .runPendingJobs inp s) :
    OnExecution C db (.processNextQueuedJob inp jid) := by
  intro x hx s hs
  simp only [Step.execution, Option.mem_def] at hx
  split at hx
  · obtain rfl := Option.some.inj hx
    exact h s hs
  · cases hx

/-- The session of the execution passes a test. -/
def Step.claimPasses (test : EntryPoint → Session → Bool) (db : Db) (st : Step) : Bool :=
  (st.execution db).all fun x => (claimJob x.2.1 x.2.2 db).all (test x.1)

theorem OnExecution.of_claimPasses {C : EntryPoint → WorkerInput → Session → Prop}
    {test : EntryPoint → Session → Bool}
    (hC : ∀ entry inp s, test entry s = true → C entry inp s) (db : Db) (st : Step)
    (h : st.claimPasses test db = true) : OnExecution C db st := by
  intro x hx s hs
  have hx' := Option.all_eq_true _ _ |>.mp h x hx
  exact hC _ _ s (Option.all_eq_true _ _ |>.mp hx' s hs)

inductive StepEffect (cfg : Settings) (db : Db) (st : Step) : Db → Prop
  | intent {db' : Db} (h : IntentEffect db db') (hex : st.execution db = none) :
      StepEffect cfg db st db'
  | executed {db' : Db} {entry : EntryPoint} {inp : WorkerInput} {jid : Nat}
      (hex : st.execution db = some (entry, inp, jid)) (h : ExecEffect cfg entry inp jid db db') :
      StepEffect cfg db st db'
  | drained {db' : Db} (h : DrainEffect db db') (hex : st.execution db = none) :
      StepEffect cfg db st db'

/-- What a step can do to any tables; a reclaim may find stuck jobs. -/
inductive TickEffect (cfg : Settings) (db : Db) (st : Step) : Db → Prop
  | intent {db' : Db} (h : IntentEffect db db') (hex : st.execution db = none) :
      TickEffect cfg db st db'
  | executed {db' : Db} {entry : EntryPoint} {inp : WorkerInput} {jid : Nat}
      (hex : st.execution db = some (entry, inp, jid)) (h : ExecEffect cfg entry inp jid db db') :
      TickEffect cfg db st db'
  | drained {answers : List DrainAnswer} (hst : st = .drainPendingCleanupTasks answers) :
      TickEffect cfg db st (drainPendingCleanupTasks db answers)
  | reclaimed {clk : Clock} (hst : st = .reclaimStuckRunningJobs clk) :
      TickEffect cfg db st (reclaimStuckRunningJobs cfg clk db)

theorem tick_effect (cfg : Settings) (db : Db) (st : Step) :
    TickEffect cfg db st (step cfg db st) := by
  cases st with
  | createWorkspace inp owner name config =>
      exact .intent (accepted_effect fun _ => createWorkspace_effect) rfl
  | createOperatorPinnedTestWorkspace inp owner executionNodeId suffix config =>
      exact .intent (accepted_effect fun _ => createOperatorPinnedTestWorkspace_effect) rfl
  | requestStartWorkspace inp wid owner user =>
      exact .intent (accepted_effect fun _ => requestStartWorkspace_effect) rfl
  | requestStopWorkspace inp wid owner user =>
      exact .intent (accepted_effect fun _ => requestStopWorkspace_effect) rfl
  | requestRestartWorkspace inp wid owner user =>
      exact .intent (accepted_effect fun _ => requestRestartWorkspace_effect) rfl
  | requestDeleteWorkspace inp wid owner user =>
      exact .intent (accepted_effect fun _ => requestDeleteWorkspace_effect) rfl
  | requestUpdateWorkspace inp wid owner user config =>
      exact .intent (accepted_effect fun _ => requestUpdateWorkspace_effect) rfl
  | enqueueReconcileRuntimeJob inp wid =>
      exact .intent (accepted_effect fun _ => enqueueReconcileRuntimeJob_effect) rfl
  | createSnapshot inp wid owner =>
      exact .intent (accepted_effect fun _ => createSnapshot_effect) rfl
  | restoreSnapshot inp sid owner =>
      exact .intent (accepted_effect fun _ => restoreSnapshot_effect) rfl
  | importRepo inp wid owner => exact .intent (accepted_effect fun _ => importRepo_effect) rfl
  | processNextQueuedJob inp jid =>
      simp only [step]
      split
      · rename_i h
        exact .executed (by simp only [Step.execution, h, if_true]) (runJob_effect cfg _ inp jid db)
      · rename_i h
        exact .intent .refused (by simp only [Step.execution, h, if_false, Bool.false_eq_true])
  | runQueuedWorkspaceJobById inp jid => exact .executed rfl (runJob_effect cfg _ inp jid db)
  | drainPendingCleanupTasks answers => exact .drained rfl
  | reclaimStuckRunningJobs clk => exact .reclaimed rfl

/-- **What a step can do**, from well-formed tables. -/
theorem step_effect (cfg : Settings) {db : Db} (hwf : WellFormed db) (st : Step) :
    StepEffect cfg db st (step cfg db st) := by
  have h := tick_effect cfg db st
  generalize step cfg db st = db' at h
  cases h with
  | intent h hex => exact .intent h hex
  | executed hex h => exact .executed hex h
  | drained hst =>
      subst hst
      exact .drained (drainPendingCleanupTasks_effect db _) rfl
  | reclaimed hst =>
      subst hst
      rw [reclaimStuckRunningJobs_eq hwf]
      exact .intent .refused rfl

/-! ## Well-formedness over runs -/

theorem WellFormed.of_jobs_eq {db db' : Db} (h : WellFormed db) (hjobs : db'.jobs = db.jobs)
    (hws : ∀ w, (db.workspaces.lookup w).isSome → (db'.workspaces.lookup w).isSome) :
    WellFormed db' :=
  ⟨fun hl => hws _ (h.owned (hjobs ▸ hl)), fun hl => h.idle (hjobs ▸ hl)⟩

/-- Writing one job row, old or new. -/
theorem WellFormed.insert_job {db db' : Db} {jid : Nat} {job : WorkspaceJob} (h : WellFormed db)
    (hjobs : db'.jobs = db.jobs.insert jid job)
    (hws : ∀ w, (db.workspaces.lookup w).isSome → (db'.workspaces.lookup w).isSome)
    (howned : (db'.workspaces.lookup job.workspaceId).isSome) (hidle : job.status ≠ .running) :
    WellFormed db' := by
  have hlook : ∀ {k j}, db'.jobs.lookup k = some j →
      j = job ∨ db.jobs.lookup k = some j := by
    intro k j hl
    rw [hjobs, Table.lookup_insert_eq] at hl
    split at hl
    · exact .inl (Option.some.inj hl).symm
    · exact .inr hl
  constructor
  · intro k j hl
    rcases hlook hl with rfl | hl
    · exact howned
    · exact hws _ (h.owned hl)
  · intro k j hl
    rcases hlook hl with rfl | hl
    · exact hidle
    · exact h.idle hl

theorem isSome_lookup_insert {ρ : Type} {t : Table Nat ρ} {k w : Nat} {r : ρ}
    (h : (t.lookup w).isSome) : ((t.insert k r).lookup w).isSome := by
  rw [Table.lookup_insert_eq]
  split
  · rfl
  · exact h

theorem IntentEffect.wellFormed {db db' : Db} (h : IntentEffect db db') (hwf : WellFormed db) :
    WellFormed db' := by
  cases h with
  | refused => exact hwf
  | lifecycle hws _ _ _ hwid _ hq =>
      refine hwf.insert_job rfl (fun w => isSome_lookup_insert) ?_ (by simp [hq.1])
      simp [Db.queueJob, hwid]
  | created _ hwid _ hq =>
      refine hwf.insert_job rfl (fun w => isSome_lookup_insert) ?_ (by simp [hq.1])
      simp [Db.queueJob, hwid]
  | queued hws _ hq =>
      refine hwf.insert_job rfl (fun _ h => h) ?_ (by simp [hq.1])
      exact Option.isSome_iff_exists.mpr ⟨_, hws⟩

theorem ExecEffect.wellFormed {cfg : Settings} {entry : EntryPoint} {inp : WorkerInput} {jid : Nat}
    {db db' : Db} (h : ExecEffect cfg entry inp jid db db') (hwf : WellFormed db) :
    WellFormed db' := by
  cases h with
  | idle _ => exact hwf
  | orphan _ hjob hws _ =>
      have hsome := hwf.owned hjob
      rw [hws] at hsome
      cases hsome
  | committed hs _ hend =>
      obtain ⟨hw, hsame, -⟩ := hend.target
      have htarget := (claimJob_claimed hs).target
      refine hwf.insert_job (commit_jobs _ _ _) (fun w => isSome_lookup_insert) ?_ hend.not_running
      simp [hsame, htarget, hw]
  | rolledBack _ _ _ => exact hwf.of_jobs_eq rfl fun _ h => h

theorem wellFormed_step (cfg : Settings) {db : Db} (hwf : WellFormed db) (st : Step) :
    WellFormed (step cfg db st) := by
  have h := step_effect cfg hwf st
  generalize step cfg db st = db' at h
  cases h with
  | intent h _ => exact h.wellFormed hwf
  | executed _ h => exact h.wellFormed hwf
  | drained h _ => exact hwf.of_jobs_eq h.jobs fun w => by rw [h.workspaces]; exact id

theorem wellFormed_initDb (nodes : Table Nat ExecutionNode) (topologies : List Int) :
    WellFormed (initDb nodes topologies) := by
  constructor <;> intro _ _ h <;> simp [initDb] at h

end Devnest
