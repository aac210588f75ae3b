import Devnest.Steps

/-!
# A busy workspace has one open lifecycle job

`BusyIffOneJob` couples the status column with the job table. Intents
and lifecycle jobs keep it on their own. Reconcile, snapshot and import
jobs run between an intent and its job, and those of them that fail on
the way to the orchestrator, or reach a reconcile while the workspace
is busy, take the status to `ERROR` and leave the lifecycle job queued.

`LeavesBusyAlone` is the exact condition under which such an execution
does not, and `busyIffOneJob_always_iff` the exact condition on a run.
-/

namespace Devnest

open Runs

/-! ## The invariant -/

/-- An open `CREATE`, `START`, `STOP`, `RESTART`, `UPDATE` or `DELETE` of workspace `w`. -/
def isOpenLifecycleOf (w : Nat) (job : WorkspaceJob) : Bool :=
  decide (job.workspaceId = w) && job.jobType.isLifecycle && job.status.isOpen

def openLifecycleJobs (db : Db) (w : Nat) : Nat := Table.rowCount (isOpenLifecycleOf w) db.jobs

/-- Busy exactly when one lifecycle job is open, and never two. -/
def BusyIffOneJob (db : Db) : Prop :=
  ∀ w ws, db.workspaces.lookup w = some ws →
    (ws.status.isBusy = true ↔ openLifecycleJobs db w = 1) ∧ openLifecycleJobs db w ≤ 1

/-! ## Which executions leave a busy status alone -/

/-- Nothing fails for good before the orchestrator runs, and no reconcile gets to look at
the workspace. -/
def LeavesBusyAlone (cfg : Settings) (inp : WorkerInput) (s : Session) : Prop :=
  EarlyFailuresRetry cfg inp s (s.job.jobType = .reconcileRuntime →
    inp.lockAcquired = false ∧ attemptsRemain cfg s.job = true)

/-- **Exactly when** a job of another type leaves a busy workspace busy. -/
theorem executeClaimedJob_staysBusy_iff (cfg : Settings) (inp : WorkerInput) {s : Session}
    (entry : EntryPoint) (hjt : s.job.jobType.isLifecycle = false)
    (hb : s.ws.status.isBusy = true) :
    Stays WorkspaceStatus.isBusy (executeClaimedJob cfg inp entry s) ↔
      LeavesBusyAlone cfg inp s := by
  have hdel : s.job.jobType ≠ .delete := by rintro h; rw [h] at hjt; cases hjt
  have hcre : s.job.jobType ≠ .create := by rintro h; rw [h] at hjt; cases hjt
  have hsta : s.job.jobType ≠ .start := by rintro h; rw [h] at hjt; cases hjt
  rw [executeClaimedJob_eq cfg inp entry hdel]
  refine placeAndProcess_stays_iff cfg inp hcre hsta (nodeReadinessRetryAllowed_aux hjt) hb rfl
    fun _ nodeKey => ?_
  by_cases hrec : s.job.jobType = .reconcileRuntime
  · simpa [hrec] using reconcile_stays_iff cfg inp hrec hb hb rfl nodeKey
  · simpa [hrec] using processClaimedRunningJob_stays cfg inp hjt hrec hb nodeKey

/-! ## Counting open lifecycle jobs -/

theorem openLifecycleJobs_insert_of_none {db db' : Db} {jid : Nat} {job : WorkspaceJob}
    (h : db.jobs.lookup jid = none) (hjobs : db'.jobs = db.jobs.insert jid job) (w : Nat) :
    openLifecycleJobs db' w = openLifecycleJobs db w + Table.tally (isOpenLifecycleOf w) job := by
  unfold openLifecycleJobs
  rw [hjobs, Table.rowCount_insert_of_none _ h]

theorem openLifecycleJobs_insert_of_lookup {db db' : Db} {jid : Nat} {job job' : WorkspaceJob}
    (h : db.jobs.lookup jid = some job) (hjobs : db'.jobs = db.jobs.insert jid job') (w : Nat) :
    openLifecycleJobs db' w + Table.tally (isOpenLifecycleOf w) job =
      openLifecycleJobs db w + Table.tally (isOpenLifecycleOf w) job' := by
  unfold openLifecycleJobs
  rw [hjobs, Table.rowCount_insert_of_lookup _ h]

/-- Every job has its workspace. -/
def JobsOwned (db : Db) : Prop :=
  ∀ jid job, db.jobs.lookup jid = some job → (db.workspaces.lookup job.workspaceId).isSome

theorem WellFormed.jobsOwned {db : Db} (h : WellFormed db) : JobsOwned db :=
  fun _ _ hjob => h.owned hjob

/-- A workspace that does not exist has no job. -/
theorem openLifecycleJobs_of_none {db : Db} (howned : JobsOwned db) {w : Nat}
    (h : db.workspaces.lookup w = none) : openLifecycleJobs db w = 0 := by
  refine List.countP_eq_zero.mpr fun job hmem => ?_
  obtain ⟨jid, hjob⟩ := Table.mem_rows_iff.mp hmem
  have hsome := howned jid job hjob
  by_cases hw : job.workspaceId = w
  · rw [hw, h] at hsome; cases hsome
  · simp [isOpenLifecycleOf, hw]

theorem tally_isOpenLifecycleOf (w : Nat) (job : WorkspaceJob) :
    Table.tally (isOpenLifecycleOf w) job =
      if job.workspaceId = w ∧ job.jobType.isLifecycle = true ∧ job.status.isOpen = true
      then 1 else 0 := by
  unfold Table.tally isOpenLifecycleOf
  simp only [Bool.and_eq_true, decide_eq_true_eq, and_assoc]

/-! ## Steps -/

/-- A new job row: it is enough to look at its own contribution. -/
theorem BusyIffOneJob.of_insert {db db' : Db} {jid : Nat} {job : WorkspaceJob}
    (hfresh : db.jobs.lookup jid = none) (hjobs : db'.jobs = db.jobs.insert jid job)
    (h : ∀ w ws, db'.workspaces.lookup w = some ws →
      (ws.status.isBusy = true ↔
        openLifecycleJobs db w + Table.tally (isOpenLifecycleOf w) job = 1) ∧
      openLifecycleJobs db w + Table.tally (isOpenLifecycleOf w) job ≤ 1) :
    BusyIffOneJob db' := by
  intro w ws hw
  rw [openLifecycleJobs_insert_of_none hfresh hjobs]
  exact h w ws hw

theorem IntentEffect.busyIffOneJob {db db' : Db} (h : IntentEffect db db') (howned : JobsOwned db)
    (hbusy : BusyIffOneJob db) : BusyIffOneJob db' := by
  cases h with
  | refused => exact hbusy
  | @lifecycle wid ws st job configs hws hidle hst _ hwid hjt hq =>
      refine .of_insert (Table.lookup_freshKey db.jobs) rfl fun w ws' hw => ?_
      rw [tally_isOpenLifecycleOf]
      simp only [Db.queueJob, Table.lookup_insert_eq] at hw
      by_cases hww : w = wid
      · subst hww
        obtain ⟨hiff, hle⟩ := hbusy w ws hws
        obtain rfl : _ = ws' := by simpa using hw
        rw [hidle] at hiff
        have hzero : openLifecycleJobs db w = 0 := by
          have hne : openLifecycleJobs db w ≠ 1 := by simpa using hiff
          omega
        simp [hwid, hjt, hq, WorkspaceJobStatus.isOpen, hst, hzero]
      · rw [if_neg hww] at hw
        have hne : job.workspaceId ≠ w := fun h => hww (h.symm.trans hwid)
        simpa [hne] using hbusy w ws' hw
  | @created ws job configs hst hwid hjt hq =>
      refine .of_insert (Table.lookup_freshKey db.jobs) rfl fun w ws' hw => ?_
      rw [tally_isOpenLifecycleOf]
      simp only [Db.queueJob, Table.lookup_insert_eq] at hw
      by_cases hww : w = Table.freshKey db.workspaces
      · have hzero := openLifecycleJobs_of_none howned (Table.lookup_freshKey db.workspaces)
        rw [← hww] at hzero
        obtain rfl : ws = ws' := by simpa [hww] using hw
        have hup : ws.status.isBusy = true := by rcases hst with h | h <;> rw [h] <;> rfl
        simp [hwid, ← hww, hjt, hq, WorkspaceJobStatus.isOpen, hup, hzero]
      · rw [if_neg hww] at hw
        have hne : job.workspaceId ≠ w := fun h => hww (h.symm.trans hwid)
        simpa [hne] using hbusy w ws' hw
  | @queued ws job snapshots hws hjt hq =>
      refine .of_insert (Table.lookup_freshKey db.jobs) rfl fun w ws' hw => ?_
      rw [tally_isOpenLifecycleOf]
      simpa [hjt] using hbusy w ws' hw

section Committed

variable {inp : WorkerInput} {db : Db} {jid : Nat} {s s' : Session}

/-- The session executes job `jid`, which is open: `QUEUED` in the tables, or `RUNNING` once
the claim is committed. -/
structure Executing (db : Db) (jid : Nat) (s : Session) : Prop where
  job : ∃ j, db.jobs.lookup jid = some j ∧ SameJob j s.job ∧ j.status.isOpen = true
  target : s.job.workspaceId = s.wid
  ws : db.workspaces.lookup s.wid = some s.ws

theorem Claimed.executing (h : Claimed db jid s) : Executing db jid s := by
  obtain ⟨j, hj, hsame, hq⟩ := h.job
  exact ⟨⟨j, hj, hsame, by rw [hq]; rfl⟩, h.target, h.ws⟩

/-- A lifecycle job that is executed is the open one of its workspace. -/
theorem Executing.openLifecycleJobs_eq (hcl : Executing db jid s)
    (hjt : s.job.jobType.isLifecycle = true) (hbusy : BusyIffOneJob db) :
    openLifecycleJobs db s.wid = 1 := by
  obtain ⟨j, hj, ⟨hjw, hjt'⟩, hopen⟩ := hcl.job
  have hpos : 1 ≤ openLifecycleJobs db s.wid := Table.one_le_rowCount hj (by
    simp [isOpenLifecycleOf, ← hjw, ← hjt', hcl.target, hjt, hopen])
  have hle := (hbusy s.wid s.ws hcl.ws).2
  omega

/-- The counts after a commit: the job's own contribution may have changed. -/
theorem openLifecycleJobs_commit (hcl : Executing db jid s) (hend : JobEnd inp s s') (w : Nat) :
    openLifecycleJobs (s'.commit jid db) w +
        (if s.wid = w ∧ s.job.jobType.isLifecycle = true then 1 else 0) =
      openLifecycleJobs db w +
        (if s.wid = w ∧ s.job.jobType.isLifecycle = true ∧ s'.job.status.isOpen = true
          then 1 else 0) := by
  obtain ⟨j, hj, ⟨hjw, hjt⟩, hopen⟩ := hcl.job
  obtain ⟨-, hsw, hst⟩ := hend.target
  have hcount := openLifecycleJobs_insert_of_lookup hj (commit_jobs s' jid db) w
  rw [tally_isOpenLifecycleOf, tally_isOpenLifecycleOf] at hcount
  rw [hsw, hst, ← hjw, hcl.target, ← hjt, hopen] at hcount
  simpa using hcount

theorem LifecycleEnd.busyIffOneJob (hcl : Executing db jid s)
    (hjt : s.job.jobType.isLifecycle = true) (h : LifecycleEnd inp s s')
    (hbusy : BusyIffOneJob db) : BusyIffOneJob (s'.commit jid db) := by
  intro w ws' hw
  have hcount := openLifecycleJobs_commit hcl (.lifecycle hjt h) w
  rw [commit_workspaces_lookup, (h.target inp).1] at hw
  by_cases hww : w = s.wid
  · subst hww
    obtain rfl : s'.ws = ws' := by simpa using hw
    obtain ⟨hiff, hle⟩ := hbusy s.wid s.ws hcl.ws
    simp only [hjt, and_self, if_true, true_and] at hcount
    have hone := hcl.openLifecycleJobs_eq hjt hbusy
    rcases h.ends inp with ⟨hq, hst⟩ | ⟨hset, hidle⟩
    · have hb : s'.ws.status.isBusy = true := by
        rcases hst with hst | hst | hst
        · rw [hst]; exact hiff.mpr hone
        · rw [hst]; rfl
        · rw [hst]; rfl
      simp only [hq, WorkspaceJobStatus.isOpen, if_true] at hcount
      simp only [hb, true_iff]
      omega
    · have hclosed : s'.job.status.isOpen = false := by rcases hset with h | h <;> rw [h] <;> rfl
      simp only [hclosed, Bool.false_eq_true, if_false] at hcount
      simp only [hidle, Bool.false_eq_true, false_iff]
      omega
  · rw [if_neg hww] at hw
    have hne : ¬ s.wid = w := fun h => hww h.symm
    simp only [hne, false_and, if_false, Nat.add_zero] at hcount
    rw [hcount]
    exact hbusy w ws' hw

/-- A job of another type changes no count, so the invariant hangs on the status alone. -/
theorem AuxEnd.busyIffOneJob_iff (hcl : Claimed db jid s)
    (hjt : s.job.jobType.isLifecycle = false) (h : AuxEnd inp s s') (hbusy : BusyIffOneJob db) :
    BusyIffOneJob (s'.commit jid db) ↔
      (s.ws.status.isBusy = true → s'.ws.status.isBusy = true) := by
  have hcount : ∀ w, openLifecycleJobs (s'.commit jid db) w = openLifecycleJobs db w := by
    intro w
    simpa [hjt] using openLifecycleJobs_commit hcl.executing (.aux hjt h) w
  obtain ⟨hiff, hle⟩ := hbusy s.wid s.ws hcl.ws
  constructor
  · intro hnew hb
    have hlook : (s'.commit jid db).workspaces.lookup s.wid = some s'.ws := by
      simp [h.target.1]
    refine (hnew s.wid s'.ws hlook).1.mpr ?_
    rw [hcount]
    exact hiff.mp hb
  · intro hkeep w ws' hw
    rw [hcount]
    rw [commit_workspaces_lookup, h.target.1] at hw
    by_cases hww : w = s.wid
    · subst hww
      obtain rfl : s'.ws = ws' := by simpa using hw
      refine ⟨?_, hle⟩
      rw [← hiff]
      refine ⟨fun hb => ?_, hkeep⟩
      rcases h.status with hk | hs
      · rw [← hk.2]; exact hb
      · rw [hs.2] at hb; cases hb
    · rw [if_neg hww] at hw
      exact hbusy w ws' hw

end Committed

/-- The condition on one execution: a job of another type that meets a busy workspace
leaves it alone. -/
def AuxLeavesBusyAlone (cfg : Settings) (_ : EntryPoint) (inp : WorkerInput) (s : Session) : Prop :=
  s.job.jobType.isLifecycle = false → s.ws.status.isBusy = true → LeavesBusyAlone cfg inp s

theorem ExecEffect.busyIffOneJob_iff {cfg : Settings} {entry : EntryPoint} {inp : WorkerInput}
    {jid : Nat} {db db' : Db} (h : ExecEffect cfg entry inp jid db db') (hwf : WellFormed db)
    (hbusy : BusyIffOneJob db) :
    BusyIffOneJob db' ↔ ∀ s ∈ claimJob inp jid db, AuxLeavesBusyAlone cfg entry inp s := by
  cases h with
  | idle hs => simpa [hs] using hbusy
  | orphan _ hjob hws _ =>
      have hsome := hwf.owned hjob
      rw [hws] at hsome
      cases hsome
  | @committed s hs hc hend =>
      have hcl := claimJob_claimed hs
      simp only [hs, Option.mem_some_iff, forall_eq']
      cases hend with
      | lifecycle hjt h =>
          refine ⟨fun _ hne => ?_, fun _ => h.busyIffOneJob hcl.executing hjt hbusy⟩
          rw [hjt] at hne
          cases hne
      | aux hjt h =>
          rw [h.busyIffOneJob_iff hcl hjt hbusy]
          refine ⟨fun hkeep _ hb => ?_, fun hcond hb => ?_⟩
          · exact (executeClaimedJob_staysBusy_iff cfg inp entry hjt hb).mp fun _ => hkeep hb
          · exact (executeClaimedJob_staysBusy_iff cfg inp entry hjt hb).mpr (hcond hjt hb) hc
  | @rolledBack s t hs hc _ =>
      simp only [hs, Option.mem_some_iff, forall_eq']
      refine ⟨fun _ hjt hb => ?_, fun _ => hbusy⟩
      exact (executeClaimedJob_staysBusy_iff cfg inp entry hjt hb).mp fun h => by
        rw [hc] at h; cases h

theorem step_busyIffOneJob_iff (cfg : Settings) {db : Db} (hwf : WellFormed db)
    (hbusy : BusyIffOneJob db) (st : Step) :
    BusyIffOneJob (step cfg db st) ↔ OnExecution (AuxLeavesBusyAlone cfg) db st := by
  have h := step_effect cfg hwf st
  generalize step cfg db st = db' at h
  cases h with
  | intent h hex => exact ⟨fun _ => .of_none hex, fun _ => h.busyIffOneJob hwf.jobsOwned hbusy⟩
  | @executed entry inp jid hex h =>
      rw [h.busyIffOneJob_iff hwf hbusy, OnExecution, hex]
      simp
  | drained h hex =>
      refine ⟨fun _ => .of_none hex, fun _ w ws hw => ?_⟩
      rw [h.workspaces] at hw
      simpa [openLifecycleJobs, h.jobs] using hbusy w ws hw

/-! ## Runs -/

/-- **Busy means exactly one open lifecycle job**, in every state of a run, exactly when
every job of another type that meets a busy workspace on the way leaves it alone. -/
theorem busyIffOneJob_always_iff (cfg : Settings) (nodes : Table Nat ExecutionNode)
    (topologies : List Int) (steps : List Step) :
    Always (step cfg) BusyIffOneJob (initDb nodes topologies) steps ↔
      Along (step cfg) (OnExecution (AuxLeavesBusyAlone cfg)) (initDb nodes topologies) steps :=
  always_iff_along (I := WellFormed) (wellFormed_initDb nodes topologies)
    (fun _ st h _ => wellFormed_step cfg h st)
    (fun w ws h => by simp [initDb] at h)
    fun _ st hwf hbusy => step_busyIffOneJob_iff cfg hwf hbusy st

/-- A reconcile is queued, then a `STOP`; the reconcile runs first. -/
def strandedStopRun : List Step :=
  [.createWorkspace { now := 0 } 7 "a" {},
   .processNextQueuedJob (sampleWorker 1 sampleOrch) 1,
   .enqueueReconcileRuntimeJob { now := 2 } 1,
   .requestStopWorkspace { now := 3 } 1 7 7,
   .processNextQueuedJob (sampleWorker 4 sampleOrch) 2]

/-- The reconcile finds the workspace `STOPPING`, fails, and takes it to `ERROR`; the `STOP`
is still queued. -/
theorem reconcile_strands_stop :
    ¬ ∀ db, Reachable (step {}) sampleDb db → BusyIffOneJob db := by
  intro h
  have hbusy := h _ ⟨strandedStopRun, rfl⟩
  have herror : ((run (step {}) sampleDb strandedStopRun).workspaces.lookup 1).map (·.status) =
      some .error := by decide
  obtain ⟨ws, hws, hst⟩ := Option.map_eq_some_iff.mp herror
  have hopen : openLifecycleJobs (run (step {}) sampleDb strandedStopRun) 1 = 1 := by decide
  have hb := (hbusy 1 ws hws).1.mpr hopen
  rw [hst] at hb
  cases hb

end Devnest
