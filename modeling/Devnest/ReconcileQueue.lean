import Devnest.Attempts
import Devnest.ExecutionRaces

/-!
# Queued reconcile jobs

`_check_reconcile_lease` keeps a second `RECONCILE_RUNTIME` job of a workspace
out of the queue. It looks at one row among the `QUEUED` and `RUNNING` ones,
whichever the database returns first, and lets a `RUNNING` row pass that is
older than the lease. The row it let pass may still come back: its worker
schedules a retry, or the reclaim of stuck jobs puts it into the queue again.
A worker that the reclaim has overtaken does so even after the job has ended
under a later claim, since its session still holds the row as it claimed it.

`one_queued_reconcile_iff` says that these are the ways to a second queued
job: a request that is shown the stale row and not the queued one, and a row
that returns while another is queued.
-/

namespace Devnest

open Runs

/-! ## Steps -/

/-- How a worker ends a job it has claimed. -/
inductive ClaimEnd where
  | succeeded
  | failed (message : String) (stage : Option FailureStage) (code : Option String)
  /-- `try_schedule_workspace_job_retry`, and a failure where it returns `False`. -/
  | retry (message code : String) (stage : FailureStage) (notBefore : Nat)
  /-- One of the two capacity loops. -/
  | waits (message code : String) (notBefore : Nat)

/-- The row that a worker leaves. -/
def endRow (cfg : Settings) (clk : Clock) (job : WorkspaceJob) : ClaimEnd → WorkspaceJob
  | .succeeded => markJobSucceeded clk job
  | .failed message stage code => markJobFailed clk job message stage code
  | .retry message code stage notBefore =>
      if attemptsRemain cfg job then requeueJob job message stage code notBefore
      else markJobFailed clk job message (some stage) (some code)
  | .waits message code notBefore => requeueJob job message .capacity code notBefore

/-- Every committed execution of the system's model ends in one of these ways. -/
theorem executeClaimedJob_ends {cfg : Settings} {inp : WorkerInput} {entry : EntryPoint}
    {s : Session} (hc : (executeClaimedJob cfg inp entry s).committed = true) :
    ∃ ending, (executeClaimedJob cfg inp entry s).session.job = endRow cfg inp.clk s.job ending := by
  have hfate := executeClaimedJob_fate cfg inp hc
  generalize (executeClaimedJob cfg inp entry s).session.job = row at hfate
  cases hfate with
  | succeeded => exact ⟨.succeeded, rfl⟩
  | @failed message stage code => exact ⟨.failed message stage code, rfl⟩
  | @waits message code notBefore => exact ⟨.waits message code notBefore, rfl⟩
  | @retried message code stage notBefore hremain _ =>
      exact ⟨.retry message code stage notBefore, (if_pos hremain).symm⟩

/-- The database, and the executions under way by the number of their claim. -/
structure ReconcileState where
  db : Db
  live : Table Nat LiveJob := ∅
  claims : Nat := 0

namespace ReconcileState

def queue (s : ReconcileState) : QueueState :=
  { jobs := s.db.jobs, live := s.live, claims := s.claims }

def withQueue (s : ReconcileState) (q : QueueState) : ReconcileState :=
  { db := { s.db with jobs := q.jobs }, live := q.live, claims := q.claims }

end ReconcileState

/-- One transaction; the time is that of its inputs. -/
inductive ReconcileStep where
  /-- A request, and which of the matching rows its `.first()` returns. -/
  | enqueue (inp : IntentInput) (wid pick : Nat)
  | claim (entry : EntryPoint) (clk : Clock) (jid : Nat)
  /-- The topology adapter commits the worker's session. -/
  | adapterCommit (c : Nat)
  /-- The adapter rolls the worker's session back, and the worker goes on. -/
  | adapterRollback (c : Nat)
  /-- The session loads an expired row again. -/
  | reload (c : Nat)
  | finish (clk : Clock) (c : Nat) (ending : ClaimEnd)
  /-- The worker dies. -/
  | crash (c : Nat)
  /-- One row of `reclaim_stuck_running_jobs`. -/
  | reclaim (clk : Clock) (jid : Nat)
  /-- Any other transaction moves the workspace. -/
  | moved (wid : Nat) (ws : Workspace)

/-- The open reconcile jobs of the workspace, which `_check_reconcile_lease` selects from. -/
def openReconcileJobs (db : Db) (wid : Nat) : List (Nat × WorkspaceJob) :=
  (db.jobs.entries.filter fun e => e.2.workspaceId = wid && e.2.jobType = .reconcileRuntime &&
    e.2.status.isOpen).map fun e => (e.1, e.2)

/-- The row that `.first()` returns. -/
def pickedReconcileJob (db : Db) (wid pick : Nat) : Option (Nat × WorkspaceJob) :=
  (openReconcileJobs db wid)[pick % (openReconcileJobs db wid).length]?

/-- `_check_reconcile_lease`, given the row its query returned. -/
def checkReconcileLeaseOn (cfg : Settings) (inp : IntentInput) :
    Option (Nat × WorkspaceJob) → Except IntentError Unit
  | none => .ok ()
  | some (jid, job) =>
      if job.status = .queued then
        .error (.workspaceBusy ("A RECONCILE_RUNTIME job is already queued (job_id=" ++
          toString jid ++ "). Skip or wait until it completes."))
      else match job.startedAt with
        | none => .ok ()
        | some t =>
            let age := (inp.now : Int) - t
            if age < cfg.devnestReconcileLeaseTtlSeconds then
              .error (.workspaceBusy ("A RECONCILE_RUNTIME job is already running (job_id=" ++
                toString jid ++ ", age=" ++ toString age ++ "s < lease_ttl=" ++
                toString cfg.devnestReconcileLeaseTtlSeconds ++ "s)."))
            else .ok ()

/-- The lease of the system's model is this one, on the row its table order gives. -/
theorem checkReconcileLease_eq (cfg : Settings) (db : Db) (inp : IntentInput) (wid : Nat) :
    checkReconcileLease cfg db inp wid =
      checkReconcileLeaseOn cfg inp (openReconcileJob db wid) := by
  unfold checkReconcileLease checkReconcileLeaseOn
  cases openReconcileJob db wid <;> rfl

/-- `enqueue_reconcile_runtime_job`, given the row that the lease check is shown. -/
def enqueueReconcilePicking (cfg : Settings) (db : Db) (inp : IntentInput) (wid pick : Nat) :
    Except IntentError Db :=
  match db.workspaces.lookup wid with
  | none => .error .workspaceNotFound
  | some ws => do
      requireNotBusy ws
      requireStatus ws [.running, .stopped, .error, .deleted]
        "Reconcile is only allowed when running, stopped, error, or deleted"
      checkReconcileLeaseOn cfg inp (pickedReconcileJob db wid pick)
      let version ← intentConfigVersion db wid
      .ok (db.queueJob (newJob inp wid ws.ownerUserId .reconcileRuntime version))

def reconcileStep (cfg : Settings) (s : ReconcileState) : ReconcileStep → ReconcileState
  | .enqueue inp wid pick =>
      { s with db := accepted s.db (enqueueReconcilePicking cfg s.db inp wid pick) }
  | .claim entry clk jid => s.withQueue (queueStep cfg s.queue (.claim entry clk jid))
  | .adapterCommit c => s.withQueue (queueStep cfg s.queue (.adapterCommit c))
  | .adapterRollback c => s.withQueue (queueStep cfg s.queue (.adapterRollback c))
  | .reload c => s.withQueue (queueStep cfg s.queue (.reload c))
  | .crash c => s.withQueue (queueStep cfg s.queue (.crash c))
  | .finish clk c ending =>
      match s.live.lookup c with
      | none => s
      | some e =>
          -- whatever the row is by now; only another worker's lock is waited for
          if s.queue.lockedBy (some c) e.jid then s
          else s.withQueue ((s.queue.write c e (endRow cfg clk e.row ending)).drop c)
  | .reclaim clk jid =>
      match s.db.jobs.lookup jid with
      | none => s
      | some job =>
          if 0 < cfg.workspaceJobStuckTimeoutSeconds ∧ isStuckRunning cfg clk job = true then
            { s with db := { s.db with jobs := s.db.jobs.insert jid (reclaimedRow cfg clk jid job) } }
          else s
  | .moved wid ws => { s with db := { s.db with workspaces := s.db.workspaces.insert wid ws } }

/-! ## Queued reconciles -/

def isQueuedReconcile (wid : Nat) (job : WorkspaceJob) : Bool :=
  job.workspaceId = wid && job.jobType = .reconcileRuntime && job.status = .queued

/-- How many reconcile jobs of the workspace are queued. -/
def queuedReconciles (db : Db) (wid : Nat) : Nat := Table.rowCount (isQueuedReconcile wid) db.jobs

/-- The gates of the request, apart from the lease. -/
def reconcileAllowed (db : Db) (wid : Nat) : Bool :=
  ((db.workspaces.lookup wid).any fun ws =>
    ws.status ∈ [WorkspaceStatus.running, .stopped, .error, .deleted]) &&
  (db.latestConfigVersion wid).isSome

/-- The row holds the lease: it is queued, or runs for less than the TTL. -/
def holdsLease (cfg : Settings) (inp : IntentInput) (job : WorkspaceJob) : Bool :=
  job.status = .queued || job.startedAt.any fun t : Nat =>
    decide ((inp.now : Int) - t < cfg.devnestReconcileLeaseTtlSeconds)

/-- No other reconcile of the workspace is queued. -/
def aloneQueued (db : Db) (jid wid : Nat) : Bool :=
  db.jobs.entries.all fun e => e.1 = jid || !isQueuedReconcile wid e.2

/-- The job is to be tried again. -/
def triesAgain (cfg : Settings) (job : WorkspaceJob) : ClaimEnd → Bool
  | .succeeded | .failed _ _ _ => false
  | .retry _ _ _ _ => attemptsRemain cfg job
  | .waits _ _ _ => true

/-- Neither of the two ways to a second queued reconcile: a request that passes the other gates
while one is queued is shown a row that holds the lease, and a row that is retried or reclaimed
returns alone. -/
def keepsOneQueued (cfg : Settings) (s : ReconcileState) : ReconcileStep → Bool
  | .enqueue inp wid pick =>
      queuedReconciles s.db wid = 0 || !reconcileAllowed s.db wid ||
        (pickedReconcileJob s.db wid pick).any fun e => holdsLease cfg inp e.2
  | .finish _ c ending => (s.live.lookup c).all fun e =>
      s.queue.lockedBy (some c) e.jid || e.row.jobType ≠ .reconcileRuntime ||
        -- a session that has loaded the row as `QUEUED` does not write the status
        e.row.status = .queued || !triesAgain cfg e.row ending ||
        aloneQueued s.db e.jid e.row.workspaceId
  | .reclaim clk jid => (s.db.jobs.lookup jid).all fun job =>
      job.jobType ≠ .reconcileRuntime || cfg.workspaceJobStuckTimeoutSeconds ≤ 0 ||
        !isStuckRunning cfg clk job || !attemptsRemain cfg job ||
        aloneQueued s.db jid job.workspaceId
  | .claim _ _ _ | .adapterCommit _ | .adapterRollback _ | .reload _ | .crash _ | .moved _ _ => true

/-! ## One step -/

section Step

variable {cfg : Settings} {db : Db}

/-- At most one reconcile of each workspace is queued. -/
def OneQueued (db : Db) : Prop := ∀ wid, queuedReconciles db wid ≤ 1

theorem aloneQueued_iff {jid wid : Nat} : aloneQueued db jid wid = true ↔
    ∀ j job, db.jobs.lookup j = some job → isQueuedReconcile wid job = true → j = jid := by
  simp only [aloneQueued, List.all_eq_true, Bool.or_eq_true, decide_eq_true_eq, Bool.not_eq_true']
  constructor
  · intro h j job hjob hq
    rcases h ⟨j, job⟩ (AList.mem_lookup_iff.mp hjob) with hj | hno
    · exact hj
    · rw [hq] at hno
      cases hno
  · intro h e he
    cases hq : isQueuedReconcile wid e.2 with
    | false => exact .inr rfl
    | true => exact .inl (h e.1 e.2 (AList.mem_lookup_iff.mpr he) hq)

theorem tally_queued_other {wid : Nat} {job : WorkspaceJob} (h : job.workspaceId ≠ wid) :
    Table.tally (isQueuedReconcile wid) job = 0 := by
  simp [Table.tally, isQueuedReconcile, h]

/-- A row is written: a queued reconcile comes alone. -/
theorem oneQueued_insert_iff {jid : Nat} {job new : WorkspaceJob}
    (hjob : db.jobs.lookup jid = some job) (h : OneQueued db) :
    OneQueued { db with jobs := db.jobs.insert jid new } ↔
      (new.status = .queued → new.jobType = .reconcileRuntime →
        aloneQueued db jid new.workspaceId = true) := by
  constructor
  · intro hone hst hrec
    refine aloneQueued_iff.mpr fun j row hrow hq => ?_
    by_contra hne
    have hnew : isQueuedReconcile new.workspaceId new = true := by
      simp [isQueuedReconcile, hst, hrec]
    have hself : (db.jobs.insert jid new).lookup jid = some new := by
      rw [Table.lookup_insert_eq, if_pos rfl]
    have hother : (db.jobs.insert jid new).lookup j = some row := by
      rw [Table.lookup_insert_eq, if_neg hne]
      exact hrow
    exact hne (Table.key_eq_of_rowCount_le_one (hone _) hself hnew hother hq)
  · intro halone wid
    have hcount := Table.rowCount_insert_of_lookup (isQueuedReconcile wid) hjob new
    have hle : Table.rowCount (isQueuedReconcile wid) db.jobs ≤ 1 := h wid
    show Table.rowCount (isQueuedReconcile wid) (db.jobs.insert jid new) ≤ 1
    cases hq : isQueuedReconcile wid new with
    | false =>
        simp only [Table.tally, hq, Bool.false_eq_true, if_false] at hcount
        omega
    | true =>
        cases hold : isQueuedReconcile wid job with
        | true =>
            simp only [Table.tally, hq, hold, if_true] at hcount
            omega
        | false =>
            -- nothing but the row itself may be queued, and it was not
            have hzero : Table.rowCount (isQueuedReconcile wid) db.jobs = 0 := by
              refine List.countP_eq_zero.mpr fun row hrow hqrow => ?_
              obtain ⟨j, hj⟩ := Table.mem_rows_iff.mp hrow
              simp only [isQueuedReconcile, Bool.and_eq_true, decide_eq_true_eq] at hq
              obtain ⟨⟨rfl, hrec⟩, hst⟩ := hq
              obtain rfl := aloneQueued_iff.mp (halone hst hrec) j row hj hqrow
              obtain rfl : job = row := Option.some.inj (hjob.symm.trans hj)
              rw [hold] at hqrow
              cases hqrow
            simp only [Table.tally, hq, hold, hzero, if_true, Bool.false_eq_true, if_false] at hcount
            omega

/-- What is written is not queued, or it was before. -/
theorem oneQueued_insert_of_imp {jid : Nat} {job new : WorkspaceJob}
    (hjob : db.jobs.lookup jid = some job) (hsame : SameJob job new)
    (himp : new.status = .queued → job.status = .queued) (h : OneQueued db) :
    OneQueued { db with jobs := db.jobs.insert jid new } := by
  refine (oneQueued_insert_iff hjob h).mpr fun hst hrec => ?_
  refine aloneQueued_iff.mpr fun j row hrow hq => ?_
  have hjobq : isQueuedReconcile new.workspaceId job = true := by
    simp [isQueuedReconcile, hsame.1, ← hsame.2, hrec, himp hst]
  exact Table.key_eq_of_rowCount_le_one (h _) hjob hjobq hrow hq

/-! ### Requests -/

theorem checkReconcileLeaseOn_ok_iff {inp : IntentInput} {existing : Option (Nat × WorkspaceJob)} :
    checkReconcileLeaseOn cfg inp existing = .ok () ↔
      ∀ e, existing = some e → holdsLease cfg inp e.2 = false := by
  unfold checkReconcileLeaseOn holdsLease
  cases existing with
  | none => simp
  | some e =>
      obtain ⟨jid, job⟩ := e
      by_cases hq : job.status = .queued
      · simp [hq]
      · cases hs : job.startedAt with
        | none => simp [hq, hs]
        | some t =>
            by_cases hage : (inp.now : Int) - t < cfg.devnestReconcileLeaseTtlSeconds
            · simp [hq, hs, hage]
            · simp [hq, hs, hage]

/-- A request that passes its other gates is decided by the lease. -/
theorem enqueueReconcilePicking_allowed (cfg : Settings) (inp : IntentInput) {wid : Nat} (pick : Nat)
    (h : reconcileAllowed db wid = true) :
    ∃ job : WorkspaceJob, isQueuedReconcile wid job = true ∧
      enqueueReconcilePicking cfg db inp wid pick =
        (checkReconcileLeaseOn cfg inp (pickedReconcileJob db wid pick)).map
          fun _ => db.queueJob job := by
  unfold reconcileAllowed at h
  rw [Bool.and_eq_true] at h
  obtain ⟨ws, hws, hst⟩ := (Option.any_eq_true _ _).mp h.1
  obtain ⟨v, hv⟩ := Option.isSome_iff_exists.mp h.2
  have hbusy : requireNotBusy ws = .ok () := by
    revert hst
    unfold requireNotBusy
    cases ws.status <;> simp [WorkspaceStatus.isBusy]
  have hstatus : requireStatus ws [.running, .stopped, .error, .deleted]
      "Reconcile is only allowed when running, stopped, error, or deleted" = .ok () :=
    if_pos (of_decide_eq_true hst)
  refine ⟨newJob inp wid ws.ownerUserId .reconcileRuntime v, by
    simp [isQueuedReconcile, newJob], ?_⟩
  simp only [enqueueReconcilePicking, hws, hbusy, hstatus, intentConfigVersion, hv]
  cases checkReconcileLeaseOn cfg inp (pickedReconcileJob db wid pick) <;> rfl

theorem enqueueReconcilePicking_refused {inp : IntentInput} {wid pick : Nat}
    (h : reconcileAllowed db wid = false) :
    accepted db (enqueueReconcilePicking cfg db inp wid pick) = db := by
  have hno : ∀ db', enqueueReconcilePicking cfg db inp wid pick ≠ .ok db' := by
    intro db' hok
    unfold enqueueReconcilePicking at hok
    split at hok
    · cases hok
    · rename_i ws hws
      obtain ⟨_, -, hok⟩ := bind_eq_ok.mp hok
      obtain ⟨_, hst, hok⟩ := bind_eq_ok.mp hok
      obtain ⟨_, -, hok⟩ := bind_eq_ok.mp hok
      obtain ⟨v, hv, -⟩ := bind_eq_ok.mp hok
      unfold requireStatus at hst
      split at hst
      · rename_i hin
        unfold intentConfigVersion at hv
        split at hv
        · cases hv
        · rename_i v' hv'
          simp [reconcileAllowed, hws, hv'] at h
          simp [h] at hin
      · cases hst
  cases hr : enqueueReconcilePicking cfg db inp wid pick with
  | ok db' => exact absurd hr (hno db')
  | error e => rfl

/-- A request that is accepted queues one job. -/
theorem enqueueReconcilePicking_ok {inp : IntentInput} {wid pick : Nat} {db' : Db}
    (h : enqueueReconcilePicking cfg db inp wid pick = .ok db') :
    ∃ job, db' = db.queueJob job := by
  unfold enqueueReconcilePicking at h
  split at h
  · cases h
  · rename_i ws _
    obtain ⟨_, -, h⟩ := bind_eq_ok.mp h
    obtain ⟨_, -, h⟩ := bind_eq_ok.mp h
    obtain ⟨_, -, h⟩ := bind_eq_ok.mp h
    obtain ⟨v, -, h⟩ := bind_eq_ok.mp h
    exact ⟨newJob inp wid ws.ownerUserId .reconcileRuntime v, (Except.ok.inj h).symm⟩

theorem queuedReconciles_queueJob (job : WorkspaceJob) (wid : Nat) :
    queuedReconciles (db.queueJob job) wid =
      queuedReconciles db wid + Table.tally (isQueuedReconcile wid) job :=
  Table.rowCount_insert_of_none _ (Table.lookup_freshKey db.jobs) job

theorem enqueue_oneQueued_iff (h : OneQueued db) (inp : IntentInput) (wid pick : Nat) :
    OneQueued (accepted db (enqueueReconcilePicking cfg db inp wid pick)) ↔
      (0 < queuedReconciles db wid → reconcileAllowed db wid = true →
        ∃ e, pickedReconcileJob db wid pick = some e ∧ holdsLease cfg inp e.2 = true) := by
  cases hallow : reconcileAllowed db wid with
  | false =>
      rw [enqueueReconcilePicking_refused hallow]
      simpa using h
  | true =>
      obtain ⟨job, hjob, heq⟩ := enqueueReconcilePicking_allowed cfg inp pick hallow
      rw [heq]
      cases hlease : checkReconcileLeaseOn cfg inp (pickedReconcileJob db wid pick) with
      | error e =>
          refine ⟨fun _ _ _ => ?_, fun _ => h⟩
          by_contra hno
          rw [checkReconcileLeaseOn_ok_iff.mpr fun e he => ?_] at hlease
          · cases hlease
          · by_contra hheld
            exact hno ⟨e, he, by simpa using hheld⟩
      | ok u =>
          have hfree := checkReconcileLeaseOn_ok_iff.mp hlease
          show OneQueued (db.queueJob job) ↔ _
          constructor
          · intro hone hpos
            have hcount : queuedReconciles (db.queueJob job) wid = queuedReconciles db wid +
                Table.tally (isQueuedReconcile wid) job := queuedReconciles_queueJob job wid
            have htally : Table.tally (isQueuedReconcile wid) job = 1 := if_pos hjob
            have hle := hone wid
            omega
          · intro hheld v
            rw [queuedReconciles_queueJob]
            by_cases hv : v = wid
            · subst hv
              have hzero : queuedReconciles db v = 0 := by
                by_contra hne
                obtain ⟨e, he, hl⟩ := hheld (Nat.pos_of_ne_zero hne) rfl
                rw [hfree e he] at hl
                cases hl
              have hone : Table.tally (isQueuedReconcile v) job ≤ 1 := by
                unfold Table.tally
                split <;> omega
              omega
            · have hwid : job.workspaceId = wid := by
                simp only [isQueuedReconcile, Bool.and_eq_true, decide_eq_true_eq] at hjob
                exact hjob.1.1
              rw [tally_queued_other (by rw [hwid]; exact fun he => hv he.symm)]
              exact h v

/-! ### Executions -/

theorem endRow_same (cfg : Settings) (clk : Clock) (job : WorkspaceJob) (ending : ClaimEnd) :
    SameJob job (endRow cfg clk job ending) := by
  cases ending with
  | succeeded | failed | waits => exact ⟨rfl, rfl⟩
  | retry message code stage notBefore =>
      simp only [endRow]
      split <;> exact ⟨rfl, rfl⟩

theorem endRow_status (cfg : Settings) (clk : Clock) (job : WorkspaceJob) (ending : ClaimEnd) :
    ((endRow cfg clk job ending).status = .queued ↔ triesAgain cfg job ending = true) ∧
      (endRow cfg clk job ending).status ≠ .running := by
  cases ending with
  | succeeded => simp [endRow, triesAgain, markJobSucceeded]
  | failed message stage code => simp [endRow, triesAgain, markJobFailed]
  | retry message code stage notBefore =>
      simp only [endRow, triesAgain]
      split
      · rename_i h
        simp [h, requeueJob]
      · rename_i h
        simp [h, markJobFailed]
  | waits message code notBefore => simp [endRow, triesAgain, requeueJob]

theorem reclaimedRow_same (cfg : Settings) (clk : Clock) (jid : Nat) (job : WorkspaceJob) :
    SameJob job (reclaimedRow cfg clk jid job) := by
  simp only [reclaimedRow, tryScheduleWorkspaceJobRetry]
  by_cases hrem : attemptsRemain cfg job = true
  · rw [if_pos hrem]
    exact ⟨rfl, rfl⟩
  · rw [if_neg hrem]
    exact ⟨rfl, rfl⟩

theorem SameJob.flush {loaded new cur : WorkspaceJob} (h : SameJob loaded new) :
    SameJob cur (flushJob loaded new cur) := by
  simp only [SameJob, flushJob, h.1, h.2, if_true, and_self]

/-- The job of an execution is in the table, and its session says `RUNNING` until it is committed. -/
def LiveRows (s : ReconcileState) : Prop :=
  ∀ c e, s.live.lookup c = some e →
    (∃ cur, s.db.jobs.lookup e.jid = some cur ∧ SameJob e.row cur) ∧
      (e.locked = true → e.row.status = .running)

/-- What an execution writes: over its own version of the row until its claim is committed. -/
theorem write_jobs {s : ReconcileState} {e : LiveJob} {cur : WorkspaceJob}
    (hcur : s.db.jobs.lookup e.jid = some cur) (c : Nat) (new : WorkspaceJob) :
    (s.queue.write c e new).jobs =
      s.db.jobs.insert e.jid (flushJob e.row new (if e.locked then e.row else cur)) := by
  have hlook : s.queue.jobs.lookup e.jid = some cur := hcur
  simp only [QueueState.write, hlook]
  rfl

/-- The written row is that of the same job. -/
theorem LiveRows.written {s : ReconcileState} (h : LiveRows s) {c : Nat} {e : LiveJob}
    {cur new : WorkspaceJob} (he : s.live.lookup c = some e)
    (hcur : s.db.jobs.lookup e.jid = some cur) (hnew : SameJob e.row new) :
    SameJob cur (flushJob e.row new (if e.locked then e.row else cur)) ∧ SameJob e.row cur := by
  obtain ⟨⟨cur', hcur', hsame⟩, -⟩ := h c e he
  obtain rfl : cur' = cur := Option.some.inj (hcur'.symm.trans hcur)
  refine ⟨?_, hsame⟩
  split
  · exact SameJob.trans ⟨hsame.1.symm, hsame.2.symm⟩ hnew.flush
  · exact hnew.flush

/-- **The end of an execution**, over whatever its row has become. -/
theorem finish_oneQueued_iff {s : ReconcileState} (hrows : LiveRows s) {c : Nat} {e : LiveJob}
    (he : s.live.lookup c = some e) (h : OneQueued s.db) (clk : Clock) (ending : ClaimEnd) :
    OneQueued (s.withQueue ((s.queue.write c e (endRow cfg clk e.row ending)).drop c)).db ↔
      (e.row.jobType = .reconcileRuntime → e.row.status ≠ .queued →
        triesAgain cfg e.row ending = true →
        aloneQueued s.db e.jid e.row.workspaceId = true) := by
  obtain ⟨⟨cur, hcur, -⟩, hlocked⟩ := hrows c e he
  obtain ⟨hqueued, hnot⟩ := endRow_status cfg clk e.row ending
  obtain ⟨hflush, hsame⟩ := hrows.written he hcur (endRow_same cfg clk e.row ending)
  generalize endRow cfg clk e.row ending = new at hqueued hnot hflush ⊢
  show OneQueued { s.db with jobs := (s.queue.write c e new).jobs } ↔ _
  rw [write_jobs hcur]
  -- the status is written where the session's differs
  have hstatus : (flushJob e.row new (if e.locked then e.row else cur)).status =
      if new.status = e.row.status then (if e.locked then e.row else cur).status
      else new.status := rfl
  generalize flushJob e.row new (if e.locked then e.row else cur) = row at hflush hstatus ⊢
  rw [oneQueued_insert_iff hcur h, hflush.1.trans hsame.1, hflush.2.trans hsame.2]
  constructor
  · intro hall hrec hst htries
    refine hall ?_ hrec
    have hnew := hqueued.mpr htries
    rw [hstatus, if_neg (by rw [hnew]; exact hst.symm), hnew]
  · intro hall hst hrec
    by_cases hkept : new.status = e.row.status
    · -- the status is left as it is: the row was queued already
      rw [hstatus, if_pos hkept] at hst
      cases hlock : e.locked with
      | true => exact absurd (hkept.trans (hlocked hlock)) hnot
      | false =>
          rw [hlock, if_neg Bool.false_ne_true] at hst
          refine aloneQueued_iff.mpr fun j x hx hq => ?_
          have hcurq : isQueuedReconcile e.row.workspaceId cur = true := by
            simp [isQueuedReconcile, hsame.1, hsame.2, hrec, hst]
          exact Table.key_eq_of_rowCount_le_one (h _) hcur hcurq hx hq
    · rw [hstatus, if_neg hkept] at hst
      exact hall hrec (fun heq => hkept (hst.trans heq.symm)) (hqueued.mp hst)

/-- **The reclaim** of a row. -/
theorem reclaim_oneQueued_iff {clk : Clock} {jid : Nat} {job : WorkspaceJob}
    (hjob : db.jobs.lookup jid = some job) (h : OneQueued db) :
    OneQueued { db with jobs := db.jobs.insert jid (reclaimedRow cfg clk jid job) } ↔
      (job.jobType = .reconcileRuntime → attemptsRemain cfg job = true →
        aloneQueued db jid job.workspaceId = true) := by
  rw [oneQueued_insert_iff hjob h]
  unfold reclaimedRow tryScheduleWorkspaceJobRetry
  by_cases hrem : attemptsRemain cfg job = true
  · simp [hrem, requeueJob]
  · simp [hrem, markJobFailed]

/-! ### What every step keeps -/

theorem sameJob_insert {t : Table Nat WorkspaceJob} {jid : Nat} {job new : WorkspaceJob}
    (hjob : t.lookup jid = some job) (hsame : SameJob job new) {k : Nat} {row : WorkspaceJob}
    (hrow : t.lookup k = some row) :
    ∃ row', (t.insert jid new).lookup k = some row' ∧ SameJob row row' := by
  rw [Table.lookup_insert_eq]
  split
  · rename_i hk
    obtain rfl : job = row := Option.some.inj (hjob.symm.trans (hk ▸ hrow))
    exact ⟨new, rfl, hsame⟩
  · exact ⟨row, hrow, rfl, rfl⟩

/-- Every job stays, and no execution begins. -/
theorem LiveRows.frame {s s' : ReconcileState} (h : LiveRows s)
    (hjobs : ∀ k row, s.db.jobs.lookup k = some row →
      ∃ row', s'.db.jobs.lookup k = some row' ∧ SameJob row row')
    (hlive : ∀ c e, s'.live.lookup c = some e → s.live.lookup c = some e) : LiveRows s' := by
  intro c e he
  obtain ⟨⟨cur, hcur, hsame⟩, hlocked⟩ := h c e (hlive c e he)
  obtain ⟨row, hrow, hrowsame⟩ := hjobs e.jid cur hcur
  exact ⟨⟨row, hrow, hrowsame.1.trans hsame.1, hrowsame.2.trans hsame.2⟩, hlocked⟩

/-- An execution begins or moves on. -/
theorem LiveRows.insert {s s' : ReconcileState} (h : LiveRows s) {c : Nat} {e : LiveJob}
    (hlive : s'.live = s.live.insert c e) (hjobs : s'.db.jobs = s.db.jobs)
    (hrow : ∃ cur, s.db.jobs.lookup e.jid = some cur ∧ SameJob e.row cur)
    (hlocked : e.locked = true → e.row.status = .running) : LiveRows s' := by
  intro k x hx
  rw [hlive, Table.lookup_insert_eq] at hx
  rw [hjobs]
  split at hx
  · obtain rfl := Option.some.inj hx
    exact ⟨hrow, hlocked⟩
  · exact h k x hx

theorem write_live (s : QueueState) (c : Nat) (e : LiveJob) (new : WorkspaceJob) :
    (s.write c e new).live = s.live := by
  unfold QueueState.write
  split <;> rfl

/-- What an execution writes is its own job. -/
theorem LiveRows.write {s : ReconcileState} (h : LiveRows s) {c : Nat} {e : LiveJob}
    (he : s.live.lookup c = some e) {new : WorkspaceJob} (hnew : SameJob e.row new) :
    LiveRows (s.withQueue (s.queue.write c e new)) ∧
      ∃ row, (s.queue.write c e new).jobs.lookup e.jid = some row ∧ SameJob e.row row := by
  obtain ⟨⟨cur, hcur, -⟩, -⟩ := h c e he
  obtain ⟨hwritten, hsame⟩ := h.written he hcur hnew
  refine ⟨h.frame (fun k row hrow => ?_) fun k x hx => ?_, ?_⟩
  · show ∃ row', (s.queue.write c e new).jobs.lookup k = some row' ∧ SameJob row row'
    rw [write_jobs hcur]
    exact sameJob_insert hcur hwritten hrow
  · rwa [← show (s.queue.write c e new).live = s.live from write_live _ _ _ _]
  · rw [write_jobs hcur]
    exact ⟨_, by rw [Table.lookup_insert_eq, if_pos rfl], hsame.trans hwritten⟩

theorem LiveRows.step {s : ReconcileState} (h : LiveRows s) (st : ReconcileStep) :
    LiveRows (reconcileStep cfg s st) := by
  have hstays : ∀ k row, s.db.jobs.lookup k = some row →
      ∃ row', s.db.jobs.lookup k = some row' ∧ SameJob row row' :=
    fun k row hrow => ⟨row, hrow, rfl, rfl⟩
  cases st with
  | enqueue inp wid pick =>
      refine h.frame (fun k row hrow => ⟨row, ?_, rfl, rfl⟩) fun _ _ he => he
      simp only [reconcileStep]
      cases henq : enqueueReconcilePicking cfg s.db inp wid pick with
      | error err => exact hrow
      | ok db' =>
          obtain ⟨job, rfl⟩ := enqueueReconcilePicking_ok henq
          show (s.db.jobs.insert (Table.freshKey s.db.jobs) job).lookup k = some row
          rw [Table.lookup_insert_eq, if_neg (Table.ne_freshKey hrow)]
          exact hrow
  | claim entry clk jid =>
      simp only [reconcileStep, queueStep]
      split
      · exact h
      · rename_i job hclaim
        exact h.insert rfl rfl ⟨job, (claimable_some hclaim).1, rfl, rfl⟩ fun _ => rfl
  | adapterCommit c =>
      simp only [reconcileStep, queueStep]
      split
      · exact h
      · rename_i e he
        split
        · exact h
        · obtain ⟨hwrite, hrow⟩ := h.write he (SameJob.refl e.row)
          refine hwrite.insert (c := c) (e := { e with locked := false }) ?_ rfl hrow
            fun hlocked => absurd hlocked Bool.false_ne_true
          show s.live.insert c _ = (s.queue.write c e e.row).live.insert c _
          rw [write_live]
          rfl
  | adapterRollback c =>
      simp only [reconcileStep, queueStep]
      split
      · exact h
      · split
        · exact h
        · rename_i cur hcur
          exact h.insert rfl rfl ⟨cur, hcur, rfl, rfl⟩
            fun hlocked => absurd hlocked Bool.false_ne_true
  | reload c =>
      simp only [reconcileStep, queueStep]
      split
      · exact h
      · split
        · exact h
        · rename_i cur hcur
          split
          · exact h
          · rename_i hfree
            exact h.insert rfl rfl ⟨cur, hcur, rfl, rfl⟩ fun hlocked => absurd hlocked hfree
  | crash c => exact h.frame hstays fun _ _ he => (lookup_drop he).2
  | finish clk c ending =>
      simp only [reconcileStep]
      split
      · exact h
      · rename_i e he
        split
        · exact h
        · exact (h.write he (endRow_same cfg clk e.row ending)).1.frame
            (fun _ row hrow => ⟨row, hrow, rfl, rfl⟩) fun _ _ hx => (lookup_drop hx).2
  | reclaim clk jid =>
      simp only [reconcileStep]
      split
      · exact h
      · rename_i job hjob
        split
        · exact h.frame (fun _ _ hrow => sameJob_insert hjob (reclaimedRow_same cfg clk jid job) hrow)
            fun _ _ he => he
        · exact h
  | moved wid ws => exact h.frame hstays fun _ _ he => he

/-- **One step** leaves at most one queued reconcile exactly when it takes neither way to a
second. -/
theorem reconcileStep_oneQueued_iff {s : ReconcileState} (hrows : LiveRows s)
    (h : OneQueued s.db) (st : ReconcileStep) :
    OneQueued (reconcileStep cfg s st).db ↔ keepsOneQueued cfg s st = true := by
  cases st with
  | enqueue inp wid pick =>
      refine (enqueue_oneQueued_iff h inp wid pick).trans ?_
      simp only [keepsOneQueued, Bool.or_eq_true, decide_eq_true_eq, Bool.not_eq_true',
        Option.any_eq_true, Nat.pos_iff_ne_zero]
      cases reconcileAllowed s.db wid with
      | false => simp
      | true =>
          by_cases hzero : queuedReconciles s.db wid = 0
          · simp [hzero]
          · simp [hzero]
  | claim entry clk jid =>
      refine iff_of_true ?_ rfl
      simp only [reconcileStep, queueStep]
      split
      · exact h
      · exact h
  | adapterCommit c =>
      refine iff_of_true ?_ rfl
      simp only [reconcileStep, queueStep]
      split
      · exact h
      · rename_i e he
        split
        · exact h
        · rename_i hlock
          obtain ⟨⟨cur, hcur, -⟩, hrunning⟩ := hrows c e he
          have hlocked : e.locked = true := by simpa using hlock
          show OneQueued { s.db with jobs := (s.queue.write c e e.row).jobs }
          rw [write_jobs hcur]
          refine oneQueued_insert_of_imp hcur
            (hrows.written he hcur (SameJob.refl e.row)).1 (fun hst => ?_) h
          rw [hlocked, if_pos rfl, flushJob_self, hrunning hlocked] at hst
          cases hst
  | adapterRollback c =>
      refine iff_of_true ?_ rfl
      simp only [reconcileStep, queueStep]
      split
      · exact h
      · split
        · exact h
        · exact h
  | reload c =>
      refine iff_of_true ?_ rfl
      simp only [reconcileStep, queueStep]
      split
      · exact h
      · split
        · exact h
        · split
          · exact h
          · exact h
  | crash c => exact iff_of_true h rfl
  | finish clk c ending =>
      simp only [reconcileStep]
      cases he : s.live.lookup c with
      | none => exact iff_of_true h (by simp only [keepsOneQueued, he, Option.all_none])
      | some e =>
          simp only [keepsOneQueued, he, Option.all_some]
          cases hlock : s.queue.lockedBy (some c) e.jid with
          | true => simpa using h
          | false =>
              simp only [Bool.false_eq_true, if_false, Bool.false_or]
              rw [finish_oneQueued_iff hrows he h clk ending]
              simp only [Bool.or_eq_true, decide_eq_true_eq, Bool.not_eq_true']
              grind
  | reclaim clk jid =>
      simp only [reconcileStep]
      cases hjob : s.db.jobs.lookup jid with
      | none => exact iff_of_true h (by simp only [keepsOneQueued, hjob, Option.all_none])
      | some job =>
          simp only [keepsOneQueued, hjob, Option.all_some]
          by_cases hstuck : 0 < cfg.workspaceJobStuckTimeoutSeconds ∧
              isStuckRunning cfg clk job = true
          · rw [if_pos hstuck, reclaim_oneQueued_iff hjob h]
            simp only [hstuck.2, Int.not_le.mpr hstuck.1, Bool.or_eq_true, decide_eq_true_eq,
              Bool.not_eq_true']
            grind
          · rw [if_neg hstuck]
            refine iff_of_true h ?_
            simp only [Bool.or_eq_true, decide_eq_true_eq, Bool.not_eq_true']
            grind
  | moved wid ws => exact iff_of_true h rfl

end Step

/-! ## Runs -/

/-- **Queued reconciles.** From tables with at most one queued reconcile for each workspace, a run
keeps it so exactly when none of its steps shows a request the stale row instead of the queued one
or returns a row beside a queued one. -/
theorem one_queued_reconcile_iff {cfg : Settings} {db : Db} {steps : List ReconcileStep}
    (h : OneQueued db) :
    Always (reconcileStep cfg) (fun s => OneQueued s.db) { db := db } steps ↔
      Along (reconcileStep cfg) (fun s st => keepsOneQueued cfg s st = true) { db := db } steps := by
  have hidle : LiveRows { db := db } := by
    intro c e he
    simp at he
  exact always_iff_along hidle (fun _ st hrows _ => hrows.step st) h
    fun _ st hrows hone => reconcileStep_oneQueued_iff hrows hone st

/-- A running workspace, its `CREATE` done. -/
def reconcilableDb : Db :=
  run (step {}) sampleDb [.createWorkspace { now := 0 } 7 "a" {},
    .processNextQueuedJob (sampleWorker 1 sampleOrch) 1]

/-- The claim of job 2 is shown by a commit of the adapter, and the reclaim gives the job to a second
worker, which ends it. The first worker then retries. -/
def retriedReconcileRun : List ReconcileStep :=
  [.enqueue { now := 10 } 1 0,
   .claim .runPendingJobs { now := 11 } 2,
   .adapterCommit 0,
   .enqueue { now := 12 } 1 0,
   .reclaim { now := 400 } 2,
   .claim .runPendingJobs { now := 500 } 2,
   .finish { now := 501 } 1 .succeeded,
   .finish { now := 502 } 0 (.retry "runtime_not_healthy" "reconcile" .container 561),
   .enqueue { now := 503 } 1 0]

theorem oneQueued_of_rows {db : Db}
    (h : (Table.rows db.jobs).all fun j => j.jobType != .reconcileRuntime) : OneQueued db := by
  intro wid
  have hzero : queuedReconciles db wid = 0 := by
    refine List.countP_eq_zero.mpr fun j hj => ?_
    have hne := List.all_eq_true.mp h j hj
    simp only [bne_iff_ne, ne_eq] at hne
    simp [isQueuedReconcile, hne]
  omega

/-- The `SUCCEEDED` row returns alone, and holds the lease when the next request comes. -/
theorem retried_reconcile_stays_one :
    Along (reconcileStep {}) (fun s st => keepsOneQueued {} s st = true) { db := reconcilableDb }
        retriedReconcileRun ∧
      Always (reconcileStep {}) (fun s => OneQueued s.db) { db := reconcilableDb }
        retriedReconcileRun := by
  have hinit : OneQueued reconcilableDb := oneQueued_of_rows (by decide +kernel)
  have halong : Along (reconcileStep {}) (fun s st => keepsOneQueued {} s st = true)
      { db := reconcilableDb } retriedReconcileRun := by decide +kernel
  exact ⟨halong, (one_queued_reconcile_iff hinit).mpr halong⟩

/-- A reconcile runs on beyond the lease, another is queued, and the reclaim returns the first. -/
def staleReconcileRun : List ReconcileStep :=
  [.enqueue { now := 10 } 1 0,
   .claim .runPendingJobs { now := 11 } 2,
   .adapterCommit 0,
   .crash 0,
   .enqueue { now := 200 } 1 0,
   .reclaim { now := 400 } 2]

theorem stale_reconcile_returns :
    ¬ ∀ (cfg : Settings) (db : Db) (steps : List ReconcileStep), OneQueued db →
      Always (reconcileStep cfg) (fun s => OneQueued s.db) { db := db } steps := by
  intro h
  have hinit : OneQueued reconcilableDb := oneQueued_of_rows (by decide +kernel)
  have htwo := (h {} reconcilableDb staleReconcileRun hinit).last 1
  revert htwo
  decide +kernel

end Devnest
