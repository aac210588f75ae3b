import Devnest.Steps

/-!
# Executions of one job side by side

A claim locks the job row and writes `RUNNING` inside the worker's
transaction. The first commit of the topology adapter ends that
transaction: from then on `RUNNING` is visible, the lock is gone, and what
keeps other workers away is the status alone. `reclaim_stuck_running_jobs`
takes a row that is `RUNNING` for long, whether or not its worker still
lives, and a rollback of the adapter before its first commit takes the
claim itself back while the worker goes on.

The executions are numbered by their claims; each keeps the row as its
session holds it and, when it ends, updates the columns that differ from
it. Every write is noted with the claim it belongs to. Nothing in the row
tells claims apart, so `executions_exclude_each_other` needs that the two
steps above leave the executions of live workers alone.
-/

namespace Devnest

open Runs

/-! ## The queue -/

/-- A worker between its claim and its last commit. -/
structure LiveJob where
  jid : Nat
  entry : EntryPoint
  /-- The row as the session has it. -/
  row : WorkspaceJob
  /-- The claim is not committed yet. -/
  locked : Bool := true
  /-- Inside `_execute_job_body`. -/
  inBody : Bool := false

/-- A committed update of a job row by an execution. -/
structure JobWrite where
  jid : Nat
  claim : Nat
  before : WorkspaceJob
  after : WorkspaceJob

/-- Rows that a run of `reclaim_stuck_running_jobs` has read. -/
structure Reclaim where
  clk : Clock
  rows : List (Nat × WorkspaceJob)

/-- The committed job rows, the executions under way by the number of their claim, the
reclaims between read and commit, and what executions have written, newest first. -/
structure QueueState where
  jobs : Table Nat WorkspaceJob
  live : Table Nat LiveJob := ∅
  claims : Nat := 0
  reclaims : List Reclaim := []
  writes : List JobWrite := []

/-- The update of a row: the columns whose value differs from the one the session loaded. -/
def flushJob (loaded new cur : WorkspaceJob) : WorkspaceJob where
  workspaceId := if new.workspaceId = loaded.workspaceId then cur.workspaceId else new.workspaceId
  workspaceSnapshotId :=
    if new.workspaceSnapshotId = loaded.workspaceSnapshotId then cur.workspaceSnapshotId
    else new.workspaceSnapshotId
  jobType := if new.jobType = loaded.jobType then cur.jobType else new.jobType
  status := if new.status = loaded.status then cur.status else new.status
  requestedByUserId :=
    if new.requestedByUserId = loaded.requestedByUserId then cur.requestedByUserId
    else new.requestedByUserId
  requestedConfigVersion :=
    if new.requestedConfigVersion = loaded.requestedConfigVersion then cur.requestedConfigVersion
    else new.requestedConfigVersion
  attempt := if new.attempt = loaded.attempt then cur.attempt else new.attempt
  maxAttempts := if new.maxAttempts = loaded.maxAttempts then cur.maxAttempts else new.maxAttempts
  errorMsg := if new.errorMsg = loaded.errorMsg then cur.errorMsg else new.errorMsg
  createdAt := if new.createdAt = loaded.createdAt then cur.createdAt else new.createdAt
  startedAt := if new.startedAt = loaded.startedAt then cur.startedAt else new.startedAt
  finishedAt := if new.finishedAt = loaded.finishedAt then cur.finishedAt else new.finishedAt
  failureStage :=
    if new.failureStage = loaded.failureStage then cur.failureStage else new.failureStage
  failureCode := if new.failureCode = loaded.failureCode then cur.failureCode else new.failureCode
  nextAttemptAfter :=
    if new.nextAttemptAfter = loaded.nextAttemptAfter then cur.nextAttemptAfter
    else new.nextAttemptAfter

/-- Nobody else changed the row: the update is the whole new row. -/
@[simp] theorem flushJob_self (loaded new : WorkspaceJob) : flushJob loaded new loaded = new := by
  have hcol : ∀ {α : Type} [DecidableEq α] (a b : α), (if a = b then b else a) = a := by
    intro α _ a b
    split
    · rename_i h; exact h.symm
    · rfl
  cases new
  simp only [flushJob, hcol]

namespace QueueState

/-- An uncommitted claim other than `c` holds the row of `jid`. -/
def lockedBy (s : QueueState) (c : Option Nat) (jid : Nat) : Bool :=
  s.live.entries.any fun e => some e.1 != c && e.2.locked && e.2.jid == jid

/-- Some worker executes `jid`. -/
def isLive (s : QueueState) (jid : Nat) : Bool :=
  s.live.entries.any fun e => e.2.jid == jid

/-- `FOR UPDATE SKIP LOCKED`: an eligible row that no claim holds, and for the poll loop an
oldest one of these. -/
def claimable (s : QueueState) (entry : EntryPoint) (clk : Clock) (jid : Nat) : Option WorkspaceJob :=
  (s.jobs.lookup jid).filter fun job => queuedJobEligible clk job && !s.lockedBy none jid &&
    (entry == .runQueuedWorkspaceJobById || s.jobs.entries.all fun e =>
      !queuedJobEligible clk e.2 || s.lockedBy none e.1 || decide (job.createdAt ≤ e.2.createdAt))

/-- The commit of an execution whose session leaves the row as `new`. Before its first commit
the session works on its own version of the row. -/
def write (s : QueueState) (c : Nat) (e : LiveJob) (new : WorkspaceJob) : QueueState :=
  match s.jobs.lookup e.jid with
  | none => s
  | some cur =>
      let row := flushJob e.row new (if e.locked then e.row else cur)
      { s with jobs := s.jobs.insert e.jid row, writes := ⟨e.jid, c, cur, row⟩ :: s.writes }

def drop (s : QueueState) (c : Nat) : QueueState := { s with live := s.live.erase c }

end QueueState

/-- The row an execution leaves, if it commits: `loaded` is what the session holds besides the
job row, and `none` means that the workspace row is missing. -/
def LiveJob.outcome (cfg : Settings) (inp : WorkerInput) (loaded : Option Session) (e : LiveJob) :
    Option WorkspaceJob :=
  match loaded with
  | none => some (markJobFailed inp.clk e.row "Workspace row not found for job" (some .unknown)
      (some "missing_workspace"))
  | some s =>
      let ex := executeClaimedJob cfg inp e.entry { s with job := e.row }
      if ex.committed then some ex.session.job else none

/-- What the reclaim makes of a stuck row. -/
def reclaimedRow (cfg : Settings) (clk : Clock) (jid : Nat) (job : WorkspaceJob) : WorkspaceJob :=
  let message := "stuck_running_reclaimed:job_id=" ++ toString jid ++ ",started_at=" ++
    toString (job.startedAt.getD 0)
  match tryScheduleWorkspaceJobRetry cfg clk job message .unknown "STUCK_RUNNING_RECLAIMED" with
  | some job => job
  | none => markJobFailed clk job message (some .unknown) (some "STUCK_RUNNING_TERMINAL")

/-- The reclaim's update of one row it has read. -/
def reclaimWrite (cfg : Settings) (clk : Clock) (jobs : Table Nat WorkspaceJob)
    (read : Nat × WorkspaceJob) : Table Nat WorkspaceJob :=
  match jobs.lookup read.1 with
  | none => jobs
  | some cur => jobs.insert read.1 (flushJob read.2 (reclaimedRow cfg clk read.1 read.2) cur)

inductive QueueStep where
  /-- A request queues a job. -/
  | enqueue (job : WorkspaceJob)
  | claim (entry : EntryPoint) (clk : Clock) (jid : Nat)
  /-- The worker enters `_execute_job_body`. -/
  | executeJobBody (c : Nat)
  /-- The adapter commits the worker's session. -/
  | adapterCommit (c : Nat)
  /-- The adapter rolls the worker's session back and goes on. -/
  | adapterRollback (c : Nat)
  /-- An expired row is loaded again. -/
  | reload (c : Nat)
  | finish (c : Nat) (inp : WorkerInput) (loaded : Option Session)
  /-- The worker dies. -/
  | crash (c : Nat)
  /-- The query of a reclaim, with the order in which it gives the rows. -/
  | reclaimRead (clk : Clock) (order : List Nat)
  | reclaimCommit (k : Nat)

/-- A step that waits for a lock does nothing. -/
def queueStep (cfg : Settings) (s : QueueState) : QueueStep → QueueState
  | .enqueue job =>
      { s with jobs := s.jobs.insert (Table.freshKey s.jobs) { job with status := .queued } }
  | .claim entry clk jid =>
      match s.claimable entry clk jid with
      | none => s
      | some job =>
          { s with
            live := s.live.insert s.claims { jid, entry, row := markJobRunning clk job }
            claims := s.claims + 1 }
  | .executeJobBody c =>
      match s.live.lookup c with
      | none => s
      | some e => { s with live := s.live.insert c { e with inBody := true } }
  | .adapterCommit c =>
      match s.live.lookup c with
      | none => s
      | some e =>
          -- a later commit has nothing of the job row to write
          if !e.locked then s
          else { s.write c e e.row with live := s.live.insert c { e with locked := false } }
  | .adapterRollback c =>
      match s.live.lookup c with
      | none => s
      | some e =>
          match s.jobs.lookup e.jid with
          | none => s
          | some cur => { s with live := s.live.insert c { e with locked := false, row := cur } }
  | .reload c =>
      match s.live.lookup c with
      | none => s
      | some e =>
          match s.jobs.lookup e.jid with
          | none => s
          | some cur =>
              if e.locked then s
              else { s with live := s.live.insert c { e with row := cur } }
  | .finish c inp loaded =>
      match s.live.lookup c with
      | none => s
      | some e =>
          match e.outcome cfg inp loaded with
          | none => s.drop c
          | some new => if s.lockedBy (some c) e.jid then s else (s.write c e new).drop c
  | .crash c => s.drop c
  | .reclaimRead clk order =>
      if cfg.workspaceJobStuckTimeoutSeconds ≤ 0 then s
      else
        let stuck := order.filterMap fun jid =>
          ((s.jobs.lookup jid).filter (isStuckRunning cfg clk)).map (Prod.mk jid)
        { s with reclaims := s.reclaims ++ [⟨clk, stuck.take 20⟩] }
  | .reclaimCommit k =>
      match s.reclaims[k]? with
      | none => s
      | some r =>
          if r.rows.any fun read => s.lockedBy none read.1 then s
          else
            { s with
              jobs := r.rows.foldl (reclaimWrite cfg r.clk) s.jobs
              reclaims := s.reclaims.eraseIdx k }

/-! ## Without interruption

A claim whose execution ends at once, and a reclaim that commits what it has just read, do to
the job rows what the steps of `System` do. -/

theorem claimable_some {s : QueueState} {entry : EntryPoint} {clk : Clock} {jid : Nat} {job : WorkspaceJob}
    (h : s.claimable entry clk jid = some job) :
    s.jobs.lookup jid = some job ∧ job.status = .queued ∧ s.lockedBy none jid = false := by
  unfold QueueState.claimable at h
  obtain ⟨hjob, htest⟩ := Option.filter_eq_some_iff.mp h
  simp only [Bool.and_eq_true, queuedJobEligible, beq_iff_eq, Bool.not_eq_true'] at htest
  exact ⟨hjob, htest.1.1.1, htest.1.2⟩

theorem claimable_of_claimJob {entry : EntryPoint} {inp : WorkerInput} {jid : Nat} {db : Db}
    {s : Session} (hs : claimJob inp jid db = some s)
    (holdest : entry = .runPendingJobs → isOldestQueued inp.clk db jid = true) :
    ∃ job, QueueState.claimable { jobs := db.jobs } entry inp.clk jid = some job ∧
      s.job = markJobRunning inp.clk job := by
  unfold claimJob at hs
  split at hs
  · cases hs
  · rename_i job hjob
    split at hs
    · cases hs
    · rename_i helig
      obtain ⟨ws, -, rfl⟩ := Option.map_eq_some_iff.mp hs
      have helig : queuedJobEligible inp.clk job = true := by simpa using helig
      refine ⟨job, ?_, rfl⟩
      refine Option.filter_eq_some_iff.mpr ⟨hjob, ?_⟩
      have hunlocked : ∀ j, QueueState.lockedBy { jobs := db.jobs } none j = false := fun _ => rfl
      simp only [helig, hunlocked, Bool.not_false, Bool.and_true, Bool.true_and, Bool.or_false]
      cases entry with
      | runQueuedWorkspaceJobById => rfl
      | runPendingJobs =>
          have hold := holdest rfl
          simp only [isOldestQueued, hjob, helig, Bool.true_and, Table.rows, List.all_map] at hold
          exact hold

theorem claim_finish_jobs (cfg : Settings) {entry : EntryPoint} {inp : WorkerInput} {jid : Nat}
    {db : Db} {s : Session} (hs : claimJob inp jid db = some s)
    (holdest : entry = .runPendingJobs → isOldestQueued inp.clk db jid = true) :
    (run (queueStep cfg) { jobs := db.jobs } [.claim entry inp.clk jid, .finish 0 inp (some s)]).jobs
      = (runJob cfg entry inp jid db).jobs := by
  obtain ⟨job, hclaim, hrow⟩ := claimable_of_claimJob hs holdest
  obtain ⟨hjob, -, -⟩ := claimable_some hclaim
  rw [runJob_of_claim hs]
  simp only [run_cons, run_nil, queueStep, hclaim, Table.lookup_insert_eq, if_true,
    LiveJob.outcome, ← hrow]
  cases (executeClaimedJob cfg inp entry s).committed with
  | false => rfl
  | true =>
      have hfree : ∀ e : LiveJob, QueueState.lockedBy
          { jobs := db.jobs, live := AList.insert 0 e ∅, claims := 0 + 1 } (some 0) jid = false := by
        intro e
        simp [QueueState.lockedBy, AList.insert]
      simp only [if_true, hfree, Bool.false_eq_true, if_false, QueueState.drop, QueueState.write,
        hjob, flushJob_self]
      rfl

theorem reclaimWrite_eq (cfg : Settings) (clk : Clock) {db : Db} {jid : Nat} {job : WorkspaceJob}
    (hjob : db.jobs.lookup jid = some job) :
    reclaimWrite cfg clk db.jobs (jid, job) = (reclaimJob cfg clk db jid).jobs := by
  unfold reclaimWrite reclaimJob reclaimedRow
  simp only [hjob, flushJob_self]
  generalize tryScheduleWorkspaceJobRetry cfg clk job _ _ _ = retried
  cases retried with
  | some job => rfl
  | none =>
      simp only
      split
      · rfl
      · rfl

/-! ## The law and its condition -/

/-- A status no execution should touch again. -/
def WorkspaceJob.isTerminal (j : WorkspaceJob) : Bool :=
  j.status == .succeeded || j.status == .failed

/-- No two workers are inside `_execute_job_body` for one job, and a terminal status that an
execution has written is not changed by the execution of an earlier claim. -/
structure ExecutionsExclusive (s : QueueState) : Prop where
  single : ∀ c c' e e', s.live.lookup c = some e → s.live.lookup c' = some e' →
    e.inBody = true → e'.inBody = true → e.jid = e'.jid → c = c'
  settled : s.writes.Pairwise fun later earlier => earlier.jid = later.jid →
    earlier.after.isTerminal = true → later.claim < earlier.claim → later.after = later.before

/-- The reclaim leaves the jobs of live workers alone, and the adapter does not roll back a
claim. -/
def SparesLiveClaims (s : QueueState) (st : QueueStep) : Prop :=
  (match st with
    | .adapterRollback c => (s.live.lookup c).all fun e => !e.locked
    | .reclaimCommit k => (s.reclaims[k]?).all fun r => r.rows.all fun read => !s.isLive read.1
    | _ => true) = true

instance (s : QueueState) (st : QueueStep) : Decidable (SparesLiveClaims s st) :=
  inferInstanceAs (Decidable (_ = true))

/-! ## What a step keeps -/

/-- At most one execution of a job, claimed or committed as `RUNNING`; claims are numbered in
order, and nothing was written to the job of an execution by a later claim. -/
structure QueueOk (s : QueueState) : Prop where
  distinct : ∀ c c' e e', s.live.lookup c = some e → s.live.lookup c' = some e' →
    e.jid = e'.jid → c = c'
  visible : ∀ c e, s.live.lookup c = some e →
    ∃ row, s.jobs.lookup e.jid = some row ∧ (e.locked = false → row.status = .running)
  claimed : ∀ c e, s.live.lookup c = some e → e.locked = true → e.row.status = .running
  numbered : ∀ c e, s.live.lookup c = some e → c < s.claims
  written : ∀ w ∈ s.writes, w.claim < s.claims
  newest : ∀ w ∈ s.writes, ∀ c e, s.live.lookup c = some e → e.jid = w.jid → w.claim ≤ c
  settled : s.writes.Pairwise fun later earlier => earlier.jid = later.jid →
    earlier.after.isTerminal = true → later.claim < earlier.claim → later.after = later.before

theorem QueueOk.exclusive {s : QueueState} (h : QueueOk s) : ExecutionsExclusive s where
  single := fun c c' e e' he he' _ _ hjid => h.distinct c c' e e' he he' hjid
  settled := h.settled

theorem lockedBy_none {s : QueueState} {jid : Nat} (h : s.lockedBy none jid = false) :
    ∀ c e, s.live.lookup c = some e → e.locked = true → e.jid ≠ jid := by
  intro c e he hlock hjid
  have hmem : (⟨c, e⟩ : Sigma fun _ : Nat => LiveJob) ∈ s.live.entries :=
    AList.mem_lookup_iff.mp he
  have hno := List.any_eq_false.mp h _ hmem
  simp [hlock, hjid] at hno

theorem isLive_false {s : QueueState} {jid : Nat} (h : s.isLive jid = false) :
    ∀ c e, s.live.lookup c = some e → e.jid ≠ jid := by
  intro c e he hjid
  have hmem : (⟨c, e⟩ : Sigma fun _ : Nat => LiveJob) ∈ s.live.entries :=
    AList.mem_lookup_iff.mp he
  have hno := List.any_eq_false.mp h _ hmem
  simp [hjid] at hno

section Keeps

variable {s : QueueState}

theorem QueueOk.running {c : Nat} {e : LiveJob} {row : WorkspaceJob} (h : QueueOk s)
    (he : s.live.lookup c = some e) (hrow : s.jobs.lookup e.jid = some row)
    (hunlocked : e.locked = false) : row.status = .running := by
  obtain ⟨row', hrow', hrunning⟩ := h.visible c e he
  obtain rfl : row = row' := Option.some.inj (hrow.symm.trans hrow')
  exact hrunning hunlocked

/-- The rows of executions are all the invariant reads of the table. -/
theorem QueueOk.frame {s' : QueueState} (h : QueueOk s) (hlive : s'.live = s.live)
    (hclaims : s'.claims = s.claims) (hwrites : s'.writes = s.writes)
    (hjobs : ∀ c e row, s.live.lookup c = some e → s.jobs.lookup e.jid = some row →
      s'.jobs.lookup e.jid = some row) : QueueOk s' where
  distinct := by rw [hlive]; exact h.distinct
  visible := by
    rw [hlive]
    intro c e he
    obtain ⟨row, hrow, hrunning⟩ := h.visible c e he
    exact ⟨row, hjobs c e row he hrow, hrunning⟩
  claimed := by rw [hlive]; exact h.claimed
  numbered := by rw [hlive, hclaims]; exact h.numbered
  written := by rw [hwrites, hclaims]; exact h.written
  newest := by rw [hlive, hwrites]; exact h.newest
  settled := by rw [hwrites]; exact h.settled

/-- An execution moves on. -/
theorem QueueOk.update {c : Nat} {e e' : LiveJob} (h : QueueOk s) (he : s.live.lookup c = some e)
    (hjid : e'.jid = e.jid)
    (hvisible : ∀ row, s.jobs.lookup e.jid = some row → e'.locked = false → row.status = .running)
    (hclaimed : e'.locked = true → e'.row.status = .running) :
    QueueOk { s with live := s.live.insert c e' } where
  distinct := by
    -- the job of every entry is one that entry had before
    have hold : ∀ c₁ e₁, (s.live.insert c e').lookup c₁ = some e₁ →
        ∃ e₀, s.live.lookup c₁ = some e₀ ∧ e₀.jid = e₁.jid := by
      intro c₁ e₁ h₁
      rw [Table.lookup_insert_eq] at h₁
      split at h₁
      · rename_i hc
        subst hc
        cases h₁
        exact ⟨e, he, hjid.symm⟩
      · exact ⟨e₁, h₁, rfl⟩
    intro c₁ c₂ e₁ e₂ h₁ h₂ hsame
    obtain ⟨d₁, hd₁, hj₁⟩ := hold c₁ e₁ h₁
    obtain ⟨d₂, hd₂, hj₂⟩ := hold c₂ e₂ h₂
    exact h.distinct c₁ c₂ d₁ d₂ hd₁ hd₂ (by rw [hj₁, hj₂, hsame])
  visible := by
    intro c₁ e₁ h₁
    rw [Table.lookup_insert_eq] at h₁
    split at h₁
    · cases h₁
      obtain ⟨row, hrow, -⟩ := h.visible c e he
      rw [hjid]
      exact ⟨row, hrow, hvisible row hrow⟩
    · exact h.visible c₁ e₁ h₁
  claimed := by
    intro c₁ e₁ h₁ hlocked
    rw [Table.lookup_insert_eq] at h₁
    split at h₁
    · cases h₁
      exact hclaimed hlocked
    · exact h.claimed c₁ e₁ h₁ hlocked
  numbered := by
    intro c₁ e₁ h₁
    rw [Table.lookup_insert_eq] at h₁
    split at h₁
    · rename_i hc
      subst hc
      exact h.numbered c₁ e he
    · exact h.numbered c₁ e₁ h₁
  written := h.written
  newest := by
    intro w hw c₁ e₁ h₁ hsame
    rw [Table.lookup_insert_eq] at h₁
    split at h₁
    · rename_i hc
      subst hc
      cases h₁
      exact h.newest w hw c₁ e he (hjid.symm.trans hsame)
    · exact h.newest w hw c₁ e₁ h₁ hsame
  settled := h.settled

theorem lookup_drop {c c' : Nat} {e : LiveJob} (h : (s.drop c).live.lookup c' = some e) :
    c' ≠ c ∧ s.live.lookup c' = some e := by
  have hne : c' ≠ c := by
    rintro rfl
    simp [QueueState.drop, AList.lookup_erase] at h
  rw [QueueState.drop, AList.lookup_erase_ne hne] at h
  exact ⟨hne, h⟩

/-- An execution ends. -/
theorem QueueOk.drop (h : QueueOk s) (c : Nat) : QueueOk (s.drop c) where
  distinct := fun c₁ c₂ e₁ e₂ h₁ h₂ => h.distinct c₁ c₂ e₁ e₂ (lookup_drop h₁).2 (lookup_drop h₂).2
  visible := fun c₁ e₁ h₁ => h.visible c₁ e₁ (lookup_drop h₁).2
  claimed := fun c₁ e₁ h₁ => h.claimed c₁ e₁ (lookup_drop h₁).2
  numbered := fun c₁ e₁ h₁ => h.numbered c₁ e₁ (lookup_drop h₁).2
  written := h.written
  newest := fun w hw c₁ e₁ h₁ => h.newest w hw c₁ e₁ (lookup_drop h₁).2
  settled := h.settled

/-- The execution of claim `c` writes, no later claim has written before it, and no other
execution relies on the row. -/
theorem QueueOk.write {c : Nat} {e : LiveJob} (h : QueueOk s) (new : WorkspaceJob)
    (hc : c < s.claims) (hnewest : ∀ w ∈ s.writes, e.jid = w.jid → w.claim ≤ c)
    (hlive : ∀ c₁ e₁, s.live.lookup c₁ = some e₁ → e₁.jid = e.jid → c₁ = c ∧ e₁.locked = true) :
    QueueOk (s.write c e new) := by
  unfold QueueState.write
  cases hcur : s.jobs.lookup e.jid with
  | none => exact h
  | some cur =>
      refine ⟨h.distinct, ?_, h.claimed, h.numbered, ?_, ?_, ?_⟩
      · intro c₁ e₁ h₁
        rw [Table.lookup_insert_eq]
        split
        · rename_i hsame
          refine ⟨_, rfl, fun hunlocked => ?_⟩
          have hlocked := (hlive c₁ e₁ h₁ hsame).2
          rw [hunlocked] at hlocked
          cases hlocked
        · exact h.visible c₁ e₁ h₁
      · intro w hw
        rcases List.mem_cons.mp hw with rfl | hw
        · exact hc
        · exact h.written w hw
      · intro w hw c₁ e₁ h₁ hsame
        rcases List.mem_cons.mp hw with rfl | hw
        · exact Nat.le_of_eq (hlive c₁ e₁ h₁ hsame).1.symm
        · exact h.newest w hw c₁ e₁ h₁ hsame
      · refine List.pairwise_cons.mpr ⟨?_, h.settled⟩
        intro w hw hsame _ hlt
        have hle := hnewest w hw hsame.symm
        exact absurd hlt (Nat.not_lt.mpr hle)

/-- The row of an execution is locked or `RUNNING`, so it is not claimed again. -/
theorem QueueOk.claim (h : QueueOk s) {entry : EntryPoint} {clk : Clock} {jid : Nat}
    {job : WorkspaceJob} (hclaim : s.claimable entry clk jid = some job) :
    QueueOk { s with
      live := s.live.insert s.claims { jid, entry, row := markJobRunning clk job }
      claims := s.claims + 1 } := by
  obtain ⟨hjob, hqueued, hfree⟩ := claimable_some hclaim
  have hother : ∀ c e, s.live.lookup c = some e → e.jid ≠ jid := by
    intro c e he hsame
    cases hlock : e.locked with
    | true => exact lockedBy_none hfree c e he hlock hsame
    | false =>
        have hrunning := h.running he (hsame ▸ hjob) hlock
        rw [hqueued] at hrunning
        cases hrunning
  refine ⟨?_, ?_, ?_, ?_, ?_, ?_, h.settled⟩
  · intro c c' e e' he he' hsame
    rw [Table.lookup_insert_eq] at he he'
    split at he
    · rename_i hc
      split at he'
      · rename_i hc'
        rw [hc, hc']
      · cases he
        exact absurd hsame.symm (hother c' e' he')
    · split at he'
      · cases he'
        exact absurd hsame (hother c e he)
      · exact h.distinct c c' e e' he he' hsame
  · intro c e he
    rw [Table.lookup_insert_eq] at he
    split at he
    · cases he
      exact ⟨job, hjob, fun hunlocked => by cases hunlocked⟩
    · exact h.visible c e he
  · intro c e he hlocked
    rw [Table.lookup_insert_eq] at he
    split at he
    · cases he
      rfl
    · exact h.claimed c e he hlocked
  · intro c e he
    rw [Table.lookup_insert_eq] at he
    show c < s.claims + 1
    split at he
    · omega
    · have := h.numbered c e he
      omega
  · intro w hw
    have := h.written w hw
    show w.claim < s.claims + 1
    omega
  · intro w hw c e he hsame
    rw [Table.lookup_insert_eq] at he
    split at he
    · have := h.written w hw
      omega
    · exact h.newest w hw c e he hsame

theorem reclaimWrite_lookup (cfg : Settings) (clk : Clock) (jobs : Table Nat WorkspaceJob)
    {read : Nat × WorkspaceJob} {jid : Nat} (h : read.1 ≠ jid) :
    (reclaimWrite cfg clk jobs read).lookup jid = jobs.lookup jid := by
  unfold reclaimWrite
  split
  · rfl
  · rw [Table.lookup_insert_eq, if_neg h.symm]

theorem reclaimWrites_lookup (cfg : Settings) (clk : Clock) (rows : List (Nat × WorkspaceJob))
    (jobs : Table Nat WorkspaceJob) {jid : Nat} (h : ∀ read ∈ rows, read.1 ≠ jid) :
    (rows.foldl (reclaimWrite cfg clk) jobs).lookup jid = jobs.lookup jid := by
  induction rows generalizing jobs with
  | nil => rfl
  | cons read rows ih =>
      rw [List.foldl_cons, ih _ fun r hr => h r (List.mem_cons_of_mem _ hr)]
      exact reclaimWrite_lookup cfg clk jobs (h read List.mem_cons_self)

end Keeps

theorem drop_write (s : QueueState) (c : Nat) (e : LiveJob) (new : WorkspaceJob) :
    (s.write c e new).drop c = (s.drop c).write c e new := by
  unfold QueueState.write
  have hjobs : (s.drop c).jobs.lookup e.jid = s.jobs.lookup e.jid := rfl
  rw [hjobs]
  cases s.jobs.lookup e.jid with
  | none => rfl
  | some cur => rfl

/-- An execution ends with a commit. -/
theorem QueueOk.finish {s : QueueState} {c : Nat} {e : LiveJob} (h : QueueOk s)
    (he : s.live.lookup c = some e) (new : WorkspaceJob) : QueueOk ((s.write c e new).drop c) := by
  rw [drop_write]
  refine (h.drop c).write new (h.numbered c e he) ?_ ?_
  · intro w hw hsame
    exact h.newest w hw c e he hsame
  · intro c₁ e₁ h₁ hsame
    obtain ⟨hne, h₁⟩ := lookup_drop h₁
    exact absurd (h.distinct c₁ c e₁ e h₁ he hsame) hne

/-- The first commit of the adapter. -/
theorem QueueOk.expose {s : QueueState} {c : Nat} {e : LiveJob} (h : QueueOk s)
    (he : s.live.lookup c = some e) (hlocked : e.locked = true) :
    QueueOk { s.write c e e.row with live := s.live.insert c { e with locked := false } } := by
  have hwrite : QueueOk (s.write c e e.row) := by
    refine h.write e.row (h.numbered c e he) (fun w hw hsame => h.newest w hw c e he hsame) ?_
    intro c₁ e₁ h₁ hsame
    obtain rfl := h.distinct c₁ c e₁ e h₁ he hsame
    obtain rfl : e₁ = e := Option.some.inj (h₁.symm.trans he)
    exact ⟨rfl, hlocked⟩
  obtain ⟨cur, hcur, -⟩ := h.visible c e he
  have hlive : (s.write c e e.row).live = s.live := by rw [QueueState.write, hcur]
  have hrow : (s.write c e e.row).jobs.lookup e.jid = some e.row := by
    rw [QueueState.write, hcur]
    simp [hlocked]
  rw [← hlive] at he ⊢
  refine hwrite.update he rfl ?_ (fun h' => by cases h')
  intro row h' _
  rw [hrow] at h'
  cases h'
  exact h.claimed c e (hlive ▸ he) hlocked

/-- One step. -/
theorem QueueOk.step {cfg : Settings} {s : QueueState} {st : QueueStep} (h : QueueOk s)
    (hspares : SparesLiveClaims s st) : QueueOk (queueStep cfg s st) := by
  cases st with
  | enqueue job =>
      refine h.frame rfl rfl rfl fun c e row _ hrow => ?_
      rw [queueStep, Table.lookup_insert_eq, if_neg (Table.ne_freshKey hrow)]
      exact hrow
  | claim entry clk jid =>
      simp only [queueStep]
      split
      · exact h
      · rename_i job hclaim
        exact h.claim hclaim
  | executeJobBody c =>
      simp only [queueStep]
      split
      · exact h
      · rename_i e he
        exact h.update he rfl (fun row hrow hunlocked => h.running he hrow hunlocked)
          (h.claimed c e he)
  | adapterCommit c =>
      simp only [queueStep]
      split
      · exact h
      · rename_i e he
        split
        · exact h
        · rename_i hlocked
          exact h.expose he (by simpa using hlocked)
  | adapterRollback c =>
      simp only [queueStep]
      split
      · exact h
      · rename_i e he
        have hunlocked : e.locked = false := by
          simpa [SparesLiveClaims, he] using hspares
        split
        · exact h
        · rename_i cur hcur
          exact h.update he rfl (fun row hrow _ => h.running he hrow hunlocked)
            (fun hlocked => by cases hlocked)
  | reload c =>
      simp only [queueStep]
      split
      · exact h
      · rename_i e he
        split
        · exact h
        · rename_i cur hcur
          split
          · exact h
          · rename_i hunlocked
            exact h.update he rfl (fun row hrow hunlocked => h.running he hrow hunlocked)
              (fun hlocked => absurd hlocked hunlocked)
  | finish c inp loaded =>
      simp only [queueStep]
      split
      · exact h
      · rename_i e he
        split
        · exact h.drop c
        · rename_i new _
          split
          · exact h
          · exact h.finish he new
  | crash c => exact h.drop c
  | reclaimRead clk order =>
      simp only [queueStep]
      split
      · exact h
      · exact h.frame rfl rfl rfl fun c e row _ hrow => hrow
  | reclaimCommit k =>
      simp only [queueStep]
      split
      · exact h
      · rename_i r hr
        split
        · exact h
        · refine h.frame rfl rfl rfl fun c e row he hrow => ?_
          have hidle : ∀ read ∈ r.rows, s.isLive read.1 = false := by
            simpa [SparesLiveClaims, hr] using hspares
          rw [← hrow]
          refine reclaimWrites_lookup cfg r.clk r.rows s.jobs fun read hread hjid => ?_
          exact isLive_false (hidle read hread) c e he hjid.symm

/-- No worker is at work yet; the table may hold anything. -/
def QueueState.Idle (s : QueueState) : Prop :=
  s.live = ∅ ∧ s.writes = []

theorem QueueOk.of_idle {s : QueueState} (h : s.Idle) : QueueOk s := by
  obtain ⟨hlive, hwrites⟩ := h
  have hnone : ∀ c e, s.live.lookup c ≠ some e := by
    intro c e he
    rw [hlive] at he
    simp at he
  refine ⟨?_, ?_, ?_, ?_, ?_, ?_, ?_⟩
  · exact fun c _ e _ he => absurd he (hnone c e)
  · exact fun c e he => absurd he (hnone c e)
  · exact fun c e he => absurd he (hnone c e)
  · exact fun c e he => absurd he (hnone c e)
  · simp [hwrites]
  · simp [hwrites]
  · simp [hwrites]

/-- **Executions exclude each other.** In every run in which the reclaim leaves the jobs of
live workers alone and no rollback takes back the claim of a worker that goes on, no two
workers execute one job and no execution touches what a later claim has settled. -/
theorem executions_exclude_each_other (cfg : Settings) (s : QueueState) (hs : s.Idle)
    (steps : List QueueStep) (h : Along (queueStep cfg) SparesLiveClaims s steps) :
    Always (queueStep cfg) ExecutionsExclusive s steps := by
  have halways : Always (queueStep cfg) QueueOk s steps :=
    always_of_along (QueueOk.of_idle hs) (fun _ _ hok hspares => hok.step hspares) h
  exact halways.mono fun _ hok => hok.exclusive

/-- A workspace has been created; its job is the first. -/
def newJobDb : Db := step {} sampleDb (.createWorkspace { now := 0 } 7 "a" {})

def newJobQueue : QueueState := { jobs := newJobDb.jobs }

/-- What a worker loads besides the job row. -/
def newJobSession : Option Session := claimJob (sampleWorker 1 sampleOrch) 1 newJobDb

/-- Job 1 is claimed as `c` at `now`, and its bring-up begins. -/
def bringUpBegins (c now : Nat) : List QueueStep :=
  [.claim .runPendingJobs { now := now } 1, .executeJobBody c, .adapterCommit c]

/-- Another worker and a reclaim find nothing to take while the bring-up goes on. -/
def quickBringUp : List QueueStep :=
  bringUpBegins 0 1 ++ [.claim .runPendingJobs { now := 2 } 1, .reclaimRead { now := 100 } [1],
    .reclaimCommit 0, .finish 0 (sampleWorker 101 sampleOrch) newJobSession]

theorem quick_bring_up_is_alone :
    Along (queueStep {}) SparesLiveClaims newJobQueue quickBringUp ∧
      Always (queueStep {}) ExecutionsExclusive newJobQueue quickBringUp := by
  have hspares : Along (queueStep {}) SparesLiveClaims newJobQueue quickBringUp := by
    decide +kernel
  exact ⟨hspares, executions_exclude_each_other {} newJobQueue ⟨rfl, rfl⟩ quickBringUp hspares⟩

/-- After five minutes the reclaim queues the job of a live worker again; a second worker
brings it up, and the first one then fails. -/
def slowBringUp : List QueueStep :=
  bringUpBegins 0 1 ++ [.reclaimRead { now := 400 } [1], .reclaimCommit 0] ++
    bringUpBegins 1 500 ++ [.finish 1 (sampleWorker 501 sampleOrch) newJobSession,
      .finish 0 (sampleWorker 600 { bringUpWorkspaceRuntime := .returned { success := false } })
        newJobSession]

theorem slow_bring_up_runs_twice :
    ((run (queueStep {}) newJobQueue (slowBringUp.take 8)).live.entries.map
      fun e => (e.1, e.2.jid, e.2.inBody)) = [(1, 1, true), (0, 1, true)] ∧
    ((run (queueStep {}) newJobQueue slowBringUp).writes.map
      fun w => (w.jid, w.claim, w.before.status, w.after.status)) =
        [(1, 0, .succeeded, .queued), (1, 1, .running, .succeeded), (1, 1, .queued, .running),
          (1, 0, .queued, .running)] ∧
    ¬ Always (queueStep {}) ExecutionsExclusive newJobQueue slowBringUp := by
  refine ⟨by decide +kernel, by decide +kernel, fun h => ?_⟩
  exact absurd h.last.settled (by decide +kernel)

/-- A rollback of the adapter before its first commit: the job is queued again under the
worker's feet. -/
def rolledBackClaim : List QueueStep :=
  [.claim .runPendingJobs { now := 1 } 1, .executeJobBody 0, .adapterRollback 0,
    .claim .runPendingJobs { now := 2 } 1, .executeJobBody 1]

example : ((run (queueStep {}) newJobQueue rolledBackClaim).live.entries.map
    fun e => (e.1, e.2.jid, e.2.inBody)) = [(1, 1, true), (0, 1, true)] := by decide +kernel

end Devnest
