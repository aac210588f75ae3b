import Mathlib.Algebra.BigOperators.Ring.Finset
import Mathlib.Algebra.Order.BigOperators.Group.Finset
import Mathlib.Data.Finset.Max
import Devnest.Attempts

/-!
# Ticks of the job queue

`run_pending_jobs`: up to `limit` turns, each of which claims the oldest
eligible job and runs it in a session of its own, then the cleanup drain.
A turn that meets an exception the worker does not catch is rolled back,
and the exception leaves the tick.

`ticks_bounded` says that without such exceptions no job is executed more
often than its attempts and waits allow, and that no eligible job is kept
waiting longer than the older ones need. With one, the oldest job is
claimed again by every tick (`import_blocks_queue`).
-/

namespace Devnest

open Runs

/-! ## One turn -/

/-- What one turn of the loop meets. -/
structure Turn where
  inp : WorkerInput
  /-- Which of several equally old rows the query returns. -/
  pick : Nat := 0

/-- The row `try_claim_next_queued_workspace_job` selects. -/
def nextQueuedJob (clk : Clock) (pick : Nat) (db : Db) : Option Nat :=
  if isOldestQueued clk db pick then some pick
  else db.jobs.keys.find? fun jid => isOldestQueued clk db jid

/-- The jobs that a query at this time may return. -/
def eligibleJobs (clk : Clock) (db : Db) : List Nat :=
  db.jobs.keys.filter fun jid => (db.jobs.lookup jid).any (queuedJobEligible clk)

/-- A turn that claimed a job. -/
structure TurnLog where
  jid : Nat
  ended : ExecutionEnd
  eligible : List Nat
  deriving DecidableEq, Repr

/-- The execution of the claimed job; without its workspace a job is settled at once. -/
def turnLog (cfg : Settings) (inp : WorkerInput) (jid : Nat) (db : Db) : TurnLog where
  jid := jid
  ended := ((claimJob inp jid db).map (executionEnd cfg .runPendingJobs inp)).getD .reached
  eligible := eligibleJobs inp.clk db

/-! ## One tick -/

/-- What a tick has done. -/
structure TickResult where
  logs : List TurnLog
  db : Db
  raised : Bool

/-- The loop of `run_pending_jobs`. -/
def runTurns (cfg : Settings) : List Turn → Db → TickResult
  | [], db => ⟨[], db, false⟩
  | t :: ts, db =>
      match nextQueuedJob t.inp.clk t.pick db with
      | none => ⟨[], db, false⟩
      | some jid =>
          let log := turnLog cfg t.inp jid db
          let db := runJob cfg .runPendingJobs t.inp jid db
          if log.ended = .crashed then ⟨[log], db, true⟩
          else
            let rest := runTurns cfg ts db
            ⟨log :: rest.logs, rest.db, rest.raised⟩

/-- The turns of a tick, `max(1, limit)` of them, and what the drain meets. -/
structure Tick where
  first : Turn
  rest : List Turn := []
  /-- `none`: the drain raises, and is rolled back. -/
  drain : Option (List DrainAnswer) := some []

/-- `run_pending_jobs`. -/
def runPendingJobs (cfg : Settings) (db : Db) (tick : Tick) : TickResult :=
  let loop := runTurns cfg (tick.first :: tick.rest) db
  if loop.raised then loop
  else { loop with db := (tick.drain.map (drainPendingCleanupTasks loop.db)).getD loop.db }

/-- The tables after a tick. -/
def tickStep (cfg : Settings) (db : Db) (tick : Tick) : Db := (runPendingJobs cfg db tick).db

/-- What the ticks of a run did, tick by tick. -/
def tickLogs (cfg : Settings) (db : Db) : List Tick → List (List TurnLog)
  | [] => []
  | tick :: ticks => (runPendingJobs cfg db tick).logs :: tickLogs cfg (tickStep cfg db tick) ticks

/-! ## The two promises -/

/-- The executions of a job, and those that ended in a wait. -/
def executionsIn (jid : Nat) (logs : List TurnLog) : Nat := logs.countP fun l => l.jid = jid

def waitsIn (jid : Nat) (logs : List TurnLog) : Nat :=
  logs.countP fun l => l.jid = jid && l.ended = .waited

def waitsOf (jid : Nat) (logs : List (List TurnLog)) : Nat := waitsIn jid logs.flatten

/-- No job is executed by more ticks than it has attempts and waits. -/
def BoundedExecution (cfg : Settings) (db : Db) (ticks : List Tick) : Prop :=
  ∀ jid job, db.jobs.lookup jid = some job →
    ((tickLogs cfg db ticks).countP fun logs => logs.any fun l => l.jid = jid)
      ≤ effectiveMaxAttempts cfg job + waitsOf jid (tickLogs cfg db ticks)

/-- The job is `QUEUED` and past its backoff at every turn. -/
def EligibleThroughout (job : WorkspaceJob) (ticks : List Tick) : Prop :=
  ∀ tick ∈ ticks, queuedJobEligible tick.first.inp.clk job = true

/-- The jobs that were eligible at some turn and are not younger than `jid`. -/
def olderEligible (db : Db) (jid : Nat) (logs : List (List TurnLog)) : Finset Nat :=
  (logs.flatten.flatMap (·.eligible)).toFinset.filter fun a =>
    a ≠ jid ∧ ((db.jobs.lookup a).map (·.createdAt)).getD 0
      ≤ ((db.jobs.lookup jid).map (·.createdAt)).getD 0

/-- How often a job may be executed. -/
def attemptBound (cfg : Settings) (db : Db) (logs : List (List TurnLog)) (a : Nat) : Int :=
  ((db.jobs.lookup a).map (effectiveMaxAttempts cfg)).getD 0 + waitsOf a logs

/-- A job that is eligible is claimed once more ticks have passed than the older eligible
jobs may take. -/
def NoHeadOfLineBlocking (cfg : Settings) (db : Db) (ticks : List Tick) : Prop :=
  ∀ jid job, db.jobs.lookup jid = some job → EligibleThroughout job ticks →
    ∑ a ∈ olderEligible db jid (tickLogs cfg db ticks), attemptBound cfg db (tickLogs cfg db ticks) a
      < ticks.length →
    ∃ logs ∈ tickLogs cfg db ticks, ∃ l ∈ logs, l.jid = jid

/-- No execution of the tick raises an exception that the worker does not catch. -/
def Tick.Caught (cfg : Settings) (db : Db) (tick : Tick) : Prop :=
  ∀ l ∈ (runPendingJobs cfg db tick).logs, l.ended ≠ .crashed

instance (cfg : Settings) (db : Db) (tick : Tick) : Decidable (tick.Caught cfg db) :=
  inferInstanceAs (Decidable (∀ l ∈ (runPendingJobs cfg db tick).logs, l.ended ≠ .crashed))

/-! ## The claimed job -/

theorem isOldestQueued_spec {clk : Clock} {db : Db} {jid : Nat}
    (h : isOldestQueued clk db jid = true) :
    ∃ job, db.jobs.lookup jid = some job ∧ queuedJobEligible clk job = true ∧
      ∀ jid' job', db.jobs.lookup jid' = some job' → queuedJobEligible clk job' = true →
        job.createdAt ≤ job'.createdAt := by
  unfold isOldestQueued at h
  split at h
  · cases h
  · rename_i job hjob
    obtain ⟨helig, hall⟩ := Bool.and_eq_true_iff.mp h
    refine ⟨job, hjob, helig, fun jid' job' hjob' helig' => ?_⟩
    have hrow := List.all_eq_true.mp hall job' (Table.mem_rows_iff.mpr ⟨jid', hjob'⟩)
    simpa [helig'] using hrow

theorem nextQueuedJob_oldest {clk : Clock} {pick jid : Nat} {db : Db}
    (h : nextQueuedJob clk pick db = some jid) : isOldestQueued clk db jid = true := by
  unfold nextQueuedJob at h
  split at h
  · rename_i hpick
    obtain rfl := Option.some.inj h
    exact hpick
  · exact List.find?_some h

/-- Where a job is eligible, one is claimed. -/
theorem nextQueuedJob_ne_none {clk : Clock} {jid : Nat} {db : Db} {job : WorkspaceJob} (pick : Nat)
    (hjob : db.jobs.lookup jid = some job) (helig : queuedJobEligible clk job = true) :
    nextQueuedJob clk pick db ≠ none := by
  -- an eligible row of the least age is an oldest one
  obtain ⟨old, hold, hmin⟩ := Finset.exists_min_image
    ((Table.rows db.jobs).filter (queuedJobEligible clk)).toFinset (·.createdAt)
    ⟨job, by simpa using ⟨Table.mem_rows_iff.mpr ⟨jid, hjob⟩, helig⟩⟩
  obtain ⟨hrow, holdelig⟩ : old ∈ Table.rows db.jobs ∧ queuedJobEligible clk old = true := by
    simpa using hold
  obtain ⟨k, hk⟩ := Table.mem_rows_iff.mp hrow
  have holdest : isOldestQueued clk db k = true := by
    simp only [isOldestQueued, hk, holdelig, Bool.true_and, List.all_eq_true, Bool.or_eq_true,
      Bool.not_eq_true', decide_eq_true_eq]
    intro j hj
    cases hje : queuedJobEligible clk j with
    | false => exact .inl rfl
    | true => exact .inr (hmin j (by simpa using ⟨hj, hje⟩))
  unfold nextQueuedJob
  split
  · simp
  · intro hnone
    have hkeys : k ∈ db.jobs.keys := AList.mem_keys.mp (AList.lookup_isSome.mp (by rw [hk]; rfl))
    exact List.find?_eq_none.mp hnone k hkeys holdest

theorem mem_eligibleJobs {clk : Clock} {db : Db} {jid : Nat} {job : WorkspaceJob}
    (hjob : db.jobs.lookup jid = some job) (helig : queuedJobEligible clk job = true) :
    jid ∈ eligibleJobs clk db := by
  have hkeys : jid ∈ db.jobs.keys := AList.mem_keys.mp (AList.lookup_isSome.mp (by rw [hjob]; rfl))
  exact List.mem_filter.mpr ⟨hkeys, by simp [hjob, helig]⟩

/-! ## What a turn does to the rows -/

/-- A claimed row is written once, and as its log says. -/
theorem runJob_row {cfg : Settings} {inp : WorkerInput} {jid : Nat} {db : Db} {job : WorkspaceJob}
    (hjob : db.jobs.lookup jid = some job) (helig : queuedJobEligible inp.clk job = true)
    (hcaught : (turnLog cfg inp jid db).ended ≠ .crashed) :
    ∃ job', (runJob cfg .runPendingJobs inp jid db).jobs = db.jobs.insert jid job' ∧
      JobFate cfg inp.clk (markJobRunning inp.clk job) job' ∧
      ((turnLog cfg inp jid db).ended = .waited ↔ isWaitingForCapacity job' = true) := by
  cases hs : claimJob inp jid db with
  | none =>
      -- the workspace row is missing
      have hws : db.workspaces.lookup job.workspaceId = none := by
        simpa [claimJob, hjob, helig] using hs
      have hws' : db.workspaces.lookup (markJobRunning inp.clk job).workspaceId = none := hws
      refine ⟨markJobFailed inp.clk (markJobRunning inp.clk job) "Workspace row not found for job"
        (some .unknown) (some "missing_workspace"), ?_, .failed, ?_⟩
      · simp only [runJob, hjob, helig, hws', Bool.not_true, Bool.false_eq_true, if_false]
      · simp [turnLog, hs, isWaitingForCapacity, markJobFailed]
  | some s =>
      obtain ⟨job₀, hjob₀, hrow, -⟩ := claimJob_row hs
      obtain rfl : job = job₀ := Option.some.inj (hjob.symm.trans hjob₀)
      have hended : (turnLog cfg inp jid db).ended = executionEnd cfg .runPendingJobs inp s := by
        simp [turnLog, hs]
      rw [hended] at hcaught ⊢
      have hcom : (executeClaimedJob cfg inp .runPendingJobs s).committed = true := by
        by_contra hno
        exact hcaught (by simp [executionEnd, hno])
      refine ⟨(executeClaimedJob cfg inp .runPendingJobs s).session.job, ?_, ?_, ?_⟩
      · rw [runJob_of_claim hs, if_pos hcom, commit_jobs]
      · rw [← hrow]
        exact executeClaimedJob_fate cfg inp hcom
      · simp [executionEnd, hcom]

/-- How often a row may still be executed, not counting waits. -/
def remaining (cfg : Settings) (a : Nat) (db : Db) : Int :=
  match db.jobs.lookup a with
  | none => 0
  | some job =>
      if job.status = .queued then max 1 (effectiveMaxAttempts cfg job - job.attempt) else 0

theorem remaining_le (cfg : Settings) (a : Nat) {db : Db} {job : WorkspaceJob}
    (hjob : db.jobs.lookup a = some job) : remaining cfg a db ≤ effectiveMaxAttempts cfg job := by
  have hpos : 1 ≤ effectiveMaxAttempts cfg job := by
    unfold effectiveMaxAttempts
    split <;> omega
  simp only [remaining, hjob]
  split <;> omega

theorem remaining_nonneg (cfg : Settings) (a : Nat) (db : Db) : 0 ≤ remaining cfg a db := by
  unfold remaining
  split
  · exact le_rfl
  · split <;> omega

/-- What a row looks like after its execution: it waits, or has another attempt and one of
them less, or is settled. -/
theorem JobFate.cases_status {cfg : Settings} {clk : Clock} {j j' : WorkspaceJob}
    (h : JobFate cfg clk j j') :
    (j'.status = .queued ∧ isWaitingForCapacity j' = true) ∨
    (j'.status = .queued ∧ isWaitingForCapacity j' = false ∧
      (j.attempt : Int) < effectiveMaxAttempts cfg j) ∨
    (j'.status ≠ .queued ∧ isWaitingForCapacity j' = false) := by
  cases h with
  | waits => exact .inl ⟨rfl, rfl⟩
  | @retried message code stage n hremain hstage =>
      refine .inr (.inl ⟨rfl, ?_, by simpa [attemptsRemain] using hremain⟩)
      cases stage <;> first | rfl | exact absurd rfl hstage
  | succeeded => exact .inr (.inr ⟨by simp [markJobSucceeded], rfl⟩)
  | failed => exact .inr (.inr ⟨by simp [markJobFailed], rfl⟩)

/-- The budget of a row after its execution. -/
theorem JobFate.remaining {cfg : Settings} {clk : Clock} {job job' : WorkspaceJob}
    (h : JobFate cfg clk (markJobRunning clk job) job') :
    1 + (if job'.status = .queued then max 1 (effectiveMaxAttempts cfg job' - job'.attempt) else 0)
      ≤ max 1 (effectiveMaxAttempts cfg job - job.attempt)
        + (if isWaitingForCapacity job' = true then 1 else 0) := by
  obtain ⟨hattempt, hmax, -⟩ := h.budget
  have heff : effectiveMaxAttempts cfg job' = effectiveMaxAttempts cfg job := by
    simp only [effectiveMaxAttempts, hmax, markJobRunning]
  have hnext : (job'.attempt : Int) = job.attempt + 1 := by
    rw [hattempt]
    simp [markJobRunning]
  rcases h.cases_status with ⟨hst, hwait⟩ | ⟨hst, hwait, hlt⟩ | ⟨hst, hwait⟩
  · rw [if_pos hst, if_pos hwait, heff, hnext]
    omega
  · have hlt' : ((job.attempt + 1 : Nat) : Int) < effectiveMaxAttempts cfg job := hlt
    push_cast at hlt'
    rw [if_pos hst, hwait, heff, hnext]
    simp only [Bool.false_eq_true, if_false]
    omega
  · rw [if_neg hst, hwait]
    simp only [Bool.false_eq_true, if_false]
    omega

/-- **One turn**: an execution takes one from the budget of its job unless it is a wait, and
no other row changes. -/
theorem turn_remaining {cfg : Settings} {inp : WorkerInput} {jid : Nat} {db : Db}
    (hold : isOldestQueued inp.clk db jid = true)
    (hcaught : (turnLog cfg inp jid db).ended ≠ .crashed) (a : Nat) :
    executionsIn a [turnLog cfg inp jid db]
        + remaining cfg a (runJob cfg .runPendingJobs inp jid db)
      ≤ remaining cfg a db + waitsIn a [turnLog cfg inp jid db] := by
  obtain ⟨job, hjob, helig, -⟩ := isOldestQueued_spec hold
  obtain ⟨job', hrows, hfate, hwaited⟩ := runJob_row hjob helig hcaught
  have hjid : (turnLog cfg inp jid db).jid = jid := rfl
  by_cases ha : a = jid
  · subst ha
    have hqueued : job.status = .queued := by
      simpa using (Bool.and_eq_true_iff.mp helig).1
    have hwait : (waitsIn a [turnLog cfg inp a db] : Int)
        = if isWaitingForCapacity job' = true then 1 else 0 := by
      simp [waitsIn, hjid, hwaited]
    have hexec : (executionsIn a [turnLog cfg inp a db] : Int) = 1 := by simp [executionsIn, hjid]
    rw [hwait, hexec]
    simpa only [Devnest.remaining, hrows, hjob, hqueued, Table.lookup_insert_eq, if_true]
      using hfate.remaining
  · have ha' : ¬ jid = a := fun h => ha h.symm
    simp [executionsIn, waitsIn, remaining, hrows, ha, ha', hjid]

/-- What no turn changes: the jobs there are, and their age. -/
def SameAges (db db' : Db) : Prop :=
  ∀ a, (db'.jobs.lookup a).map (·.createdAt) = (db.jobs.lookup a).map (·.createdAt)

theorem turn_sameAges {cfg : Settings} {inp : WorkerInput} {jid : Nat} {db : Db}
    (hold : isOldestQueued inp.clk db jid = true)
    (hcaught : (turnLog cfg inp jid db).ended ≠ .crashed) :
    SameAges db (runJob cfg .runPendingJobs inp jid db) := by
  obtain ⟨job, hjob, helig, -⟩ := isOldestQueued_spec hold
  obtain ⟨job', hrows, hfate, -⟩ := runJob_row hjob helig hcaught
  intro a
  rw [hrows, Table.lookup_insert_eq]
  split
  · rename_i ha
    subst ha
    rw [hjob, Option.map_some, Option.map_some, hfate.budget.2.2]
    rfl
  · rfl

theorem turn_frame {cfg : Settings} {inp : WorkerInput} {jid a : Nat} {db : Db}
    (hold : isOldestQueued inp.clk db jid = true)
    (hcaught : (turnLog cfg inp jid db).ended ≠ .crashed) (ha : jid ≠ a) :
    (runJob cfg .runPendingJobs inp jid db).jobs.lookup a = db.jobs.lookup a := by
  obtain ⟨job, hjob, helig, -⟩ := isOldestQueued_spec hold
  obtain ⟨job', hrows, -, -⟩ := runJob_row hjob helig hcaught
  rw [hrows, Table.lookup_insert_eq, if_neg ha.symm]

/-! ## What a tick does to the rows -/

/-- What some turns have done to the tables: the budgets pay for the executions, no job
comes or goes, and a job that was not executed is as it was. -/
structure TurnsEffect (cfg : Settings) (db db' : Db) (logs : List TurnLog) : Prop where
  paid : ∀ a, executionsIn a logs + remaining cfg a db' ≤ remaining cfg a db + waitsIn a logs
  ages : SameAges db db'
  frame : ∀ a, (∀ l ∈ logs, l.jid ≠ a) → db'.jobs.lookup a = db.jobs.lookup a

theorem TurnsEffect.refl (cfg : Settings) (db : Db) : TurnsEffect cfg db db [] :=
  ⟨fun _ => by simp [executionsIn, waitsIn], fun _ => rfl, fun _ _ => rfl⟩

theorem TurnsEffect.trans {cfg : Settings} {db db' db'' : Db} {logs logs' : List TurnLog}
    (h : TurnsEffect cfg db db' logs) (h' : TurnsEffect cfg db' db'' logs') :
    TurnsEffect cfg db db'' (logs ++ logs') where
  paid a := by
    have h₁ := h.paid a
    have h₂ := h'.paid a
    simp only [executionsIn, waitsIn, List.countP_append] at h₁ h₂ ⊢
    push_cast
    omega
  ages a := (h'.ages a).trans (h.ages a)
  frame a ha := (h'.frame a fun l hl => ha l (List.mem_append_right _ hl)).trans
    (h.frame a fun l hl => ha l (List.mem_append_left _ hl))

theorem turn_effect {cfg : Settings} {inp : WorkerInput} {jid : Nat} {db : Db}
    (hold : isOldestQueued inp.clk db jid = true)
    (hcaught : (turnLog cfg inp jid db).ended ≠ .crashed) :
    TurnsEffect cfg db (runJob cfg .runPendingJobs inp jid db) [turnLog cfg inp jid db] where
  paid := turn_remaining hold hcaught
  ages := turn_sameAges hold hcaught
  frame _ ha := turn_frame hold hcaught (ha _ (List.mem_singleton.mpr rfl))

theorem runTurns_effect {cfg : Settings} (turns : List Turn) {db : Db}
    (hcaught : ∀ l ∈ (runTurns cfg turns db).logs, l.ended ≠ .crashed) :
    TurnsEffect cfg db (runTurns cfg turns db).db (runTurns cfg turns db).logs := by
  induction turns generalizing db with
  | nil => exact .refl cfg db
  | cons t ts ih =>
      unfold runTurns at hcaught ⊢
      cases hnext : nextQueuedJob t.inp.clk t.pick db with
      | none => exact .refl cfg db
      | some jid =>
          rw [hnext] at hcaught
          simp only at hcaught ⊢
          have hold := nextQueuedJob_oldest hnext
          by_cases hcrash : (turnLog cfg t.inp jid db).ended = .crashed
          · rw [if_pos hcrash] at hcaught
            exact absurd hcrash (hcaught _ (List.mem_singleton.mpr rfl))
          · rw [if_neg hcrash] at hcaught ⊢
            exact (turn_effect hold hcrash).trans
              (ih fun l hl => hcaught l (List.mem_cons_of_mem _ hl))

theorem TurnsEffect.drained {cfg : Settings} {db db' db'' : Db} {logs : List TurnLog}
    (h : TurnsEffect cfg db db' logs) (hjobs : db''.jobs = db'.jobs) :
    TurnsEffect cfg db db'' logs where
  paid a := by simpa only [remaining, hjobs] using h.paid a
  ages a := by rw [hjobs]; exact h.ages a
  frame a ha := by rw [hjobs]; exact h.frame a ha

theorem runPendingJobs_effect {cfg : Settings} {db : Db} {tick : Tick}
    (hcaught : tick.Caught cfg db) :
    TurnsEffect cfg db (tickStep cfg db tick) (runPendingJobs cfg db tick).logs := by
  unfold Tick.Caught at hcaught
  unfold tickStep
  unfold runPendingJobs at hcaught ⊢
  simp only at hcaught ⊢
  split at hcaught
  · rename_i hraised
    rw [if_pos hraised]
    exact runTurns_effect _ hcaught
  · rename_i hraised
    rw [if_neg hraised]
    refine (runTurns_effect _ hcaught).drained ?_
    cases tick.drain with
    | none => rfl
    | some answers => exact (drainPendingCleanupTasks_effect _ answers).jobs

theorem ticks_effect {cfg : Settings} {db : Db} {ticks : List Tick}
    (h : Along (tickStep cfg) (fun db tick => tick.Caught cfg db) db ticks) :
    TurnsEffect cfg db (run (tickStep cfg) db ticks) (tickLogs cfg db ticks).flatten := by
  induction ticks generalizing db with
  | nil => exact .refl cfg db
  | cons tick ticks ih => exact (runPendingJobs_effect h.1).trans (ih h.2)

/-! ## Bounds over a run -/

/-- Ticks that execute a job are at most its executions. -/
theorem countP_any_le (a : Nat) (logs : List (List TurnLog)) :
    (logs.countP fun ls => ls.any fun l => l.jid = a) ≤ executionsIn a logs.flatten := by
  induction logs with
  | nil => simp [executionsIn]
  | cons ls logs ih =>
      simp only [executionsIn, List.flatten_cons, List.countP_append, List.countP_cons] at ih ⊢
      split
      · rename_i hany
        obtain ⟨l, hl, hjid⟩ := List.any_eq_true.mp hany
        have hpos : 0 < ls.countP fun l => l.jid = a := List.countP_pos_iff.mpr ⟨l, hl, hjid⟩
        omega
      · omega

theorem boundedExecution {cfg : Settings} {db : Db} {ticks : List Tick}
    (h : Along (tickStep cfg) (fun db tick => tick.Caught cfg db) db ticks) :
    BoundedExecution cfg db ticks := by
  intro jid job hjob
  have hpaid := (ticks_effect h).paid jid
  have hle := remaining_le cfg jid hjob
  have hnonneg := remaining_nonneg cfg jid (run (tickStep cfg) db ticks)
  have hcount := countP_any_le jid (tickLogs cfg db ticks)
  unfold waitsOf
  omega

/-- The first turn of a tick claims a job that is eligible and not younger than an eligible
job. -/
theorem firstTurn (cfg : Settings) {db : Db} {tick : Tick} {jid : Nat} {job : WorkspaceJob}
    (hjob : db.jobs.lookup jid = some job)
    (helig : queuedJobEligible tick.first.inp.clk job = true) :
    ∃ l rest old, (runPendingJobs cfg db tick).logs = l :: rest ∧ l.jid ∈ l.eligible ∧
      db.jobs.lookup l.jid = some old ∧ old.createdAt ≤ job.createdAt := by
  obtain ⟨k, hk⟩ := Option.ne_none_iff_exists'.mp
    (nextQueuedJob_ne_none tick.first.pick hjob helig)
  obtain ⟨old, hold, holdelig, hmin⟩ := isOldestQueued_spec (nextQueuedJob_oldest hk)
  have hlogs : ∃ rest, (runPendingJobs cfg db tick).logs
      = turnLog cfg tick.first.inp k db :: rest := by
    unfold runPendingJobs runTurns
    simp only [hk]
    split_ifs <;> exact ⟨_, rfl⟩
  obtain ⟨rest, hrest⟩ := hlogs
  exact ⟨_, rest, old, hrest, mem_eligibleJobs hold holdelig, hold, hmin jid job hjob helig⟩

/-- The jobs of the first turns, tick by tick. -/
def firstJobs (logs : List (List TurnLog)) : List Nat :=
  logs.filterMap fun ls => ls.head?.map (·.jid)

theorem count_firstJobs_le (a : Nat) (logs : List (List TurnLog)) :
    (firstJobs logs).count a ≤ logs.countP fun ls => ls.any fun l => l.jid = a := by
  induction logs with
  | nil => simp [firstJobs]
  | cons ls logs ih =>
      cases ls with
      | nil => simpa [firstJobs, List.filterMap_cons] using ih
      | cons l ls =>
          simp only [firstJobs, List.filterMap_cons, List.head?_cons, Option.map_some,
            List.count_cons, List.countP_cons, List.any_cons] at ih ⊢
          split
          · rename_i hjid
            have : l.jid = a := by simpa using hjid
            simp only [this, decide_true, Bool.true_or, if_true]
            omega
          · omega

/-- While an eligible job is not claimed, every tick starts with a job that was eligible and
is not younger. -/
theorem firstJobs_older {cfg : Settings} {db : Db} {ticks : List Tick} {jid : Nat}
    {job : WorkspaceJob} (h : Along (tickStep cfg) (fun db tick => tick.Caught cfg db) db ticks)
    (hjob : db.jobs.lookup jid = some job) (helig : EligibleThroughout job ticks)
    (hnot : ∀ l ∈ (tickLogs cfg db ticks).flatten, l.jid ≠ jid) :
    (firstJobs (tickLogs cfg db ticks)).length = ticks.length ∧
      ∀ a ∈ firstJobs (tickLogs cfg db ticks), a ≠ jid ∧
        (∃ l ∈ (tickLogs cfg db ticks).flatten, a ∈ l.eligible) ∧
        ∃ age, (db.jobs.lookup a).map (·.createdAt) = some age ∧ age ≤ job.createdAt := by
  induction ticks generalizing db with
  | nil => simp [tickLogs, firstJobs]
  | cons tick ticks ih =>
      obtain ⟨l, rest, old, hlogs, hmem, hold, hage⟩ :=
        firstTurn cfg hjob (helig tick List.mem_cons_self)
      have heff := runPendingJobs_effect h.1
      have hnot' : ∀ l ∈ (runPendingJobs cfg db tick).logs, l.jid ≠ jid :=
        fun l hl => hnot l (List.mem_append_left _ hl)
      obtain ⟨hlen, hall⟩ := ih h.2 ((heff.frame jid hnot').trans hjob)
        (fun tick htick => helig tick (List.mem_cons_of_mem _ htick))
        (fun l hl => hnot l (List.mem_append_right _ hl))
      have hl : l ∈ (tickLogs cfg db (tick :: ticks)).flatten := by
        simp [tickLogs, hlogs]
      have hfirst : firstJobs (tickLogs cfg db (tick :: ticks))
          = l.jid :: firstJobs (tickLogs cfg (tickStep cfg db tick) ticks) := by
        simp [tickLogs, firstJobs, hlogs]
      rw [hfirst]
      refine ⟨by simp [hlen], fun a ha => ?_⟩
      rcases List.mem_cons.mp ha with rfl | ha
      · exact ⟨hnot l hl, ⟨l, hl, hmem⟩, old.createdAt, by rw [hold]; rfl, hage⟩
      · obtain ⟨hne, ⟨l', hl', hmem'⟩, age, hrow, hle⟩ := hall a ha
        refine ⟨hne, ⟨l', List.mem_append_right _ hl', hmem'⟩, age, ?_, hle⟩
        rw [← heff.ages a]
        exact hrow

theorem noHeadOfLineBlocking {cfg : Settings} {db : Db} {ticks : List Tick}
    (h : Along (tickStep cfg) (fun db tick => tick.Caught cfg db) db ticks) :
    NoHeadOfLineBlocking cfg db ticks := by
  intro jid job hjob helig hlt
  by_contra! hnot
  have hnot' : ∀ l ∈ (tickLogs cfg db ticks).flatten, l.jid ≠ jid := by
    intro l hl
    obtain ⟨ls, hls, hl⟩ := List.mem_flatten.mp hl
    exact hnot ls hls l hl
  obtain ⟨hlen, hall⟩ := firstJobs_older h hjob helig hnot'
  have hsub : ∀ a ∈ (firstJobs (tickLogs cfg db ticks) : Multiset Nat),
      a ∈ olderEligible db jid (tickLogs cfg db ticks) := by
    intro a ha
    obtain ⟨hne, ⟨l, hl, hmem⟩, age, hrow, hle⟩ := hall a ha
    refine Finset.mem_filter.mpr ⟨?_, hne, ?_⟩
    · exact List.mem_toFinset.mpr (List.mem_flatMap.mpr ⟨l, hl, hmem⟩)
    · simpa [hrow, hjob] using hle
  have hcount : ∀ a, ((firstJobs (tickLogs cfg db ticks)).count a : Int)
      ≤ attemptBound cfg db (tickLogs cfg db ticks) a := by
    intro a
    by_cases ha : a ∈ firstJobs (tickLogs cfg db ticks)
    · obtain ⟨-, -, age, hrow, -⟩ := hall a ha
      obtain ⟨old, hold, -⟩ := Option.map_eq_some_iff.mp hrow
      have hbound := boundedExecution h a old hold
      have hle := count_firstJobs_le a (tickLogs cfg db ticks)
      simp only [attemptBound, hold, Option.map_some, Option.getD_some]
      omega
    · rw [List.count_eq_zero_of_not_mem ha]
      unfold attemptBound
      cases hrow : db.jobs.lookup a with
      | none => simp
      | some old =>
          have hpos := (remaining_nonneg cfg a db).trans (remaining_le cfg a hrow)
          simp only [Option.map_some, Option.getD_some, Nat.cast_zero]
          omega
  have hsum : (ticks.length : Int)
      ≤ ∑ a ∈ olderEligible db jid (tickLogs cfg db ticks),
          attemptBound cfg db (tickLogs cfg db ticks) a := by
    have hcard := Multiset.sum_count_eq_card hsub
    rw [Multiset.coe_card, hlen] at hcard
    rw [← hcard, Nat.cast_sum]
    refine Finset.sum_le_sum fun a _ => ?_
    rw [Multiset.coe_count]
    exact hcount a
  omega

/-- **Bounded execution and no head-of-line blocking**, for any queue and any ticks whose
executions raise nothing the worker does not catch. -/
theorem ticks_bounded {cfg : Settings} {db : Db} {ticks : List Tick}
    (h : Along (tickStep cfg) (fun db tick => tick.Caught cfg db) db ticks) :
    BoundedExecution cfg db ticks ∧ NoHeadOfLineBlocking cfg db ticks :=
  ⟨boundedExecution h, noHeadOfLineBlocking h⟩

/-- A running workspace with a repository import queued, and then a snapshot. -/
def importQueue : Db :=
  run (step {}) sampleDb
    [.createWorkspace { now := 0 } 7 "a" {}, .processNextQueuedJob (sampleWorker 1 sampleOrch) 1,
     .importRepo { now := 2 } 1 7, .createSnapshot { now := 3 } 1 7]

/-- A tick with one turn; an import that it claims ends so, a snapshot succeeds. -/
def importTick (now : Nat) (repo : RepoImportAnswer) : Tick :=
  { first := { inp := { sampleWorker now
      { sampleOrch with exportWorkspaceFilesystemSnapshot := .returned { success := true } } with
        repo := repo } } }

/-- Both jobs are done after two ticks. -/
theorem import_then_snapshot :
    BoundedExecution {} importQueue [importTick 10 .cloned, importTick 11 .cloned] ∧
      NoHeadOfLineBlocking {} importQueue [importTick 10 .cloned, importTick 11 .cloned] :=
  ticks_bounded (by decide +kernel)

/-- A clone that fails leaves with an `AttributeError`: its attempt is rolled back, every
tick claims it again, and the snapshot behind it is never claimed. -/
theorem import_blocks_queue :
    ¬ BoundedExecution {} importQueue
        [importTick 10 .failed, importTick 11 .failed, importTick 12 .failed] ∧
      ¬ NoHeadOfLineBlocking {} importQueue
        [importTick 10 .failed, importTick 11 .failed, importTick 12 .failed] := by
  constructor
  · intro h
    have hbound := h 2 _ rfl
    revert hbound
    decide +kernel
  · intro h
    obtain ⟨ls, hls, l, hl, hjid⟩ := h 3 _ rfl (by unfold EligibleThroughout; decide +kernel)
      (by decide +kernel)
    have hnone : ∀ ls ∈ tickLogs {} importQueue
        [importTick 10 .failed, importTick 11 .failed, importTick 12 .failed],
        ∀ l ∈ ls, l.jid ≠ 3 := by decide +kernel
    exact hnone ls hls l hl hjid

end Devnest
