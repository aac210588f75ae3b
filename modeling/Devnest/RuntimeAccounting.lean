import Devnest.QuotaBounds

/-!
# The seconds a workspace ran

`max_runtime_hours` is compared with the `WORKSPACE_STOPPED` records of the
usage ledger, whose quantity must be the duration of the session. One path
writes such a record, `_finalize_stop_result`, and it measures from
`last_started`, which `_finalize_runtime_running_success` sets anew after every
bring-up.

The meter follows one workspace: its `last_started`, the records, and beside
them the time it really spent in `RUNNING`. A stop leaves `RUNNING` with the
request and writes its record with the job; until then the account is that of
the earlier periods. The records agree with the time in every run where each
period ends so, and the job before another second has passed. A restart, an
update, a delete and every failure leave `RUNNING` without a record, and the
reconcile of a `STOPPED` workspace writes one for a period that has its record.
-/

namespace Devnest

open Runs

/-! ## The meter -/

/-- One second, in microseconds. -/
def second : Nat := 1000000

structure UsageMeter where
  now : Nat := 0
  lastStarted : Option Nat := none
  /-- The quantities of the `WORKSPACE_STOPPED` records. -/
  stoppedRecords : List Nat := []
  /-- When the workspace last came to `RUNNING`. -/
  runningSince : Nat := 0
  /-- The `RUNNING` periods that have ended, together. -/
  ran : Nat := 0
  /-- What of it a stop under way has yet to record. -/
  stopping : Nat := 0
  deriving DecidableEq, Repr

/-- `max(0, int((_now() - ws.last_started).total_seconds()))`, `0` without a start. -/
def runtimeSecs (now : Nat) (lastStarted : Option Nat) : Nat :=
  lastStarted.elim 0 fun t => (now - t) / second

structure UsageWorld where
  db : Db
  meter : UsageMeter := {}

/-- A step, and the time that passes before it. -/
structure TimedStep where
  wait : Nat := 0
  step : Step

section Meter

variable (cfg : Settings) (w : Nat)

def isRunning (db : Db) : Bool := (db.workspaces.lookup w).any (·.status = .running)

def isStopping (db : Db) : Bool := (db.workspaces.lookup w).any (·.status = .stopping)

/-- The committed execution of a job of the workspace: its surroundings, the session it found and
the one it left. -/
def jobOutcome (db : Db) (st : Step) : Option (WorkerInput × Session × Session) := do
  let (entry, inp, jid) ← st.execution db
  let s ← claimJob inp jid db
  let r := executeClaimedJob cfg inp entry s
  if s.wid = w ∧ r.committed = true then some (inp, s, r.session) else none

/-- The step ends in `_finalize_runtime_running_success`. -/
def writesLastStarted (db : Db) (st : Step) : Bool :=
  (jobOutcome cfg w db st).any fun (_, s, s') =>
    s.job.jobType.bringsUp && s'.job.status = .succeeded && s'.ws.status = .running

/-- `_reconcile_stopped` finds the runtime up, and stops it. -/
def stopsLingering (inp : WorkerInput) (s : Session) : Bool :=
  s.job.jobType = .reconcileRuntime && s.ws.status = .stopped && inp.lockAcquired &&
    match inp.orch.checkWorkspaceRuntimeHealth with
    | .returned health => health.success
    | .raised _ | .crashed => false

/-- The step ends in the successful branch of `_finalize_stop_result`. -/
def writesStopRecord (db : Db) (st : Step) : Bool :=
  (jobOutcome cfg w db st).any fun (inp, s, s') =>
    (s.job.jobType = .stop || stopsLingering inp s) && s'.job.status = .succeeded

/-- The workspace is `RUNNING` before the step and not after it. -/
def leavesRunning (db : Db) (st : Step) : Bool :=
  isRunning w db && !isRunning w (step cfg db st)

def entersRunning (db : Db) (st : Step) : Bool :=
  !isRunning w db && isRunning w (step cfg db st)

/-- The `RUNNING` period that a record written now is about: the one the step ends, or the one a
stop has ended. -/
def endedPeriod (s : UsageWorld) (i : TimedStep) : Nat :=
  if leavesRunning cfg w s.db i.step then s.meter.now + i.wait - s.meter.runningSince
  else s.meter.stopping

def usageStep (s : UsageWorld) (i : TimedStep) : UsageWorld :=
  let now := s.meter.now + i.wait
  { db := step cfg s.db i.step
    meter :=
      { now := now
        lastStarted := if writesLastStarted cfg w s.db i.step then some now
          else s.meter.lastStarted
        stoppedRecords := if writesStopRecord cfg w s.db i.step then
            runtimeSecs now s.meter.lastStarted :: s.meter.stoppedRecords
          else s.meter.stoppedRecords
        runningSince := if entersRunning cfg w s.db i.step then now else s.meter.runningSince
        ran := if leavesRunning cfg w s.db i.step then
            s.meter.ran + (now - s.meter.runningSince)
          else s.meter.ran
        stopping :=
          if isStopping w (step cfg s.db i.step) && !writesStopRecord cfg w s.db i.step then
            endedPeriod cfg w s i
          else 0 } }

end Meter

/-- The records add up to the whole seconds of the time `ran`, up to one second for each. -/
def UsageMeter.Accounted (m : UsageMeter) (ran : Nat) : Prop :=
  m.stoppedRecords.sum ≤ ran / second ∧
    ran / second ≤ m.stoppedRecords.sum + m.stoppedRecords.length

/-- Outside `RUNNING` the records account for all the time spent there; while a stop is under way,
for all but the period it ends. -/
def RuntimeAccounted (w : Nat) (s : UsageWorld) : Prop :=
  isRunning w s.db = false →
    s.meter.Accounted (if isStopping w s.db then s.meter.ran - s.meter.stopping else s.meter.ran)

/-! ## How a workspace comes to `RUNNING` -/

section Enters

variable {cfg : Settings} {w : Nat} {db : Db} {st : Step}

/-- A job that takes a workspace to `RUNNING` is a bring-up that succeeded. -/
theorem executeClaimedJob_running {inp : WorkerInput} {entry : EntryPoint} {s : Session}
    (hc : (executeClaimedJob cfg inp entry s).committed = true)
    (hold : s.ws.status ≠ .running)
    (hnew : (executeClaimedJob cfg inp entry s).session.ws.status = .running) :
    s.job.jobType.bringsUp = true ∧
      (executeClaimedJob cfg inp entry s).session.job.status = .succeeded := by
  cases hup : s.job.jobType.bringsUp with
  | false =>
      exfalso
      rcases executeClaimedJob_not_up cfg inp hup entry hc with h | h
      · exact hold (h.symm.trans hnew)
      · rw [hnew] at h
        cases h
  | true =>
      refine ⟨rfl, ?_⟩
      have hlife : s.job.jobType.isLifecycle = true := by
        revert hup
        cases s.job.jobType <;> simp [WorkspaceJobType.bringsUp, WorkspaceJobType.isLifecycle]
      have hend := executeClaimedJob_lifecycle cfg inp hlife hc
      generalize (executeClaimedJob cfg inp entry s).session = s' at hend hnew
      cases hend with
      | failed _ hf _ =>
          rcases hf with ⟨-, h | h | h⟩ | ⟨-, h⟩
          · exact absurd (h.symm.trans hnew) hold
          · rw [h] at hnew; cases hnew
          · rw [h] at hnew; cases hnew
          · rw [h] at hnew; cases hnew
      | stopFailed _ _ _ _ _ hs => rw [hs.2] at hnew; cases hnew
      | up _ h => exact h.jobStatus
      | stopped _ _ _ _ _ hj => exact hj
      | updateStopped _ _ _ _ _ hj => exact hj
      | deleted _ _ _ hj => exact hj

theorem isRunning_eq_true : isRunning w db = true ↔
    ∃ ws, db.workspaces.lookup w = some ws ∧ ws.status = .running := by
  simp [isRunning, Option.any_eq_true]

/-- A row that is written and does not run makes nothing run. -/
theorem running_of_insert {v : Nat} {new ws : Workspace}
    (h : (db.workspaces.insert v new).lookup w = some ws) (hrun : ws.status = .running)
    (hnew : new.status ≠ .running) : isRunning w db = true := by
  rw [Table.lookup_insert_eq] at h
  split at h
  · rw [Option.some.inj h] at hnew
    exact absurd hrun hnew
  · exact isRunning_eq_true.mpr ⟨ws, h, hrun⟩

/-- No request takes a workspace to `RUNNING`. -/
theorem IntentWrite.running {t : Table Nat Workspace} {ws : Workspace} (h : IntentWrite db st t)
    (hw : t.lookup w = some ws) (hrun : ws.status = .running) : isRunning w db = true := by
  cases h with
  | none => exact isRunning_eq_true.mpr ⟨ws, hw, hrun⟩
  | created _ _ _ hnew =>
      refine running_of_insert hw hrun ?_
      rcases hnew with hnew | hnew <;> simp [hnew]
  | started => exact running_of_insert hw hrun (by simp)
  | restarted => exact running_of_insert hw hrun (by simp)
  | left _ _ hnew =>
      refine running_of_insert hw hrun ?_
      rcases hnew with ⟨rfl, -⟩ | rfl <;> simp
  | updated => exact running_of_insert hw hrun (by simp)

/-- Only the end of a bring-up enters `RUNNING`, and it writes `last_started`. -/
theorem writesLastStarted_of_enters (hwf : WellFormed db) (h : entersRunning cfg w db st = true) :
    writesLastStarted cfg w db st = true := by
  unfold entersRunning at h
  rw [Bool.and_eq_true, Bool.not_eq_true'] at h
  obtain ⟨hold, hnew⟩ := h
  obtain ⟨ws, hws, hrun⟩ := isRunning_eq_true.mp hnew
  have hw := step_write cfg hwf st
  generalize (step cfg db st).workspaces = t at hws hw
  cases hw with
  | intent hi => exact absurd (hi.running hws hrun) (by simp [hold])
  | @committed entry inp jid s hex hs hc =>
      rw [Table.lookup_insert_eq] at hws
      split at hws
      · rename_i hwid
        obtain rfl := Option.some.inj hws
        have hns : s.ws.status ≠ .running := by
          intro hs'
          have hin : isRunning w db = true :=
            isRunning_eq_true.mpr ⟨s.ws, hwid ▸ (claimJob_claimed hs).ws, hs'⟩
          rw [hold] at hin
          cases hin
        obtain ⟨hup, hj⟩ := executeClaimedJob_running hc hns hrun
        have hout : jobOutcome cfg w db st =
            some (inp, s, (executeClaimedJob cfg inp entry s).session) := by
          simp [jobOutcome, hex, hs, hc, hwid]
        simp [writesLastStarted, hout, hup, hj, hrun]
      · exact absurd (isRunning_eq_true.mpr ⟨ws, hws, hrun⟩) (by simp [hold])

end Enters

theorem finalizeStopResult_succeeded_iff (cfg : Settings) (clk : Clock) (s : Session)
    (res : WorkspaceStopResult) :
    (finalizeStopResult cfg clk s res).job.status = .succeeded ↔ res.success = true := by
  unfold finalizeStopResult
  cases res.success with
  | true => simp [markJobSucceeded]
  | false =>
      simp [resolveOrchestratorResultFailure, retryElse, finalizeJobFailedWorkspaceError,
        markJobFailed]

/-- A reconcile that finds a stopped workspace up succeeds exactly when the stop does, which is when
`_finalize_stop_result` writes its record. -/
theorem executeReconcileRuntimeJob_lingering {cfg : Settings} {clk : Clock} {inp : WorkerInput}
    {s s' : Session} (hup : stopsLingering inp s = true)
    (h : executeReconcileRuntimeJob cfg clk inp.reconcile s = .returned s') :
    s'.job.status = .succeeded ↔
      ∃ res, inp.orch.stopWorkspaceRuntime = .returned res ∧ res.success = true := by
  simp only [stopsLingering, Bool.and_eq_true, decide_eq_true_eq] at hup
  obtain ⟨⟨⟨-, hst⟩, hlock⟩, hhealth⟩ := hup
  unfold executeReconcileRuntimeJob at h
  simp only [WorkerInput.reconcile, hlock, Bool.not_true, Bool.false_eq_true, if_false, hst,
    WorkspaceStatus.isBusy] at h
  unfold reconcileStopped at h
  cases hcheck : inp.orch.checkWorkspaceRuntimeHealth with
  | crashed => simp [hcheck] at hhealth
  | raised e => simp [hcheck] at hhealth
  | returned health =>
      rw [hcheck] at hhealth
      simp only [hcheck, hhealth, if_true] at h
      cases hstop : inp.orch.stopWorkspaceRuntime with
      | crashed => simp [hstop] at h
      | raised m =>
          simp only [hstop, Exit.returned.injEq] at h
          rw [← h]
          exact iff_of_false (failReconcile_not_succeeded cfg clk _ _) (by simp)
      | returned res =>
          simp only [hstop] at h
          split at h
          · cases h
          · simp only [Exit.returned.injEq] at h
            rw [← h, finalizeStopResult_succeeded_iff]
            simp

/-! ## The account -/

section Account

variable (cfg : Settings) (w : Nat)

/-- Each `RUNNING` period is left for `STOPPING`, unless no time has passed in it; `STOPPING` is left
with a record; the record counts the seconds of the period; and no bring-up starts the measure anew
while the workspace runs. -/
@[mk_iff] structure KeepsAccount (s : UsageWorld) (i : TimedStep) : Prop where
  left : leavesRunning cfg w s.db i.step = true → writesStopRecord cfg w s.db i.step = false →
    isStopping w (step cfg s.db i.step) = false → s.meter.now + i.wait = s.meter.runningSince
  stopped : isStopping w s.db = true → writesStopRecord cfg w s.db i.step = false →
    isStopping w (step cfg s.db i.step) = false → s.meter.stopping = 0
  recorded : writesStopRecord cfg w s.db i.step = true →
    runtimeSecs (s.meter.now + i.wait) s.meter.lastStarted = endedPeriod cfg w s i / second
  renewed : isRunning w s.db = true → writesLastStarted cfg w s.db i.step = true →
    s.meter.lastStarted = some (s.meter.now + i.wait)

instance (s : UsageWorld) (i : TimedStep) : Decidable (KeepsAccount cfg w s i) :=
  decidable_of_iff _ (keepsAccount_iff cfg w s i).symm

/-- The records match the periods whose stop has ended, and a running period is measured from its
start. -/
structure MeterOk (s : UsageWorld) : Prop where
  wf : WellFormed s.db
  accounted : s.meter.Accounted (s.meter.ran - s.meter.stopping)
  stopping_le : s.meter.stopping ≤ s.meter.ran
  idle : isStopping w s.db = false → s.meter.stopping = 0
  measured : isRunning w s.db = true → s.meter.lastStarted = some s.meter.runningSince

variable {cfg w}

theorem isStopping_of_isRunning {db : Db} (h : isRunning w db = true) : isStopping w db = false := by
  obtain ⟨ws, hws, hrun⟩ := isRunning_eq_true.mp h
  simp [isStopping, hws, hrun]

theorem usageStep_accounted {s : UsageWorld} (h : MeterOk w s) {i : TimedStep}
    (hk : KeepsAccount cfg w s i) :
    (usageStep cfg w s i).meter.Accounted
        ((usageStep cfg w s i).meter.ran - (usageStep cfg w s i).meter.stopping) ∧
      (usageStep cfg w s i).meter.stopping ≤ (usageStep cfg w s i).meter.ran := by
  obtain ⟨hlo, hhi⟩ := h.accounted
  have hle := h.stopping_le
  have hrecorded := hk.recorded
  have hleft := hk.left
  have hstopped := hk.stopped
  unfold UsageMeter.Accounted usageStep
  dsimp only
  unfold endedPeriod at hrecorded ⊢
  cases hleave : leavesRunning cfg w s.db i.step with
  | true =>
      have hzero : s.meter.stopping = 0 :=
        h.idle (isStopping_of_isRunning (Bool.and_eq_true _ _ ▸ hleave).1)
      cases hrec : writesStopRecord cfg w s.db i.step with
      | true =>
          have hsecs := hrecorded hrec
          simp only [hleave, if_true] at hsecs
          simp only [if_true, Bool.not_true, Bool.and_false, Bool.false_eq_true, if_false, hsecs,
            List.sum_cons, List.length_cons]
          unfold second at hlo hhi ⊢
          omega
      | false =>
          cases hstop : isStopping w (step cfg s.db i.step) with
          | true =>
              simp only [if_true, Bool.not_false, Bool.and_true, Bool.false_eq_true, if_false]
              rw [hzero, Nat.sub_zero] at hlo hhi
              rw [Nat.add_sub_cancel]
              exact ⟨⟨hlo, hhi⟩, Nat.le_add_left _ _⟩
          | false =>
              have hnow := hleft hleave hrec hstop
              simp only [if_true, Bool.not_false, Bool.and_true, Bool.false_eq_true, if_false]
              rw [hzero] at hlo hhi
              rw [hnow, Nat.sub_self, Nat.add_zero]
              exact ⟨⟨hlo, hhi⟩, Nat.zero_le _⟩
  | false =>
      cases hrec : writesStopRecord cfg w s.db i.step with
      | true =>
          have hsecs := hrecorded hrec
          simp only [hleave, Bool.false_eq_true, if_false] at hsecs
          simp only [if_true, Bool.not_true, Bool.and_false, Bool.false_eq_true, if_false, hsecs,
            List.sum_cons, List.length_cons]
          unfold second at hlo hhi ⊢
          omega
      | false =>
          cases hstop : isStopping w (step cfg s.db i.step) with
          | true =>
              simp only [if_true, Bool.not_false, Bool.and_true, Bool.false_eq_true, if_false]
              exact ⟨⟨hlo, hhi⟩, hle⟩
          | false =>
              have hzero : s.meter.stopping = 0 := by
                cases hold : isStopping w s.db with
                | false => exact h.idle hold
                | true => exact hstopped hold hrec hstop
              simp only [Bool.not_false, Bool.and_true, Bool.false_eq_true, if_false]
              rw [hzero] at hlo hhi
              exact ⟨⟨hlo, hhi⟩, Nat.zero_le _⟩

theorem usageStep_idle {s : UsageWorld} {i : TimedStep}
    (hstop : isStopping w (usageStep cfg w s i).db = false) :
    (usageStep cfg w s i).meter.stopping = 0 := by
  change isStopping w (step cfg s.db i.step) = false at hstop
  simp [usageStep, hstop]

theorem usageStep_measured {s : UsageWorld} (h : MeterOk w s) {i : TimedStep}
    (hk : KeepsAccount cfg w s i) (hrun : isRunning w (usageStep cfg w s i).db = true) :
    (usageStep cfg w s i).meter.lastStarted = some (usageStep cfg w s i).meter.runningSince := by
  change isRunning w (step cfg s.db i.step) = true at hrun
  unfold usageStep
  dsimp only
  cases hold : isRunning w s.db with
  | false =>
      have henter : entersRunning cfg w s.db i.step = true := by simp [entersRunning, hold, hrun]
      rw [if_pos (writesLastStarted_of_enters h.wf henter), if_pos henter]
  | true =>
      have hstay : ¬ entersRunning cfg w s.db i.step = true := by simp [entersRunning, hold]
      rw [if_neg hstay]
      split
      · rename_i hwrite
        rw [← hk.renewed hold hwrite]
        exact h.measured hold
      · exact h.measured hold

theorem MeterOk.step {s : UsageWorld} (h : MeterOk w s) {i : TimedStep}
    (hk : KeepsAccount cfg w s i) : MeterOk w (usageStep cfg w s i) where
  wf := wellFormed_step cfg h.wf i.step
  accounted := (usageStep_accounted h hk).1
  stopping_le := (usageStep_accounted h hk).2
  idle := usageStep_idle
  measured := usageStep_measured h hk

theorem MeterOk.runtimeAccounted {s : UsageWorld} (h : MeterOk w s) : RuntimeAccounted w s := by
  intro _
  split
  · exact h.accounted
  · rename_i hstop
    have haccounted := h.accounted
    rwa [h.idle (by simpa using hstop), Nat.sub_zero] at haccounted

end Account

def sampleRestart : WorkspaceRestartResult :=
  { success := true, nodeId := some "node-1", topologyId := some "1", containerId := some "c1" }

/-- An orchestrator that stops, starts and restarts. -/
def restartingOrch : OrchestratorService :=
  { sampleOrch with
    stopWorkspaceRuntime := .returned { success := true, topologyDetached := some false }
    restartWorkspaceRuntime := .returned sampleRestart }

/-- Ten seconds up, and half a second to stop; then twenty seconds up, and stopped at once. -/
def stoppedTwiceRun : List TimedStep :=
  [{ step := .createWorkspace { now := 0 } 7 "a" {} },
   { wait := 3 * second, step := .processNextQueuedJob (sampleWorker 3 restartingOrch) 1 },
   { wait := 10200000, step := .requestStopWorkspace { now := 13 } 1 7 7 },
   { wait := 500000, step := .processNextQueuedJob (sampleWorker 13 restartingOrch) 2 },
   { wait := 60 * second, step := .requestStartWorkspace { now := 73 } 1 7 7 },
   { wait := 4 * second, step := .processNextQueuedJob (sampleWorker 77 restartingOrch) 3 },
   { wait := 20400000, step := .requestStopWorkspace { now := 98 } 1 7 7 },
   { step := .processNextQueuedJob (sampleWorker 98 restartingOrch) 4 }]

/-- Ten seconds up, restarted, ten seconds up, stopped; no time passes elsewhere. -/
def restartedRun : List TimedStep :=
  [{ step := .createWorkspace { now := 0 } 7 "a" {} },
   { step := .processNextQueuedJob (sampleWorker 0 restartingOrch) 1 },
   { wait := 10 * second, step := .requestRestartWorkspace { now := 10 } 1 7 7 },
   { step := .processNextQueuedJob (sampleWorker 10 restartingOrch) 2 },
   { wait := 10 * second, step := .requestStopWorkspace { now := 20 } 1 7 7 },
   { step := .processNextQueuedJob (sampleWorker 20 restartingOrch) 3 }]

end Devnest
