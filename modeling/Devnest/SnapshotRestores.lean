import Devnest.AuxiliaryJobs
import Devnest.ReservationLedger

/-!
# Restores and the workspace they write into

`restore_snapshot` asks that the workspace be `STOPPED`; the job it queues
imports the archive later and does not ask again. Between the two the
workspace may be started, and the lifecycle requests do not look for a
pending restore.

Whether a bring-up completed since a restore was requested is not a
property of the tables, so the run is watched: `Watched` adds, for every
restore job, how long the history was when the job was queued.
-/

namespace Devnest

open Runs

/-! ## The import -/

section Import

variable (cfg : Settings) (inp : WorkerInput)

/-- The archive of the job's snapshot can be read. -/
def archiveReady (s : Session) : Bool :=
  match s.job.workspaceSnapshotId.bind s.snapshots.lookup with
  | none => false
  | some snap => snap.workspaceId = s.wid &&
      (if inp.storage.remote then inp.storage.downloadError else none).isNone &&
      inp.storage.hasNonemptyArchive

/-- `_execute_snapshot_restore_job` is reached for this session and calls
`import_workspace_filesystem_snapshot`. -/
def callsImport (s : Session) : Bool :=
  match s.job.jobType, resolveOrchestratorPlacement cfg inp.placement s, inp.binding with
  | .snapshotRestore, .ok _, .bound => archiveReady inp s
  | _, _, _ => false

/-- The surroundings with another answer of the import. -/
def WorkerInput.withImport (ans : Outcome String WorkspaceSnapshotOperationResult) : WorkerInput :=
  { inp with orch := { inp.orch with importWorkspaceFilesystemSnapshot := ans } }

variable {s : Session}

theorem executeSnapshotRestoreJob_import (h : archiveReady inp s = true) :
    executeSnapshotRestoreJob (inp.withImport .crashed) s = .crashed s := by
  unfold archiveReady at h
  unfold executeSnapshotRestoreJob
  cases hsid : s.job.workspaceSnapshotId with
  | none => simp [hsid] at h
  | some sid =>
      cases hsnap : s.snapshots.lookup sid with
      | none => simp [hsid, hsnap] at h
      | some snap =>
          simp only [hsid, hsnap, Option.bind_some, Bool.and_eq_true, decide_eq_true_eq,
            Option.isNone_iff_eq_none] at h
          obtain ⟨⟨hwid, hdown⟩, harch⟩ := h
          have hst : (inp.withImport .crashed).storage = inp.storage := rfl
          simp only [hsnap, hst, hdown, harch, hwid, ne_eq, not_true_eq_false, if_false,
            Bool.not_true, Bool.false_eq_true]
          rfl

theorem executeSnapshotRestoreJob_blind (h : archiveReady inp s = false)
    (ans : Outcome String WorkspaceSnapshotOperationResult) :
    executeSnapshotRestoreJob (inp.withImport ans) s = executeSnapshotRestoreJob inp s := by
  unfold archiveReady at h
  unfold executeSnapshotRestoreJob
  cases hsid : s.job.workspaceSnapshotId with
  | none => rfl
  | some sid =>
      cases hsnap : s.snapshots.lookup sid with
      | none => simp [hsnap, WorkerInput.withImport, failJobOnly]
      | some snap =>
          simp only [hsid, hsnap, Option.bind_some, Bool.and_eq_false_iff, decide_eq_false_iff_not]
            at h
          have hst : (inp.withImport ans).storage = inp.storage := rfl
          by_cases hwid : snap.workspaceId = s.wid
          · cases hdown : (if inp.storage.remote then inp.storage.downloadError else none) with
            | some err =>
                simp only [hsnap, hst, hdown, hwid, ne_eq, not_true_eq_false, if_false]
                rfl
            | none =>
                have harch : inp.storage.hasNonemptyArchive = false := by
                  simpa [hwid, hdown] using h
                simp only [hsnap, hst, hdown, harch, hwid, ne_eq, not_true_eq_false, if_false,
                  Bool.not_false, if_true]
                rfl
          · simp only [hsnap, ne_eq, hwid, not_false_eq_true, if_true]
            rfl

/-- **When the import is called**: then an import that dies takes the execution with it. -/
theorem executeClaimedJob_import {entry : EntryPoint} (h : callsImport cfg inp s = true) :
    executeClaimedJob cfg (inp.withImport .crashed) entry s = ⟨s, false⟩ := by
  unfold callsImport at h
  split at h
  · rename_i hjt hp hb
    have hready := executeSnapshotRestoreJob_import inp h
    have hp' : resolveOrchestratorPlacement cfg (inp.withImport .crashed).placement s = .ok _ := hp
    have hb' : (inp.withImport .crashed).binding = .bound := hb
    have hbegin : beginCreateBringupAfterPlacement s = s := by
      simp [beginCreateBringupAfterPlacement, hjt]
    rw [executeClaimedJob_eq cfg _ entry (by rw [hjt]; simp)]
    simp only [placeAndProcess, hp', hjt, hb', hbegin, processClaimedRunningJob, executeJobBody,
      hready]
    simp
  · cases h

/-- Otherwise nothing depends on what it would have answered. -/
theorem executeClaimedJob_blind {entry : EntryPoint} (h : callsImport cfg inp s = false)
    (ans : Outcome String WorkspaceSnapshotOperationResult) :
    executeClaimedJob cfg (inp.withImport ans) entry s = executeClaimedJob cfg inp entry s := by
  have hbody : archiveReady inp s = false ∨ s.job.jobType ≠ .snapshotRestore →
      executeJobBody cfg (inp.withImport ans) s = executeJobBody cfg inp s := by
    intro hor
    unfold executeJobBody
    cases hjt : s.job.jobType with
    | snapshotRestore =>
        exact executeSnapshotRestoreJob_blind inp (hor.resolve_right (by simp [hjt])) ans
    | _ => rfl
  by_cases hjt : s.job.jobType = .snapshotRestore
  · have hbegin : beginCreateBringupAfterPlacement s = s := by
      simp [beginCreateBringupAfterPlacement, hjt]
    rw [executeClaimedJob_eq cfg _ entry (by rw [hjt]; simp),
      executeClaimedJob_eq cfg _ entry (by rw [hjt]; simp)]
    unfold callsImport at h
    unfold placeAndProcess
    cases hp : resolveOrchestratorPlacement cfg inp.placement s with
    | error e =>
        have hp' : resolveOrchestratorPlacement cfg (inp.withImport ans).placement s = .error e := hp
        rw [hp']
        rfl
    | ok p =>
        have hp' : resolveOrchestratorPlacement cfg (inp.withImport ans).placement s = .ok p := hp
        have hb' : (inp.withImport ans).binding = inp.binding := rfl
        have hrepo : ¬ s.job.jobType = .repoImport := by rw [hjt]; simp
        rw [hp', hb', hbegin]
        cases hb : inp.binding with
        | crashed => simp only [if_neg hrepo]
        | failed m =>
            simp only [if_neg hrepo]
            rfl
        | bound =>
            simp only [hjt, hp, hb] at h
            simp only [if_neg hrepo, processClaimedRunningJob, hbody (.inl h)]
            rfl
  · have hbegin : ∀ t, t.job = s.job →
        executeJobBody cfg (inp.withImport ans) t = executeJobBody cfg inp t := by
      intro t ht
      unfold executeJobBody
      rw [ht]
      cases hst : s.job.jobType with
      | snapshotRestore => exact absurd hst hjt
      | _ => rfl
    have hb' : (inp.withImport ans).binding = inp.binding := rfl
    have hp' : resolveOrchestratorPlacement cfg (inp.withImport ans).placement s =
      resolveOrchestratorPlacement cfg inp.placement s := rfl
    have hjob : (beginCreateBringupAfterPlacement s).job = s.job := by rw [(beginCreate_fields s).1]
    unfold executeClaimedJob placeAndProcess processClaimedRunningJob
    rw [hp', hb', hbody (.inr hjt), hbegin _ hjob]
    rfl

end Import

/-! ## Bring-ups in the history -/

/-- A bring-up of `w` completed. -/
def Event.bringsUp (w : Nat) : Event → Bool
  | .bringUpSucceeded w' _ => w' = w
  | .taskPending _ _ | .cleanupStop _ _ _ => false

/-- None of these events is a bring-up of `w`. -/
def NoBringUp (w : Nat) (events : List Event) : Prop := ∀ e ∈ events, e.bringsUp w = false

theorem NoBringUp.append {w : Nat} {new old : List Event} (hnew : NoBringUp w new)
    (hold : NoBringUp w old) : NoBringUp w (new ++ old) := by
  intro e he
  rcases List.mem_append.mp he with he | he
  · exact hnew e he
  · exact hold e he

theorem NoBringUp.calls {w : Nat} {events : List Event} (h : ∀ e ∈ events, e.isCall = true) :
    NoBringUp w events := by
  intro e he
  have hcall := h e he
  cases e with
  | bringUpSucceeded w' jt => cases hcall
  | taskPending w' sc => rfl
  | cleanupStop w' sc st => rfl

section Ends

variable {inp : WorkerInput} {s s' : Session} {w : Nat}

theorem NoBringUp.of_sameDebt (h : NoBringUp w s.trace) (hd : SameDebt s s') :
    NoBringUp w s'.trace := hd.2 ▸ h

theorem NoBringUp.of_ensures {sc : CleanupScope} (h : NoBringUp w s.trace) (he : Ensures sc s s') :
    NoBringUp w s'.trace := by
  rcases he with ⟨hd, -⟩ | ⟨-, -, htr⟩
  · exact h.of_sameDebt hd
  · rw [htr]
    intro e he'
    rcases List.mem_cons.mp he' with rfl | he'
    · rfl
    · exact h e he'

theorem Cleaned.noBringUp {t : Session} (hc : Cleaned s t) (h : NoBringUp w s.trace) :
    NoBringUp w t.trace := by
  obtain ⟨-, -, new, htr, hnew⟩ := hc.effect
  simp only at htr
  rw [htr]
  refine NoBringUp.append (fun e he => ?_) h
  obtain ⟨sc, rfl, -⟩ := hnew e he
  rfl

/-- An execution completes a bring-up of its own workspace at most, and only a lifecycle job
does. -/
theorem JobEnd.noBringUp (hend : JobEnd inp s s') (h : NoBringUp w s.trace)
    (hw : s.wid ≠ w ∨ s.job.jobType.isLifecycle = false) : NoBringUp w s'.trace := by
  cases hend with
  | aux _ hend =>
      cases hend with
      | neutral hn _ => exact h.of_sameDebt hn.sameDebt
      | reconciled _ hc hb =>
          have ht := hc.noBringUp h
          rcases hb.debt with hd | ⟨-, he⟩
          · exact ht.of_sameDebt hd
          · exact ht.of_ensures he
  | lifecycle hjt hend =>
      cases hend with
      | failed hs _ _ =>
          rcases hs.debt with hd | he
          · exact h.of_sameDebt hd
          · exact h.of_ensures he
      | stopFailed _ _ _ _ _ _ _ he => exact h.of_ensures he
      | up _ hup =>
          rw [hup.trace]
          intro e he
          rcases List.mem_cons.mp he with rfl | he
          · rcases hw with hw | hw
            · exact decide_eq_false hw
            · rw [hjt] at hw
              cases hw
          · exact h e he
      | stopped _ _ _ _ _ _ _ _ hd => exact h.of_sameDebt hd
      | updateStopped _ _ _ _ _ _ _ _ hd => exact h.of_sameDebt hd
      | deleted _ _ _ _ _ _ hd => exact h.of_sameDebt hd

end Ends

/-! ## Jobs beside a stopped workspace -/

section Beside

variable (cfg : Settings) (inp : WorkerInput) {s : Session}

/-- A reconcile finds the runtime alive and the orchestrator reports that it could not be
stopped. -/
def stopReportsFailure : Bool :=
  inp.lockAcquired &&
    match inp.orch.checkWorkspaceRuntimeHealth, inp.orch.stopWorkspaceRuntime with
    | .returned health, .returned res => health.success && !res.success
    | _, _ => false

/-- A body that ends here leaves the workspace `STOPPED`. -/
def Exit.EndsStopped : Exit → Prop
  | .returned s' => s'.ws.status = .stopped
  | .raised _ _ => False
  | .crashed _ => True

theorem failReconcile_stopped (clk : Clock) (hst : s.ws.status = .stopped) (m : String) :
    (failReconcile cfg clk s m).ws.status = .stopped :=
  (failReconcile_settled cfg clk (by rw [hst]; rfl) m).2.trans hst

theorem reconcileOrphanRoute_stopped (clk : Clock) (rinp : ReconcileInput)
    (hst : s.ws.status = .stopped) : (reconcileOrphanRoute cfg clk rinp s).EndsStopped := by
  have hspec := reconcileOrphanRoute_spec cfg clk rinp s
  cases hex : reconcileOrphanRoute cfg clk rinp s with
  | returned s' =>
      rw [hex] at hspec
      exact (hspec.2.2 (by rw [hst]; rfl)).2.trans hst
  | raised e s' => rw [hex] at hspec; exact hspec
  | crashed s' => trivial

theorem reconcileStopped_stopped_iff (hst : s.ws.status = .stopped) (hlock : inp.lockAcquired = true) :
    (reconcileStopped cfg inp.clk inp.reconcile s).EndsStopped ↔ stopReportsFailure inp = false := by
  have hh : inp.reconcile.orch.checkWorkspaceRuntimeHealth =
    inp.orch.checkWorkspaceRuntimeHealth := rfl
  have hs : inp.reconcile.orch.stopWorkspaceRuntime = inp.orch.stopWorkspaceRuntime := rfl
  unfold reconcileStopped stopReportsFailure
  rw [hlock, hh, hs]
  cases inp.orch.checkWorkspaceRuntimeHealth with
  | crashed => exact ⟨fun _ => rfl, fun _ => trivial⟩
  | raised e => exact ⟨fun _ => rfl, fun _ => failReconcile_stopped cfg inp.clk hst _⟩
  | returned health =>
      cases hhealth : health.success with
      | false =>
          simp only [hhealth, Bool.false_eq_true, if_false]
          refine ⟨fun _ => ?_, fun _ => reconcileOrphanRoute_stopped cfg inp.clk inp.reconcile hst⟩
          cases inp.orch.stopWorkspaceRuntime <;> simp [hhealth]
      | true =>
          simp only [hhealth, if_true]
          cases inp.orch.stopWorkspaceRuntime with
          | crashed => exact ⟨fun _ => rfl, fun _ => trivial⟩
          | raised m => exact ⟨fun _ => rfl, fun _ => failReconcile_stopped cfg inp.clk hst _⟩
          | returned res =>
              cases hsucc : res.success with
              | true =>
                  refine ⟨fun _ => by simp [hsucc], fun _ => ?_⟩
                  simp only [finalizeStopResult, hsucc, if_true]
                  split
                  · trivial
                  · exact rfl
              | false =>
                  have hfin : Strays (finalizeStopResult cfg inp.clk s res) := by
                    simp only [finalizeStopResult, hsucc, Bool.false_eq_true, if_false,
                      resolveOrchestratorResultFailure, retryElse]
                    exact (finalizeJobFailedWorkspaceError_fails inp.clk _ _ _).2
                  simp only [hfin.1]
                  refine ⟨fun h => ?_, fun h => by simp [hhealth, hsucc] at h⟩
                  have herr : (finalizeStopResult cfg inp.clk s res).ws.status = .stopped := h
                  rw [hfin.2] at herr
                  cases herr

theorem reconcileStopped_not_raised (clk : Clock) (rinp : ReconcileInput) (s : Session)
    (e : OrchestratorException) (s' : Session) :
    reconcileStopped cfg clk rinp s ≠ .raised e s' := by
  have hroute : reconcileOrphanRoute cfg clk rinp s ≠ .raised e s' := by
    intro h
    have hspec := reconcileOrphanRoute_spec cfg clk rinp s
    rw [h] at hspec
    exact hspec
  unfold reconcileStopped
  split
  · simp
  · simp
  · split
    · split
      · simp
      · simp
      · dsimp only
        split <;> simp
    · exact hroute

/-- A reconcile of a `STOPPED` workspace leaves it so, unless the runtime still answers and
cannot be stopped. -/
theorem reconcile_stays_stopped_iff (hjt : s.job.jobType = .reconcileRuntime)
    (hst : s.ws.status = .stopped) (nodeKey : Option String) :
    Stays (fun st => decide (st = .stopped)) (processClaimedRunningJob cfg inp s nodeKey) ↔
      stopReportsFailure inp = false := by
  have hbody : ((executeJobBody cfg inp s).EndsStopped ↔ stopReportsFailure inp = false) ∧
      ∀ e s', executeJobBody cfg inp s ≠ .raised e s' := by
    have hst' : (cleanupPass inp.reconcile s).ws.status = .stopped :=
      (congrArg Workspace.status (cleanupPass_cleaned inp.reconcile s).ws).trans hst
    simp only [executeJobBody, hjt]
    rw [executeReconcileRuntimeJob_eq, hst]
    cases hlock : inp.lockAcquired with
    | false =>
        have hno : stopReportsFailure inp = false := by simp [stopReportsFailure, hlock]
        rw [if_pos (by rw [show inp.reconcile.lockAcquired = inp.lockAcquired from rfl, hlock]; rfl)]
        exact ⟨⟨fun _ => hno, fun _ => failReconcile_stopped cfg inp.clk hst _⟩, by simp⟩
    | true =>
        rw [if_neg (by rw [show inp.reconcile.lockAcquired = inp.lockAcquired from rfl, hlock]; simp)]
        exact ⟨reconcileStopped_stopped_iff cfg inp hst' hlock,
          reconcileStopped_not_raised cfg inp.clk inp.reconcile _⟩
  rw [← hbody.1]
  unfold processClaimedRunningJob
  cases hex : executeJobBody cfg inp s with
  | returned s' => simp [Stays, Exit.EndsStopped]
  | raised e s' => exact absurd hex (hbody.2 e s')
  | crashed s' => simp [Stays, Exit.EndsStopped]

/-- Early failures have an attempt left, and a reconcile is not told that the stop failed. -/
def SparesStopped (s : Session) : Prop :=
  s.job.jobType.isLifecycle = false ∧
    EarlyFailuresRetry cfg inp s
      (s.job.jobType = .reconcileRuntime → stopReportsFailure inp = false)

theorem executeClaimedJob_stopped {entry : EntryPoint} (hst : s.ws.status = .stopped)
    (h : SparesStopped cfg inp s) (hc : (executeClaimedJob cfg inp entry s).committed = true) :
    (executeClaimedJob cfg inp entry s).session.ws.status = .stopped := by
  obtain ⟨hjt, hearly⟩ := h
  have hdel : s.job.jobType ≠ .delete := by rintro h; rw [h] at hjt; cases hjt
  have hcre : s.job.jobType ≠ .create := by rintro h; rw [h] at hjt; cases hjt
  have hsta : s.job.jobType ≠ .start := by rintro h; rw [h] at hjt; cases hjt
  have hG : (fun st => decide (st = .stopped)) s.ws.status = true := decide_eq_true hst
  have hproc : ∀ nodeKey, Stays (fun st => decide (st = .stopped))
      (processClaimedRunningJob cfg inp s nodeKey) ↔
        (s.job.jobType = .reconcileRuntime → stopReportsFailure inp = false) := by
    intro nodeKey
    by_cases hrec : s.job.jobType = .reconcileRuntime
    · rw [reconcile_stays_stopped_iff cfg inp hrec hst nodeKey]
      exact ⟨fun h _ => h, fun h => h hrec⟩
    · exact ⟨fun _ h => absurd h hrec,
        fun _ => processClaimedRunningJob_stays cfg inp hjt hrec hG nodeKey⟩
  rw [executeClaimedJob_eq cfg inp entry hdel] at hc ⊢
  have hstays := (placeAndProcess_stays_iff cfg inp hcre hsta (nodeReadinessRetryAllowed_aux hjt) hG
    rfl fun _ nodeKey => hproc nodeKey).mpr hearly
  exact of_decide_eq_true (hstays hc)

end Beside

/-! ## Watched runs -/

/-- The tables, and the length of the history when each restore was requested. -/
structure Watched where
  db : Db
  requestedAt : Table Nat Nat := ∅

/-- The watcher notes an accepted `restore_snapshot` under the id of its job. -/
def watchStep (cfg : Settings) (v : Watched) (st : Step) : Watched where
  db := step cfg v.db st
  requestedAt := match st with
    | .restoreSnapshot inp sid owner =>
        match restoreSnapshot v.db inp sid owner with
        | .ok _ => v.requestedAt.insert (Table.freshKey v.db.jobs) v.db.trace.length
        | .error _ => v.requestedAt
    | _ => v.requestedAt

/-- Watching changes nothing. -/
theorem run_watchStep_db (cfg : Settings) (v : Watched) (steps : List Step) :
    (run (watchStep cfg) v steps).db = run (step cfg) v.db steps := by
  induction steps generalizing v with
  | nil => rfl
  | cons st steps ih => exact ih (watchStep cfg v st)

/-- The events since the history had `n` of them; the newest event comes first. -/
def eventsSince (trace : List Event) (n : Nat) : List Event := trace.take (trace.length - n)

theorem eventsSince_append {new trace : List Event} {n : Nat} (h : n ≤ trace.length) :
    eventsSince (new ++ trace) n = new ++ eventsSince trace n := by
  unfold eventsSince
  rw [List.length_append, show new.length + trace.length - n = new.length + (trace.length - n) by
    omega, List.take_length_add_append]

theorem eventsSince_self (trace : List Event) : eventsSince trace trace.length = [] := by
  simp [eventsSince]

/-- An import of this step finds its workspace `STOPPED`, and no bring-up of it completed
since the restore was requested. -/
def ImportsIntoStopped (cfg : Settings) (v : Watched) (st : Step) : Prop :=
  ∀ x ∈ st.execution v.db, ∀ s ∈ claimJob x.2.1 x.2.2 v.db, callsImport cfg x.2.1 s = true →
    s.ws.status = .stopped ∧
      ∃ n, v.requestedAt.lookup x.2.2 = some n ∧ NoBringUp s.wid (eventsSince v.db.trace n)

/-- The workspace whose lifecycle an accepted request of this step takes over. -/
def takesOver (db : Db) : Step → Option Nat
  | .requestStartWorkspace inp wid owner user =>
      (requestStartWorkspace db inp wid owner user).toOption.map fun _ => wid
  | .requestStopWorkspace inp wid owner user =>
      (requestStopWorkspace db inp wid owner user).toOption.map fun _ => wid
  | .requestRestartWorkspace inp wid owner user =>
      (requestRestartWorkspace db inp wid owner user).toOption.map fun _ => wid
  | .requestDeleteWorkspace inp wid owner user =>
      (requestDeleteWorkspace db inp wid owner user).toOption.map fun _ => wid
  | .requestUpdateWorkspace inp wid owner user config =>
      (requestUpdateWorkspace db inp wid owner user config).toOption.map fun _ => wid
  | _ => none

/-- While a restore of a workspace is pending: no lifecycle request for it is accepted, and no
other job of it is executed that may take it out of `STOPPED`. -/
def Undisturbed (cfg : Settings) (v : Watched) (st : Step) : Prop :=
  ∀ jid job, v.db.jobs.lookup jid = some job → job.jobType = .snapshotRestore →
    job.status.isOpen = true →
    takesOver v.db st ≠ some job.workspaceId ∧
      ∀ x ∈ st.execution v.db, ∀ s ∈ claimJob x.2.1 x.2.2 v.db, x.2.2 ≠ jid →
        s.wid = job.workspaceId → SparesStopped cfg x.2.1 s

/-! ## The invariant -/

/-- A pending restore finds its workspace as it was requested. -/
def RestoreWaits (v : Watched) (jid : Nat) (job : WorkspaceJob) : Prop :=
  (v.db.workspaces.lookup job.workspaceId).map (·.status) = some .stopped ∧
    ∃ n ≤ v.db.trace.length, v.requestedAt.lookup jid = some n ∧
      NoBringUp job.workspaceId (eventsSince v.db.trace n)

structure RestoreInv (v : Watched) : Prop where
  wf : WellFormed v.db
  waits : ∀ jid job, v.db.jobs.lookup jid = some job → job.jobType = .snapshotRestore →
    job.status.isOpen = true → RestoreWaits v jid job

/-- A restore goes on waiting: its workspace keeps the status, and no bring-up of it is added. -/
theorem RestoreWaits.step {v v' : Watched} {jid : Nat} {job job' : WorkspaceJob}
    {new : List Event} (h : RestoreWaits v jid job) (hwid : job'.workspaceId = job.workspaceId)
    (hst : (v'.db.workspaces.lookup job.workspaceId).map (·.status) =
      (v.db.workspaces.lookup job.workspaceId).map (·.status))
    (htrace : v'.db.trace = new ++ v.db.trace) (hnew : NoBringUp job.workspaceId new)
    (hat : v'.requestedAt.lookup jid = v.requestedAt.lookup jid) : RestoreWaits v' jid job' := by
  obtain ⟨hstop, n, hn, hreq, hno⟩ := h
  refine ⟨by rw [hwid, hst]; exact hstop, n, ?_, hat.trans hreq, ?_⟩
  · rw [htrace, List.length_append]
    omega
  · rw [htrace, eventsSince_append hn, hwid]
    exact hnew.append hno

/-! ## Requests -/

/-- What a request other than `restore_snapshot` does. -/
structure RequestEffect (db : Db) (target : Option Nat) (db' : Db) : Prop where
  trace : db'.trace = db.trace
  jobs : db'.jobs = db.jobs ∨ ∃ job, db'.jobs = db.jobs.insert (Table.freshKey db.jobs) job ∧
    job.jobType ≠ .snapshotRestore
  workspaces : ∀ w, (db.workspaces.lookup w).isSome → target ≠ some w →
    db'.workspaces.lookup w = db.workspaces.lookup w

section Requests

variable {db : Db} {inp : IntentInput} {wid owner user : Nat}

theorem RequestEffect.refl (target : Option Nat) : RequestEffect db target db :=
  ⟨rfl, .inl rfl, fun _ _ _ => rfl⟩

theorem persistIntent_request {ws : Workspace} {st : WorkspaceStatus} {jt : WorkspaceJobType}
    {version : Nat} (hjt : jt ≠ .snapshotRestore) :
    Yields (RequestEffect db (some wid)) (persistIntent db inp wid ws st jt user version) := by
  intro db' h
  rw [persistIntent_ok h]
  refine ⟨rfl, .inr ⟨_, rfl, hjt⟩, fun w _ hw => ?_⟩
  have hne : w ≠ wid := fun h => hw (by rw [h])
  simp [Db.queueJob, hne]

theorem requestUpdateWorkspace_request {config : WorkspaceConfig} :
    Yields (RequestEffect db (some wid)) (requestUpdateWorkspace db inp wid owner user config) := by
  refine Yields.bind fun ws => Yields.bind fun _ => Yields.bind fun _ => Yields.bind fun latest => ?_
  intro db' h
  rw [← Except.ok.inj h]
  refine ⟨rfl, .inr ⟨_, rfl, by simp [newJob]⟩, fun w _ hw => ?_⟩
  have hne : w ≠ wid := fun h => hw (by rw [h])
  simp [Db.queueJob, hne]

/-- An accepted request takes over the workspace it names; a refused one changes nothing. -/
theorem accepted_request {r : Except IntentError Db}
    (h : Yields (RequestEffect db (some wid)) r) :
    RequestEffect db (r.toOption.map fun _ => wid) (accepted db r) := by
  cases r with
  | ok db' => exact h db' rfl
  | error e => exact .refl _

theorem queued_request {r : Except IntentError Db} (h : Yields (RequestEffect db none) r) :
    RequestEffect db none (accepted db r) := Yields.accepted h (.refl _)

theorem createSnapshot_request : Yields (RequestEffect db none) (createSnapshot db inp wid owner) := by
  have hlast : ∀ job snaps, job.jobType ≠ .snapshotRestore →
      RequestEffect db none ({ db with snapshots := snaps }.queueJob job) := fun job snaps hjt =>
    ⟨rfl, .inr ⟨job, rfl, hjt⟩, fun _ _ _ => rfl⟩
  refine Yields.bind fun ws => Yields.bind fun _ => ?_
  split
  · exact Yields.bind fun _ => Yields.bind fun _ => fun db' h => by
      rw [← Except.ok.inj h]; exact hlast _ _ (by simp [newJob])
  · exact Yields.bind fun _ => fun db' h => by
      rw [← Except.ok.inj h]; exact hlast _ _ (by simp [newJob])

theorem importRepo_request : Yields (RequestEffect db none) (importRepo db inp wid owner) := by
  have hlast : ∀ job, job.jobType ≠ .snapshotRestore →
      RequestEffect db none (db.queueJob job) := fun job hjt =>
    ⟨rfl, .inr ⟨job, rfl, hjt⟩, fun _ _ _ => rfl⟩
  refine Yields.bind fun _ => ?_
  split
  · exact Yields.bind fun _ => fun db' h => by
      rw [← Except.ok.inj h]; exact hlast _ (by simp [newJob])
  · exact fun db' h => by rw [← Except.ok.inj h]; exact hlast _ (by simp [newJob])

theorem enqueueReconcileRuntimeJob_request {cfg : Settings} :
    Yields (RequestEffect db none) (enqueueReconcileRuntimeJob cfg db inp wid) := by
  unfold enqueueReconcileRuntimeJob
  split
  · intro db' h; cases h
  · exact Yields.bind fun _ => Yields.bind fun _ => Yields.bind fun _ => Yields.bind fun _ =>
      fun db' h => by
        rw [← Except.ok.inj h]
        exact ⟨rfl, .inr ⟨_, rfl, by simp [newJob]⟩, fun _ _ _ => rfl⟩

theorem addWorkspace_request {ws : Workspace} {config : WorkspaceConfig} :
    RequestEffect db none (db.addWorkspace inp ws config) := by
  refine ⟨rfl, .inr ⟨_, rfl, by simp [newJob]⟩, fun w hw _ => ?_⟩
  have hne : w ≠ Table.freshKey db.workspaces := by
    rintro rfl
    rw [Table.lookup_freshKey] at hw
    cases hw
  simp [Db.addWorkspace, Db.queueJob, hne]

theorem createWorkspace_request {name : String} {config : WorkspaceConfig} :
    Yields (RequestEffect db none) (createWorkspace db inp owner name config) :=
  Yields.bind fun _ => fun db' h => by rw [← Except.ok.inj h]; exact addWorkspace_request

theorem createOperatorPinnedTestWorkspace_request {cfg : Settings} {executionNodeId : Nat}
    {suffix : String} {config : WorkspaceConfig} :
    Yields (RequestEffect db none)
      (createOperatorPinnedTestWorkspace cfg db inp owner executionNodeId suffix config) :=
  Yields.bind fun _ => Yields.bind fun _ => fun db' h => by
    rw [← Except.ok.inj h]; exact addWorkspace_request

end Requests

/-- A request that queues no restore. -/
def Step.isOtherRequest : Step → Bool
  | .restoreSnapshot _ _ _ | .processNextQueuedJob _ _ | .runQueuedWorkspaceJobById _ _
  | .drainPendingCleanupTasks _ | .reclaimStuckRunningJobs _ => false
  | _ => true

/-- **Every request but `restore_snapshot`**, accepted or refused. -/
theorem request_effect (cfg : Settings) (db : Db) {st : Step} (hst : st.isOtherRequest = true) :
    RequestEffect db (takesOver db st) (step cfg db st) := by
  cases st with
  | createWorkspace inp owner name config => exact queued_request createWorkspace_request
  | createOperatorPinnedTestWorkspace inp owner executionNodeId suffix config =>
      exact queued_request createOperatorPinnedTestWorkspace_request
  | requestStartWorkspace inp wid owner user =>
      exact accepted_request (Yields.bind fun _ => Yields.bind fun _ => Yields.bind fun _ =>
        Yields.bind fun _ => Yields.bind fun _ => persistIntent_request (by simp))
  | requestStopWorkspace inp wid owner user =>
      exact accepted_request (Yields.bind fun _ => Yields.bind fun _ => Yields.bind fun _ =>
        Yields.bind fun _ => persistIntent_request (by simp))
  | requestRestartWorkspace inp wid owner user =>
      exact accepted_request (Yields.bind fun _ => Yields.bind fun _ => Yields.bind fun _ =>
        Yields.bind fun _ => Yields.bind fun _ => persistIntent_request (by simp))
  | requestDeleteWorkspace inp wid owner user =>
      exact accepted_request (Yields.bind fun _ => Yields.bind fun _ => Yields.bind fun _ =>
        Yields.bind fun _ => persistIntent_request (by simp))
  | requestUpdateWorkspace inp wid owner user config =>
      exact accepted_request requestUpdateWorkspace_request
  | enqueueReconcileRuntimeJob inp wid => exact queued_request enqueueReconcileRuntimeJob_request
  | createSnapshot inp wid owner => exact queued_request createSnapshot_request
  | importRepo inp wid owner => exact queued_request importRepo_request
  | _ => cases hst

theorem restoreSnapshot_ok {db db' : Db} {inp : IntentInput} {sid owner : Nat}
    (h : restoreSnapshot db inp sid owner = .ok db') :
    ∃ job snapshots ws, db' = { db with snapshots := snapshots }.queueJob job ∧
      db.workspaces.lookup job.workspaceId = some ws ∧ ws.status = .stopped := by
  unfold restoreSnapshot at h
  split at h
  · cases h
  · split at h
    · cases h
    · rename_i ws hws
      split at h
      · cases h
      · split at h
        · cases h
        · split at h
          · cases h
          · rename_i hst
            split at h
            · cases h
            · split at h
              · cases h
              · exact ⟨_, _, ws, (Except.ok.inj h).symm, hws, by simpa using hst⟩

/-! ## Steps and runs -/

section Steps

variable {cfg : Settings} {v : Watched}

theorem RestoreWaits.stopped {jid : Nat} {job : WorkspaceJob} (h : RestoreWaits v jid job) :
    (v.db.workspaces.lookup job.workspaceId).isSome = true := by
  obtain ⟨ws, hws, -⟩ := Option.map_eq_some_iff.mp h.1
  rw [hws]
  rfl

/-- An execution: of the restore itself, of another job of the workspace, or elsewhere. -/
theorem ExecEffect.restoreWaits {entry : EntryPoint} {inp : WorkerInput} {k : Nat} {db' : Db}
    (h : ExecEffect cfg entry inp k v.db db') (hinv : RestoreInv v)
    (hspare : ∀ jid job, v.db.jobs.lookup jid = some job → job.jobType = .snapshotRestore →
      job.status.isOpen = true → ∀ s ∈ claimJob inp k v.db, k ≠ jid → s.wid = job.workspaceId →
        SparesStopped cfg inp s) (jid : Nat) (job : WorkspaceJob)
    (hjob : db'.jobs.lookup jid = some job) (hjt : job.jobType = .snapshotRestore)
    (hopen : job.status.isOpen = true) : RestoreWaits { v with db := db' } jid job := by
  cases h with
  | idle _ => exact hinv.waits jid job hjob hjt hopen
  | orphan _ hjob' hws _ =>
      have hsome := hinv.wf.owned hjob'
      rw [hws] at hsome
      cases hsome
  | rolledBack _ _ ht =>
      refine (hinv.waits jid job hjob hjt hopen).step rfl rfl rfl ?_ rfl
      exact NoBringUp.calls fun e he => (List.mem_filter.mp he).2
  | @committed s hs hc hend =>
      obtain ⟨hw, hsame⟩ := hend.target
      have hcl := claimJob_claimed hs
      have h0 : NoBringUp job.workspaceId s.trace := by
        rw [hcl.trace]
        intro e he
        cases he
      obtain ⟨old, hold, hsold, hq⟩ := hcl.job
      rw [commit_jobs, Table.lookup_insert_eq] at hjob
      split at hjob
      · -- the restore itself, queued again
        rename_i hk
        subst hk
        obtain rfl := Option.some.inj hjob
        have hsjt : s.job.jobType = .snapshotRestore := hsame.2.symm.trans hjt
        have haux : s.job.jobType.isLifecycle = false := by rw [hsjt]; rfl
        have hwid : (executeClaimedJob cfg inp entry s).session.job.workspaceId = s.wid := by
          rw [hsame.1, hcl.target]
        have hwaits : RestoreWaits v jid old := hinv.waits jid old hold (hsold.2.symm.trans hsjt)
          (by rw [hq]; rfl)
        have hwold : old.workspaceId = s.wid := hsold.1.symm.trans hcl.target
        have hst : (executeClaimedJob cfg inp entry s).session.ws.status = s.ws.status := by
          rcases ((executeClaimedJob_aux cfg inp entry haux).1 hc).status with hkeep | hstray
          · exact hkeep.2
          · rw [hstray.1] at hopen
            cases hopen
        refine hwaits.step (hwid.trans hwold.symm) ?_ (commit_trace _ _ _) ?_ rfl
        · rw [hwold, commit_workspaces_lookup, hw, if_pos rfl, hcl.ws, Option.map_some,
            Option.map_some, hst]
        · rw [hwold, ← hwid]
          exact hend.noBringUp h0 (.inr haux)
      · rename_i hk
        have hwaits := hinv.waits jid job hjob hjt hopen
        by_cases hwid : s.wid = job.workspaceId
        · have hspares := hspare jid job hjob hjt hopen s hs (fun h => hk h.symm) hwid
          have hstop : s.ws.status = .stopped := by
            have hws := hwaits.1
            rw [← hwid, hcl.ws] at hws
            exact Option.some.inj hws
          refine hwaits.step rfl ?_ (commit_trace _ _ _) (hend.noBringUp h0 (.inr hspares.1)) rfl
          rw [commit_workspaces_lookup, hw, if_pos hwid.symm, ← hwid, hcl.ws, Option.map_some,
            Option.map_some, hstop, executeClaimedJob_stopped cfg inp hstop hspares hc]
        · refine hwaits.step rfl ?_ (commit_trace _ _ _) (hend.noBringUp h0 (.inl hwid)) rfl
          rw [commit_workspaces_lookup, hw, if_neg fun h => hwid h.symm]

theorem restoreInv_step {st : Step} (hinv : RestoreInv v) (hst : Undisturbed cfg v st) :
    RestoreInv (watchStep cfg v st) := by
  refine ⟨wellFormed_step cfg hinv.wf st, ?_⟩
  have hexec : ∀ {entry inp k}, st.execution v.db = some (entry, inp, k) →
      step cfg v.db st = runJob cfg entry inp k v.db → (watchStep cfg v st).requestedAt = v.requestedAt →
      ∀ jid job, (step cfg v.db st).jobs.lookup jid = some job → job.jobType = .snapshotRestore →
        job.status.isOpen = true → RestoreWaits (watchStep cfg v st) jid job := by
    intro entry inp k hex hrun hat jid job hjob hjt hopen
    have heff := runJob_effect cfg entry inp k v.db
    rw [hrun] at hjob
    have hwaits := heff.restoreWaits hinv (fun jid job hl hjt hopen s hs hne hw =>
      (hst jid job hl hjt hopen).2 _ hex s hs hne hw) jid job hjob hjt hopen
    have hv : watchStep cfg v st = { v with db := runJob cfg entry inp k v.db } := by
      rw [← hrun, ← hat]
      rfl
    rw [hv]
    exact hwaits
  cases hreq : st.isOtherRequest with
  | true =>
      have heff := request_effect cfg v.db hreq
      have hat : (watchStep cfg v st).requestedAt = v.requestedAt := by
        cases st <;> first | rfl | cases hreq
      intro jid job hjob hjt hopen
      have hold : v.db.jobs.lookup jid = some job := by
        have hjob' : (step cfg v.db st).jobs.lookup jid = some job := hjob
        rcases heff.jobs with hjobs | ⟨new, hjobs, hnew⟩
        · rw [hjobs] at hjob'
          exact hjob'
        · rw [hjobs, Table.lookup_insert_eq] at hjob'
          split at hjob'
          · obtain rfl := Option.some.inj hjob'
            exact absurd hjt hnew
          · exact hjob'
      have hwaits := hinv.waits jid job hold hjt hopen
      refine hwaits.step rfl ?_ (show _ = [] ++ v.db.trace from heff.trace)
        (fun e he => by cases he) (by rw [hat])
      exact congrArg _ (heff.workspaces _ hwaits.stopped (hst jid job hold hjt hopen).1)
  | false =>
      cases st with
      | restoreSnapshot inp sid owner =>
          intro jid job hjob hjt hopen
          simp only [watchStep, step] at hjob ⊢
          cases hr : restoreSnapshot v.db inp sid owner with
          | error e =>
              rw [hr] at hjob
              exact hinv.waits jid job hjob hjt hopen
          | ok db' =>
              rw [hr] at hjob
              obtain ⟨new, snaps, ws, hdb', hws, hstop⟩ := restoreSnapshot_ok hr
              have hjob' : db'.jobs.lookup jid = some job := hjob
              simp only [accepted]
              subst hdb'
              simp only [Db.queueJob, Table.lookup_insert_eq] at hjob'
              split at hjob'
              · rename_i hjid
                obtain rfl := Option.some.inj hjob'
                refine ⟨?_, v.db.trace.length, le_refl _, by simp [hjid], ?_⟩
                · simp [Db.queueJob, hws, hstop]
                · simp only [Db.queueJob, eventsSince_self]
                  exact fun e he => by cases he
              · rename_i hjid
                refine (hinv.waits jid job hjob' hjt hopen).step rfl rfl (rfl : _ = [] ++ _)
                  (fun e he => by cases he) ?_
                simp [hjid]
      | processNextQueuedJob inp k =>
          cases hold : isOldestQueued inp.clk v.db k with
          | true =>
              have hex : Step.execution v.db (.processNextQueuedJob inp k) =
                  some (.runPendingJobs, inp, k) := by simp [Step.execution, hold]
              exact hexec hex (by simp [step, hold]) rfl
          | false =>
              have hsame : step cfg v.db (.processNextQueuedJob inp k) = v.db := by
                simp [step, hold]
              have hv : watchStep cfg v (.processNextQueuedJob inp k) = v := by
                simp only [watchStep, hsame]
              rw [hv]
              exact hinv.waits
      | runQueuedWorkspaceJobById inp k => exact hexec rfl rfl rfl
      | drainPendingCleanupTasks answers =>
          intro jid job hjob hjt hopen
          have heff := drainPendingCleanupTasks_effect v.db answers
          obtain ⟨new, htr, hnew⟩ := heff.calls
          have hold : v.db.jobs.lookup jid = some job := by
            rw [← heff.jobs]
            exact hjob
          refine (hinv.waits jid job hold hjt hopen).step rfl ?_ htr ?_ rfl
          · exact congrArg (fun t => (t.lookup job.workspaceId).map (·.status)) heff.workspaces
          · intro e he
            obtain ⟨w, sc, ws, rfl, -⟩ := hnew e he
            rfl
      | reclaimStuckRunningJobs clk =>
          have hv : watchStep cfg v (.reclaimStuckRunningJobs clk) = v := by
            simp only [watchStep, step, reclaimStuckRunningJobs_eq hinv.wf]
          rw [hv]
          exact hinv.waits
      | _ => cases hreq

/-- Under the invariant every import finds what the request saw. -/
theorem RestoreInv.imports (hinv : RestoreInv v) (st : Step) : ImportsIntoStopped cfg v st := by
  intro x _ s hs hcall
  have hcl := claimJob_claimed hs
  obtain ⟨job, hjob, hsame, hq⟩ := hcl.job
  have hjt : s.job.jobType = .snapshotRestore := by
    unfold callsImport at hcall
    split at hcall
    · assumption
    · cases hcall
  have hwid : job.workspaceId = s.wid := hsame.1.symm.trans hcl.target
  obtain ⟨hstop, n, -, hreq, hno⟩ := hinv.waits _ job hjob (hsame.2.symm.trans hjt) (by rw [hq]; rfl)
  rw [hwid, hcl.ws] at hstop
  rw [hwid] at hno
  exact ⟨Option.some.inj hstop, n, hreq, hno⟩

end Steps

/-- **A restore writes into a stopped workspace**: in every run from a fresh installation that
leaves workspaces with a pending restore alone, every import finds its workspace `STOPPED`, with
no bring-up of it completed since the restore was requested. -/
theorem restores_import_into_stopped {cfg : Settings} (nodes : Table Nat ExecutionNode)
    (topologies : List Int) {steps : List Step}
    (hsteps : Along (watchStep cfg) (Undisturbed cfg) { db := initDb nodes topologies } steps) :
    Along (watchStep cfg) (ImportsIntoStopped cfg) { db := initDb nodes topologies } steps := by
  have h0 : RestoreInv { db := initDb nodes topologies } := by
    refine ⟨wellFormed_initDb nodes topologies, fun jid job h => ?_⟩
    simp [initDb] at h
  exact along_of_along h0 (fun v st h hst => restoreInv_step h hst) (fun v st h _ => h.imports st)
    hsteps

/-- A workspace with a snapshot is stopped, and the restore of the snapshot requested. -/
def restoreRequested : List Step :=
  [.createWorkspace { now := 10 } 7 "demo" {},
   .processNextQueuedJob (sampleWorker 20 sampleOrch) 1,
   .createSnapshot { now := 30 } 1 7,
   .processNextQueuedJob
     (sampleWorker 40 { exportWorkspaceFilesystemSnapshot := .returned { success := true } }) 2,
   .requestStopWorkspace { now := 50 } 1 7 7,
   .processNextQueuedJob (sampleWorker 60
     { stopWorkspaceRuntime := .returned { success := true, topologyDetached := some false } }) 3,
   .restoreSnapshot { now := 70 } 1 7]

/-- An orchestrator whose imports succeed. -/
def importingOrch : OrchestratorService :=
  { importWorkspaceFilesystemSnapshot := .returned { success := true } }

/-- The restore is the next job. -/
def restoredAtOnce : List Step :=
  restoreRequested ++ [.processNextQueuedJob (sampleWorker 80 importingOrch) 4]

/-- The first attempt gets no orchestrator, and the owner starts the workspace. -/
def startedMeanwhile : List Step :=
  restoreRequested ++
    [.processNextQueuedJob
       { sampleWorker 80 importingOrch with binding := .failed "docker: timeout" } 4,
     .requestStartWorkspace { now := 81 } 1 7 7,
     .processNextQueuedJob (sampleWorker 82 sampleOrch) 5]

theorem restored_at_once_is_safe :
    Along (watchStep {}) (ImportsIntoStopped {}) { db := sampleDb } restoredAtOnce ∧
      (claimJob (sampleWorker 80 importingOrch) 4 (run (step {}) sampleDb restoreRequested)).any
        (callsImport {} (sampleWorker 80 importingOrch)) = true := by
  -- no restore is pending before the last step, and the last step runs the only one
  have hquiet : ∀ (v : Watched) (st : Step), (Table.rows v.db.jobs).all (fun j =>
      !(decide (j.jobType = .snapshotRestore) && j.status.isOpen)) = true → Undisturbed {} v st := by
    intro v st h jid job hjob hjt hopen
    have hnot := List.all_eq_true.mp h job (Table.mem_rows_iff.mpr ⟨jid, hjob⟩)
    rw [hjt, hopen] at hnot
    cases hnot
  refine ⟨restores_import_into_stopped _ _ ⟨?_, ?_, ?_, ?_, ?_, ?_, ?_, ?_, trivial⟩,
    by decide +kernel⟩
  case refine_8 =>
    intro jid job hjob hjt _
    refine ⟨by simp [takesOver], fun x hx s _ hne _ => absurd ?_ hne⟩
    have hrows : ∀ e ∈ (run (step {}) sampleDb restoreRequested).jobs.entries,
        e.2.jobType = .snapshotRestore → e.1 = 4 := by decide +kernel
    have hjid : jid = 4 := hrows ⟨jid, job⟩ (AList.mem_lookup_iff.mp hjob) hjt
    simp only [Step.execution, Option.mem_def] at hx
    split at hx
    · rw [← Option.some.inj hx, hjid]
    · cases hx
  all_goals exact hquiet _ _ (by decide +kernel)

/-- The second attempt of the restore writes into the running workspace. -/
theorem restore_imports_into_running :
    ¬ ∀ (cfg : Settings) (nodes : Table Nat ExecutionNode) (topologies : List Int)
        (steps : List Step),
      Along (watchStep cfg) (ImportsIntoStopped cfg) { db := initDb nodes topologies } steps := by
  intro h
  have hlast := (h {} (AList.insert 1 sampleNode ∅) [1] (startedMeanwhile ++
    [.processNextQueuedJob (sampleWorker 200 importingOrch) 4])).at
  have hdb := run_watchStep_db {} { db := sampleDb } startedMeanwhile
  have hold : isOldestQueued { now := 200 } (run (step {}) sampleDb startedMeanwhile) 4 = true := by
    decide +kernel
  have hbad : (claimJob (sampleWorker 200 importingOrch) 4
      (run (step {}) sampleDb startedMeanwhile)).any (fun s =>
        callsImport {} (sampleWorker 200 importingOrch) s && s.ws.status = .running) = true := by
    decide +kernel
  obtain ⟨s, hs, hcall⟩ := Option.any_eq_true _ _ |>.mp hbad
  simp only [Bool.and_eq_true, decide_eq_true_eq] at hcall
  have hex : Step.execution (run (step {}) sampleDb startedMeanwhile)
      (.processNextQueuedJob (sampleWorker 200 importingOrch) 4) =
        some (.runPendingJobs, sampleWorker 200 importingOrch, 4) := by
    simp only [Step.execution]
    exact if_pos hold
  have hstop := (hlast _ (hdb ▸ hex) s (hdb ▸ hs) hcall.1).1
  rw [hcall.2] at hstop
  cases hstop

end Devnest
