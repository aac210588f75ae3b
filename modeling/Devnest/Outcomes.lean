import Devnest.System

/-!
# What a job execution can do to a workspace

Specifications of the worker's functions, one per function, stated on
what later modules look at: the workspace status, the job's status and
target, the placement the runtime row names, the cleanup rows and the
history. A proof about runs uses these and never unfolds the worker.

A lifecycle job either ends queued with its workspace still busy, or
ends settled with the workspace in a settled status (`Ends`). The other
job types keep the status, with two exceptions that `Strays` names: a
failure before the orchestrator runs, and a reconcile.
-/

namespace Devnest

/-! ## Vocabulary -/

/-- The rows no failure path touches: the target, the placement, the cleanup debt. -/
structure Neutral (s s' : Session) : Prop where
  wid : s'.wid = s.wid
  job : SameJob s.job s'.job
  row : s'.rt.map (·.placement) = s.rt.map (·.placement)
  tasks : s'.tasks = s.tasks
  trace : s'.trace = s.trace

theorem Neutral.refl (s : Session) : Neutral s s := ⟨rfl, .refl _, rfl, rfl, rfl⟩

theorem Neutral.trans {s s' s'' : Session} (h : Neutral s s') (h' : Neutral s' s'') :
    Neutral s s'' :=
  ⟨h'.wid.trans h.wid, h.job.trans h'.job, h'.row.trans h.row, h'.tasks.trans h.tasks,
    h'.trace.trans h.trace⟩

/-- The job is queued again and the workspace is as before, or waits with it. A `CREATE`
may have reached `CREATING` in between. -/
def Requeued (s s' : Session) : Prop :=
  s'.job.status = .queued ∧
    (s'.ws.status = s.ws.status ∨ s'.ws.status = .pending ∨ s'.ws.status = .creating)

/-- A failure of a lifecycle job: another attempt, or `FAILED` and `ERROR`. -/
def Fails (s s' : Session) : Prop :=
  Requeued s s' ∨ (s'.job.status = .failed ∧ s'.ws.status = .error)

/-- The job is queued or settled and the status stays. -/
def Keeps (s s' : Session) : Prop := s'.job.status ≠ .running ∧ s'.ws.status = s.ws.status

/-- The job failed and took the status to `ERROR`. -/
def Strays (s' : Session) : Prop := s'.job.status = .failed ∧ s'.ws.status = .error

/-- How a lifecycle job ends. -/
def Ends (s s' : Session) : Prop :=
  Requeued s s' ∨
    ((s'.job.status = .succeeded ∨ s'.job.status = .failed) ∧ s'.ws.status.isBusy = false)

theorem Fails.not_succeeded {s s' : Session} (h : Fails s s') : s'.job.status ≠ .succeeded := by
  rintro hst
  rcases h with ⟨hq, -⟩ | ⟨hf, -⟩
  · rw [hq] at hst
    cases hst
  · rw [hf] at hst
    cases hst

theorem Fails.ends {s s' : Session} (h : Fails s s') : Ends s s' := by
  rcases h with h | ⟨hj, hs⟩
  · exact .inl h
  · exact .inr ⟨.inr hj, by rw [hs]; rfl⟩

/-! ## Retry and wait -/

section Failures

variable (cfg : Settings) (clk : Clock) (inp : WorkerInput)

/-- To show something of `retryElse`, show it of every requeued job and of the terminal
session. -/
theorem retryElse_elim {P : Session → Prop} {s terminal : Session} {retryable : Bool}
    {message : String} {stage : FailureStage} {code : String}
    (hq : ∀ j, SameJob s.job j → j.status = .queued → P { s with job := j }) (ht : P terminal) :
    P (retryElse cfg clk s retryable message stage code terminal) := by
  rcases retryElse_cases cfg clk s retryable message stage code terminal with
    ⟨-, j, heq, hsame, hj⟩ | ⟨-, heq⟩
  · rw [heq]; exact hq j hsame hj
  · rw [heq]; exact ht

theorem waitElse_elim {P : Session → Prop} {s terminal : Session} {message code reason : String}
    (hq : ∀ j, SameJob s.job j → j.status = .queued →
      P { s with job := j, ws := workspacePending s.ws message reason }) (ht : P terminal) :
    P (waitElse cfg clk s message code reason terminal) := by
  rcases waitElse_cases cfg clk s message code reason terminal with ⟨j, heq, hsame, hj⟩ | heq
  · rw [heq]; exact hq j hsame hj
  · rw [heq]; exact ht

theorem failJobTerminal_fails (s : Session) (m : String) (st : FailureStage) (fc ec : String) :
    Neutral s (failJobTerminal inp s m st fc ec) ∧ Strays (failJobTerminal inp s m st fc ec) :=
  ⟨⟨rfl, ⟨rfl, rfl⟩, clearRuntimeCapacityReservation_placement s.rt, rfl, rfl⟩, rfl, rfl⟩

theorem failJobOnly_keeps (s : Session) (m : String) (st : FailureStage) (code : String) :
    Neutral s (failJobOnly inp s m st code) ∧ Keeps s (failJobOnly inp s m st code) :=
  ⟨⟨rfl, ⟨rfl, rfl⟩, rfl, rfl, rfl⟩, by simp [Keeps, failJobOnly, markJobFailed]⟩

theorem finalizeJobFailedWorkspaceError_fails (s : Session) (m : String) (st : FailureStage) :
    Neutral s (finalizeJobFailedWorkspaceError clk s m st) ∧
      Strays (finalizeJobFailedWorkspaceError clk s m st) :=
  ⟨⟨rfl, ⟨rfl, rfl⟩, clearRuntimeCapacityReservation_placement s.rt, rfl, rfl⟩, rfl, rfl⟩

theorem resolveOrchestratorResultFailure_fails (s : Session) (m : String) (st : FailureStage)
    (retryable : Bool) :
    Neutral s (resolveOrchestratorResultFailure cfg clk s m st retryable) ∧
      Fails s (resolveOrchestratorResultFailure cfg clk s m st retryable) := by
  refine retryElse_elim (P := fun s' => Neutral s s' ∧ Fails s s') cfg clk ?_ ?_
  · exact fun j hsame hj => ⟨⟨rfl, hsame, rfl, rfl, rfl⟩, .inl ⟨hj, .inl rfl⟩⟩
  · exact (finalizeJobFailedWorkspaceError_fails clk s m st).imp_right .inr

theorem failJobFromPlacement_fails (s : Session) (e : PlacementError) :
    Neutral s (failJobFromPlacement cfg inp s e) ∧ Fails s (failJobFromPlacement cfg inp s e) := by
  have hretry : ∀ m, Neutral s (retryElse cfg inp.clk s true m .placement "placement"
        (failJobTerminal inp s m .placement "placement" "PLACEMENT_FAILED")) ∧
      Fails s (retryElse cfg inp.clk s true m .placement "placement"
        (failJobTerminal inp s m .placement "placement" "PLACEMENT_FAILED")) := by
    intro m
    refine retryElse_elim (P := fun s' => Neutral s s' ∧ Fails s s') cfg inp.clk ?_ ?_
    · exact fun j hsame hj => ⟨⟨rfl, hsame, rfl, rfl, rfl⟩, .inl ⟨hj, .inl rfl⟩⟩
    · exact (failJobTerminal_fails inp s _ _ _ _).imp_right .inr
  cases e with
  | noSchedulableNode m =>
      refine waitElse_elim (P := fun s' => Neutral s s' ∧ Fails s s') cfg inp.clk ?_ ?_
      · exact fun j hsame hj => ⟨⟨rfl, hsame, rfl, rfl, rfl⟩, .inl ⟨hj, .inr (.inl rfl)⟩⟩
      · exact (failJobTerminal_fails inp s _ _ _ _).imp_right .inr
  | invalidPlacementParameters m => exact hretry m
  | authoritativePlacement m => exact hretry m

theorem markNodeNotReadyForRetry_neutral (s : Session) (k : Option String) (r : String) :
    Neutral s (markNodeNotReadyForRetry s k r) ∧ (markNodeNotReadyForRetry s k r).ws = s.ws ∧
      (markNodeNotReadyForRetry s k r).job = s.job := by
  unfold markNodeNotReadyForRetry
  split
  · exact ⟨.refl s, rfl, rfl⟩
  · split
    · exact ⟨.refl s, rfl, rfl⟩
    · split
      · exact ⟨.refl s, rfl, rfl⟩
      · exact ⟨⟨rfl, .refl _, rfl, rfl, rfl⟩, rfl, rfl⟩

theorem waitForNodeReadiness_fails (s : Session) (k : Option String) (reason code : String) :
    Neutral s (waitForNodeReadiness cfg inp s k reason code) ∧
      Fails s (waitForNodeReadiness cfg inp s k reason code) := by
  obtain ⟨hn, hws, hjob⟩ := markNodeNotReadyForRetry_neutral s k reason
  refine waitElse_elim (P := fun s' => Neutral s s' ∧ Fails s s') cfg inp.clk ?_ ?_
  · intro j hsame hj
    exact ⟨hn.trans ⟨rfl, hsame, rfl, rfl, rfl⟩, .inl ⟨hj, .inr (.inl rfl)⟩⟩
  · obtain ⟨hn', hs⟩ := failJobTerminal_fails inp (markNodeNotReadyForRetry s k reason)
      "Timed out waiting for node readiness. Please try again later." .capacity "node_readiness" code
    exact ⟨hn.trans hn', .inr hs⟩

theorem failJobFromOrchestratorBinding_fails (s : Session) (m : String) :
    Neutral s (failJobFromOrchestratorBinding cfg inp s m) ∧
      Fails s (failJobFromOrchestratorBinding cfg inp s m) := by
  unfold failJobFromOrchestratorBinding
  split
  · exact waitForNodeReadiness_fails cfg inp s _ m _
  · refine retryElse_elim (P := fun s' => Neutral s s' ∧ Fails s s') cfg inp.clk ?_ ?_
    · exact fun j hsame hj => ⟨⟨rfl, hsame, rfl, rfl, rfl⟩, .inl ⟨hj, .inl rfl⟩⟩
    · exact (failJobTerminal_fails inp s _ _ _ _).imp_right .inr

end Failures

/-! ## Recording a failed rollback -/

/-- The debt is as before. -/
def SameDebt (s s' : Session) : Prop := s'.tasks = s.tasks ∧ s'.trace = s.trace

theorem Neutral.sameDebt {s s' : Session} (h : Neutral s s') : SameDebt s s' := ⟨h.tasks, h.trace⟩

/-- What `ensure_durable_cleanup_task` does to the debt: a row that had `SUCCEEDED` stays,
any other is `PENDING` afterwards and the history says so. -/
def Ensures (sc : CleanupScope) (s s' : Session) : Prop :=
  (SameDebt s s' ∧ ∃ task, s.tasks.get sc = some task ∧ task.status = .succeeded) ∨
  ((∀ task, s.tasks.get sc = some task → task.status ≠ .succeeded) ∧
    (∃ task, s'.tasks = s.tasks.set sc task ∧ task.status = .pending) ∧
    s'.trace = .taskPending s.wid sc :: s.trace)

theorem ensureDurableCleanupTask_fields (s : Session) (sc : CleanupScope) :
    (ensureDurableCleanupTask s sc).wid = s.wid ∧ (ensureDurableCleanupTask s sc).job = s.job ∧
      (ensureDurableCleanupTask s sc).ws = s.ws ∧ (ensureDurableCleanupTask s sc).rt = s.rt := by
  unfold ensureDurableCleanupTask
  split
  · exact ⟨rfl, rfl, rfl, rfl⟩
  · split <;> exact ⟨rfl, rfl, rfl, rfl⟩

theorem ensureDurableCleanupTask_ensures (s : Session) (sc : CleanupScope) :
    Ensures sc s (ensureDurableCleanupTask s sc) := by
  unfold ensureDurableCleanupTask
  cases hget : s.tasks.get sc with
  | none => exact .inr ⟨by simp [hget], ⟨_, rfl, rfl⟩, rfl⟩
  | some task =>
      by_cases hst : task.status = .succeeded
      · exact .inl ⟨by simp [hst, SameDebt], task, hget, hst⟩
      · refine .inr ⟨?_, ⟨{ task with status := .pending }, ?_, rfl⟩, ?_⟩
        · simpa [hget] using hst
        all_goals simp [hst]

theorem Ensures.congr {sc : CleanupScope} {s s' s'' : Session} (h : Ensures sc s s')
    (h' : SameDebt s' s'') : Ensures sc s s'' := by
  obtain ⟨ht, htr⟩ := h'
  rcases h with ⟨⟨ht', htr'⟩, hex⟩ | ⟨hne, ⟨task, hset, hp⟩, htr'⟩
  · exact .inl ⟨⟨ht.trans ht', htr.trans htr'⟩, hex⟩
  · exact .inr ⟨hne, ⟨task, ht.trans hset, hp⟩, htr.trans htr'⟩

/-- A sync after a failed bring-up keeps the target, the status and the placement, and
leaves the debt or ensures a rollback task. -/
structure Syncs (s s' : Session) : Prop where
  wid : s'.wid = s.wid
  job : s'.job = s.job
  ws : s'.ws = s.ws
  row : s'.rt.map (·.placement) = s.rt.map (·.placement)
  debt : SameDebt s s' ∨ Ensures .bringupRollback s s'

theorem Syncs.refl (s : Session) : Syncs s s := ⟨rfl, rfl, rfl, rfl, .inl ⟨rfl, rfl⟩⟩

theorem syncCleanupRequired_syncs {s : Session} {r : WorkspaceRuntime} (hr : s.rt = some r) :
    Syncs s (syncCleanupRequired s r) := by
  obtain ⟨hw, hj, hws, hrt⟩ := ensureDurableCleanupTask_fields
    { s with rt := some { r with healthStatus := .cleanupRequired } } .bringupRollback
  refine ⟨hw, hj, hws, ?_, .inr (ensureDurableCleanupTask_ensures _ _)⟩
  unfold syncCleanupRequired
  rw [hrt, hr]
  rfl

theorem syncRolledBack_syncs {s : Session} {r : WorkspaceRuntime} (hr : s.rt = some r)
    (a b c d : Option String) : Syncs s { s with rt := some (syncRolledBack r a b c d) } :=
  ⟨rfl, rfl, rfl, by rw [hr]; rfl, .inl ⟨rfl, rfl⟩⟩

theorem syncRuntimeAfterFailedBringup_syncs (s : Session) (res : WorkspaceBringUpResult) :
    Syncs s (syncRuntimeAfterFailedBringup s res) := by
  unfold syncRuntimeAfterFailedBringup
  split
  · exact .refl s
  · split
    · exact .refl s
    · rename_i r hr
      split
      · exact syncRolledBack_syncs hr _ _ _ _
      · exact syncCleanupRequired_syncs hr

theorem syncAfterException_syncs (s : Session) (e : OrchestratorException) :
    Syncs s (syncAfterException s e) := by
  cases e with
  | bringUp be =>
      simp only [syncAfterException, syncRuntimeAfterBringupException]
      split
      · exact .refl s
      · split
        · exact .refl s
        · rename_i r hr
          split
          · exact syncRolledBack_syncs hr _ _ _ _
          · exact syncCleanupRequired_syncs hr
  | stop m => exact .refl s
  | delete m => exact .refl s
  | restart m => exact .refl s
  | update m => exact .refl s
  | snapshot m => exact .refl s

/-! ## The exception handler -/

/-- A sync, then a neutral end: the shape of every failure after the orchestrator ran. -/
structure FailsAfterSync (s s' : Session) : Prop where
  wid : s'.wid = s.wid
  job : SameJob s.job s'.job
  row : s'.rt.map (·.placement) = s.rt.map (·.placement)
  debt : SameDebt s s' ∨ Ensures .bringupRollback s s'

theorem Syncs.then {s s' s'' : Session} (h : Syncs s s') (h' : Neutral s' s'') :
    FailsAfterSync s s'' where
  wid := h'.wid.trans h.wid
  job := h.job ▸ h'.job
  row := h'.row.trans h.row
  debt := h.debt.imp (fun hd => ⟨h'.tasks.trans hd.1, h'.trace.trans hd.2⟩)
    fun hd => hd.congr h'.sameDebt

theorem Syncs.fails {s s' s'' : Session} (h : Syncs s s') (h' : Fails s' s'') : Fails s s'' := by
  rcases h' with ⟨hj, hs⟩ | h'
  · exact .inl ⟨hj, by rw [← h.ws]; exact hs⟩
  · exact .inr h'

theorem settleSnapshotAfterException_neutral (s : Session) :
    Neutral s (settleSnapshotAfterException s) ∧ (settleSnapshotAfterException s).ws = s.ws := by
  unfold settleSnapshotAfterException
  split
  · exact ⟨.refl s, rfl⟩
  · split
    · exact ⟨.refl s, rfl⟩
    · split
      · split
        · exact ⟨⟨rfl, .refl _, rfl, rfl, rfl⟩, rfl⟩
        · exact ⟨.refl s, rfl⟩
      · exact ⟨⟨rfl, .refl _, rfl, rfl, rfl⟩, rfl⟩

/-- The handler after its sync: a snapshot job keeps the status, any other fails as usual. -/
theorem handleOrchestratorException_spec (cfg : Settings) (inp : WorkerInput) (s : Session)
    (nodeKey : Option String) (e : OrchestratorException) :
    Neutral (syncAfterException s e) (handleOrchestratorException cfg inp s nodeKey e) ∧
      (s.job.jobType.isSnapshot = false →
        Fails (syncAfterException s e) (handleOrchestratorException cfg inp s nodeKey e)) ∧
      (s.job.jobType.isSnapshot = true →
        Keeps (syncAfterException s e) (handleOrchestratorException cfg inp s nodeKey e)) := by
  have hjt : (syncAfterException s e).job.jobType = s.job.jobType := by
    rw [(syncAfterException_syncs s e).job]
  unfold handleOrchestratorException
  generalize syncAfterException s e = t at hjt ⊢
  simp only [hjt]
  split
  · rename_i hready
    obtain ⟨hn, hf⟩ := waitForNodeReadiness_fails cfg inp t nodeKey (exceptionMessage e)
      "ORCHESTRATOR_EXCEPTION"
    refine ⟨hn, fun _ => hf, fun hsnap => ?_⟩
    cases hty : s.job.jobType <;> simp_all [nodeReadinessRetryAllowed, WorkspaceJobType.isSnapshot]
  · refine retryElse_elim (P := fun s' => Neutral t s' ∧ (_ → Fails t s') ∧ (_ → Keeps t s'))
      cfg inp.clk ?_ ?_
    · exact fun j hsame hj => ⟨⟨rfl, hsame, rfl, rfl, rfl⟩, fun _ => .inl ⟨hj, .inl rfl⟩,
        fun _ => ⟨by simp [hj], rfl⟩⟩
    · cases hsnap : s.job.jobType.isSnapshot with
      | true =>
          obtain ⟨hn, hws⟩ := settleSnapshotAfterException_neutral t
          obtain ⟨hn', hk⟩ := failJobOnly_keeps inp (settleSnapshotAfterException t)
            (exceptionMessage e) (if true = true then .storage else .container) "ORCHESTRATOR_EXCEPTION"
          exact ⟨hn.trans hn', by simp, fun _ => ⟨hk.1, hk.2.trans (congrArg _ hws)⟩⟩
      | false =>
          obtain ⟨hn, hs⟩ := failJobTerminal_fails inp t (exceptionMessage e)
            (if false = true then .storage else .container) "ORCHESTRATOR_EXCEPTION"
            "ORCHESTRATOR_EXCEPTION"
          exact ⟨hn, fun _ => .inr hs, by simp⟩

/-- Without an attempted rollback there is nothing to sync. -/
theorem syncAfterException_of_no_rollback {e : WorkspaceBringUpError}
    (h : e.rollbackAttempted = false) (s : Session) : syncAfterException s (.bringUp e) = s := by
  simp [syncAfterException, syncRuntimeAfterBringupException, h]

/-! ## Successful results -/

/-- The session after a container came up with the facts `f`. -/
structure ComesUp (s : Session) (f : RuntimeFacts) (s' : Session) : Prop where
  wid : s'.wid = s.wid
  job : SameJob s.job s'.job
  jobStatus : s'.job.status = .succeeded
  status : s'.ws.status = .running
  row : s'.rt.map (·.placement) = some (f.nodeId, parseTopologyId f.topologyId)
  tasks : s'.tasks = s.tasks
  trace : s'.trace = .bringUpSucceeded s.wid s.job.jobType :: s.trace

theorem applyRuntimeBringupLike_placement (cfg : Settings) (rt : Option WorkspaceRuntime)
    (f : RuntimeFacts) (v : Int) (target : Option String) :
    (applyRuntimeBringupLike cfg rt f v target).placement =
      (f.nodeId, parseTopologyId f.topologyId) := by
  unfold applyRuntimeBringupLike
  simp only
  split <;> rfl

theorem remoteGatewayRouteTargetForNode_no_rollback {port : Option String → Option Nat} {s : Session}
    {k g i : Option String} {e : WorkspaceBringUpError}
    (h : remoteGatewayRouteTargetForNode port s k g i = .error e) : e.rollbackAttempted = false := by
  unfold remoteGatewayRouteTargetForNode at h
  simp only at h
  split at h
  · cases h
  · split at h
    · cases h
    · split at h
      · cases h; rfl
      · split at h
        · cases h; rfl
        · cases h

/-- Either the route target raised before anything was written, or the container is up. -/
theorem finalizeRuntimeRunningSuccess_cases (cfg : Settings) (clk : Clock)
    (port : Option String → Option Nat) (s : Session) (f : RuntimeFacts) (v : Int) :
    (∃ e, finalizeRuntimeRunningSuccess cfg clk port s f v = .raised (.bringUp e) s ∧
      e.rollbackAttempted = false) ∨
    (∃ s', finalizeRuntimeRunningSuccess cfg clk port s f v = .returned s' ∧ ComesUp s f s') := by
  unfold finalizeRuntimeRunningSuccess
  split
  · rename_i e he
    exact .inl ⟨e, rfl, remoteGatewayRouteTargetForNode_no_rollback he⟩
  · exact .inr ⟨_, rfl, rfl, ⟨rfl, rfl⟩, rfl, rfl,
      congrArg some (applyRuntimeBringupLike_placement cfg s.rt f v _), rfl, rfl⟩

/-- The placement a successful stop leaves. -/
def stopPlacement (p : Option (Option String × Option Int)) (res : WorkspaceStopResult) :
    Option String × Option Int :=
  ((p.bind Prod.fst), if res.topologyDetached = some false then p.bind Prod.snd else none)

theorem applyRuntimeStop_placement (rt : Option WorkspaceRuntime) (res : WorkspaceStopResult) :
    (applyRuntimeStop rt res).placement = stopPlacement (rt.map (·.placement)) res := by
  cases rt with
  | none => simp [applyRuntimeStop, stopPlacement, WorkspaceRuntime.placement]; rfl
  | some r => simp [applyRuntimeStop, stopPlacement, WorkspaceRuntime.placement]; rfl

/-! ## Lifecycle jobs -/

/-- A result of this execution says that a container of this workspace is up. -/
inductive SaysUp (inp : WorkerInput) : WorkspaceJobType → RuntimeFacts → Prop
  | create {res : WorkspaceBringUpResult} (h : inp.orch.bringUpWorkspaceRuntime = .returned res)
      (hs : res.success = true) : SaysUp inp .create res.facts
  | start {res : WorkspaceBringUpResult} (h : inp.orch.bringUpWorkspaceRuntime = .returned res)
      (hs : res.success = true) : SaysUp inp .start res.facts
  | restart {res : WorkspaceRestartResult} (h : inp.orch.restartWorkspaceRuntime = .returned res)
      (hs : res.success = true) : SaysUp inp .restart res.facts
  | update {res : WorkspaceUpdateResult} (h : inp.orch.updateWorkspaceRuntime = .returned res)
      (hs : res.success = true) : SaysUp inp .update res.facts

/-- How a lifecycle job can end. -/
inductive LifecycleEnd (inp : WorkerInput) (s : Session) : Session → Prop
  | failed {s' : Session} (h : FailsAfterSync s s') (hf : Fails s s')
      (hdebt : SameDebt s s' ∨ s.job.jobType = .create ∨ s.job.jobType = .start) :
      LifecycleEnd inp s s'
  | stopFailed {s' : Session} {res : WorkspaceStopResult} (hjt : s.job.jobType = .stop)
      (hres : inp.orch.stopWorkspaceRuntime = .returned res) (hsucc : res.success = false)
      (wid : s'.wid = s.wid) (job : SameJob s.job s'.job) (hs : Strays s')
      (row : s'.rt.map (·.placement) = s.rt.map (·.placement))
      (debt : Ensures .stopIncomplete s s') : LifecycleEnd inp s s'
  | up {s' : Session} {f : RuntimeFacts} (hup : SaysUp inp s.job.jobType f) (h : ComesUp s f s') :
      LifecycleEnd inp s s'
  | stopped {s' : Session} {res : WorkspaceStopResult} (hjt : s.job.jobType = .stop)
      (hres : inp.orch.stopWorkspaceRuntime = .returned res) (hsucc : res.success = true)
      (wid : s'.wid = s.wid) (job : SameJob s.job s'.job) (hj : s'.job.status = .succeeded)
      (hs : s'.ws.status = .stopped)
      (row : s'.rt.map (·.placement) = some (stopPlacement (s.rt.map (·.placement)) res))
      (debt : SameDebt s s') : LifecycleEnd inp s s'
  | updateStopped {s' : Session} {res : WorkspaceUpdateResult} (hjt : s.job.jobType = .update)
      (hres : inp.orch.updateWorkspaceRuntime = .returned res) (hnoop : res.noOp = true)
      (wid : s'.wid = s.wid) (job : SameJob s.job s'.job) (hj : s'.job.status = .succeeded)
      (hs : s'.ws.status = .stopped)
      (row : s'.rt.map (·.placement) = some (res.nodeId, parseTopologyId res.topologyId))
      (debt : SameDebt s s') : LifecycleEnd inp s s'
  | deleted {s' : Session} (hjt : s.job.jobType = .delete)
      (wid : s'.wid = s.wid) (job : SameJob s.job s'.job) (hj : s'.job.status = .succeeded)
      (hs : s'.ws.status = .deleted) (row : s'.rt = none) (debt : SameDebt s s') :
      LifecycleEnd inp s s'

theorem Neutral.failsAfterSync {s s' : Session} (h : Neutral s s') : FailsAfterSync s s' :=
  ⟨h.wid, h.job, h.row, .inl h.sameDebt⟩

/-- The body returned as `LifecycleEnd` allows, or raised from the session as it was. Only
`CREATE` and `START` raise with a rollback to record. -/
def BodySpec (inp : WorkerInput) (s : Session) : Exit → Prop
  | .returned s' => LifecycleEnd inp s s'
  | .raised e s' => s' = s ∧
      (syncAfterException s e = s ∨ s.job.jobType = .create ∨ s.job.jobType = .start)
  | .crashed s' => s'.trace = s.trace

section Lifecycle

variable (cfg : Settings) (inp : WorkerInput)

theorem finalizeUp_spec {s : Session} {f : RuntimeFacts} (v : Int)
    (hup : SaysUp inp s.job.jobType f) :
    BodySpec inp s (finalizeRuntimeRunningSuccess cfg inp.clk inp.port s f v) := by
  rcases finalizeRuntimeRunningSuccess_cases cfg inp.clk inp.port s f v with
    ⟨e, h, hno⟩ | ⟨s', h, hup'⟩
  · rw [h]; exact ⟨rfl, .inl (syncAfterException_of_no_rollback hno s)⟩
  · rw [h]; exact .up hup hup'

theorem resolveFailure_spec (s : Session) (m : String) (retryable : Bool) :
    BodySpec inp s (.returned
      (resolveOrchestratorResultFailure cfg inp.clk s m .container retryable)) := by
  obtain ⟨hn, hf⟩ := resolveOrchestratorResultFailure_fails cfg inp.clk s m .container retryable
  exact .failed hn.failsAfterSync hf (.inl hn.sameDebt)

theorem finalizeBringupResult_spec {s : Session} {res : WorkspaceBringUpResult}
    (hres : inp.orch.bringUpWorkspaceRuntime = .returned res)
    (hjt : s.job.jobType = .create ∨ s.job.jobType = .start) :
    BodySpec inp s (finalizeBringupResult cfg inp.clk inp.port s res) := by
  unfold finalizeBringupResult
  split
  · rename_i hs
    refine finalizeUp_spec cfg inp _ ?_
    rcases hjt with hjt | hjt <;> rw [hjt]
    · exact .create hres hs
    · exact .start hres hs
  · have hsync := syncRuntimeAfterFailedBringup_syncs s res
    obtain ⟨hn, hf⟩ := resolveOrchestratorResultFailure_fails cfg inp.clk
      (syncRuntimeAfterFailedBringup s res) _ .container
      (lifecycleResultFailureRetryable (syncRuntimeAfterFailedBringup s res).job.jobType)
    exact .failed (hsync.then hn) (hsync.fails hf) (.inr hjt)

theorem executeBringUpJob_spec {s : Session}
    (hjt : s.job.jobType = .create ∨ s.job.jobType = .start) :
    BodySpec inp s (executeBringUpJob cfg inp s) := by
  unfold executeBringUpJob
  split
  · exact .failed ⟨rfl, ⟨rfl, rfl⟩, rfl, .inl ⟨rfl, rfl⟩⟩ (.inr ⟨rfl, rfl⟩) (.inr hjt)
  · split
    · exact rfl
    · exact ⟨rfl, .inr hjt⟩
    · rename_i res hres
      exact finalizeBringupResult_spec cfg inp hres hjt

theorem finalizeStopResult_spec {s : Session} {res : WorkspaceStopResult}
    (hres : inp.orch.stopWorkspaceRuntime = .returned res) (hjt : s.job.jobType = .stop) :
    LifecycleEnd inp s (finalizeStopResult cfg inp.clk s res) := by
  unfold finalizeStopResult
  split
  · rename_i hs
    exact .stopped hjt hres hs rfl ⟨rfl, rfl⟩ rfl rfl
      (congrArg some (applyRuntimeStop_placement s.rt res)) ⟨rfl, rfl⟩
  · rename_i hs
    obtain ⟨hw, hj, hws, hrt⟩ := ensureDurableCleanupTask_fields s .stopIncomplete
    obtain ⟨hn, hstray⟩ := finalizeJobFailedWorkspaceError_fails inp.clk
      (ensureDurableCleanupTask s .stopIncomplete)
      (orText (formatIssues res.issues) "Stop completed without success") .container
    exact .stopFailed hjt hres (by simpa using hs) hw (hj ▸ hn.job) hstray
      (hn.row.trans (by rw [hrt])) ((ensureDurableCleanupTask_ensures s _).congr hn.sameDebt)

theorem finalizeRestartResult_spec {s : Session} {res : WorkspaceRestartResult}
    (hres : inp.orch.restartWorkspaceRuntime = .returned res) (hjt : s.job.jobType = .restart) :
    BodySpec inp s (finalizeRestartResult cfg inp.clk inp.port s res) := by
  unfold finalizeRestartResult
  split
  · rename_i hs
    exact finalizeUp_spec cfg inp _ (hjt ▸ .restart hres hs)
  · exact resolveFailure_spec cfg inp s _ _

theorem finalizeUpdateResult_spec {s : Session} {res : WorkspaceUpdateResult}
    (hres : inp.orch.updateWorkspaceRuntime = .returned res) (hjt : s.job.jobType = .update) :
    BodySpec inp s (finalizeUpdateResult cfg inp.clk inp.port s res) := by
  unfold finalizeUpdateResult
  simp only
  split
  · rename_i hs
    exact finalizeUp_spec cfg inp _ (hjt ▸ .update hres hs)
  · split
    · rename_i hnoop
      exact .updateStopped hjt hres (Bool.and_eq_true .. ▸ hnoop).1 rfl ⟨rfl, rfl⟩ rfl rfl rfl
        ⟨rfl, rfl⟩
    · exact resolveFailure_spec cfg inp s _ _

theorem executeJobBody_lifecycle {s : Session} (hjt : s.job.jobType.isLifecycle = true) :
    BodySpec inp s (executeJobBody cfg inp s) := by
  unfold executeJobBody
  split
  · rename_i h; rw [h] at hjt; cases hjt
  · rename_i h; exact executeBringUpJob_spec cfg inp (.inl h)
  · rename_i h; exact executeBringUpJob_spec cfg inp (.inr h)
  · rename_i h
    split
    · exact rfl
    · exact ⟨rfl, .inl rfl⟩
    · rename_i res hres; exact finalizeStopResult_spec cfg inp hres h
  · rename_i h
    split
    · exact rfl
    · exact ⟨rfl, .inl rfl⟩
    · exact .deleted h rfl ⟨rfl, rfl⟩ rfl rfl rfl ⟨rfl, rfl⟩
  · rename_i h
    split
    · exact rfl
    · exact ⟨rfl, .inl rfl⟩
    · rename_i res hres; exact finalizeRestartResult_spec cfg inp hres h
  · rename_i h
    split
    · exact rfl
    · exact ⟨rfl, .inl rfl⟩
    · rename_i res hres; exact finalizeUpdateResult_spec cfg inp hres h
  all_goals rename_i h; rw [h] at hjt; cases hjt

/-- `beginCreateBringupAfterPlacement` touches the workspace alone. -/
theorem beginCreate_fields (s : Session) :
    beginCreateBringupAfterPlacement s = { s with ws := (beginCreateBringupAfterPlacement s).ws } ∧
      ((beginCreateBringupAfterPlacement s).ws.status = s.ws.status ∨
        (s.job.jobType = .create ∧ s.ws.status = .pending ∧
          (beginCreateBringupAfterPlacement s).ws.status = .creating)) := by
  unfold beginCreateBringupAfterPlacement
  split
  · rename_i h
    simp only [Bool.and_eq_true, decide_eq_true_eq] at h
    exact ⟨rfl, .inr ⟨h.1, h.2, rfl⟩⟩
  · exact ⟨rfl, .inl rfl⟩

theorem Requeued.of_begin {s s' : Session} (h : Requeued (beginCreateBringupAfterPlacement s) s') :
    Requeued s s' := by
  obtain ⟨hj, hs⟩ := h
  refine ⟨hj, ?_⟩
  rcases hs with hs | hs | hs
  · rcases (beginCreate_fields s).2 with hb | ⟨-, -, hb⟩
    · exact .inl (hs.trans hb)
    · exact .inr (.inr (hs.trans hb))
  · exact .inr (.inl hs)
  · exact .inr (.inr hs)

theorem LifecycleEnd.of_begin {s s' : Session}
    (h : LifecycleEnd inp (beginCreateBringupAfterPlacement s) s') : LifecycleEnd inp s s' := by
  have hb := (beginCreate_fields s).1
  cases h with
  | failed h hf hd =>
      rw [hb] at h hd
      exact .failed ⟨h.wid, h.job, h.row, h.debt⟩ (hf.imp_left Requeued.of_begin) hd
  | stopFailed hjt hres hsucc hw hj hs hr hd =>
      rw [hb] at hjt hw hj hr hd
      exact .stopFailed hjt hres hsucc hw hj hs hr hd
  | up hup h =>
      rw [hb] at hup h
      exact .up hup ⟨h.wid, h.job, h.jobStatus, h.status, h.row, h.tasks, h.trace⟩
  | stopped hjt hres hsucc hw hj hjs hs hr hd =>
      rw [hb] at hjt hw hj hr hd
      exact .stopped hjt hres hsucc hw hj hjs hs hr hd
  | updateStopped hjt hres hnoop hw hj hjs hs hr hd =>
      rw [hb] at hjt hw hj hd
      exact .updateStopped hjt hres hnoop hw hj hjs hs hr hd
  | deleted hjt hw hj hjs hs hr hd =>
      rw [hb] at hjt hw hj hd
      exact .deleted hjt hw hj hjs hs hr hd

theorem processClaimedRunningJob_lifecycle {s : Session} {nodeKey : Option String}
    (hjt : s.job.jobType.isLifecycle = true)
    (hc : (processClaimedRunningJob cfg inp s nodeKey).committed = true) :
    LifecycleEnd inp s (processClaimedRunningJob cfg inp s nodeKey).session := by
  have hbody := executeJobBody_lifecycle cfg inp hjt
  unfold processClaimedRunningJob at hc ⊢
  cases hex : executeJobBody cfg inp s with
  | returned s' => rw [hex] at hbody; exact hbody
  | raised e s' =>
      rw [hex] at hbody
      obtain ⟨rfl, hdebt⟩ := hbody
      have hsync := syncAfterException_syncs s' e
      obtain ⟨hn, hf, -⟩ := handleOrchestratorException_spec cfg inp s' nodeKey e
      have hsnap : s'.job.jobType.isSnapshot = false := by
        cases hty : s'.job.jobType <;>
          simp_all [WorkspaceJobType.isLifecycle, WorkspaceJobType.isSnapshot]
      refine .failed (hsync.then hn) (hsync.fails (hf hsnap)) (hdebt.imp_left fun h => ?_)
      rw [h] at hn
      exact hn.sameDebt
  | crashed s' => rw [hex] at hc; cases hc

/-- **The end of a lifecycle job**, through either entry point. -/
theorem executeClaimedJob_lifecycle {entry : EntryPoint} {s : Session}
    (hjt : s.job.jobType.isLifecycle = true)
    (hc : (executeClaimedJob cfg inp entry s).committed = true) :
    LifecycleEnd inp s (executeClaimedJob cfg inp entry s).session := by
  unfold executeClaimedJob at hc ⊢
  split
  · rename_i h
    simp only [Bool.and_eq_true, decide_eq_true_eq, Option.isNone_iff_eq_none] at h
    exact .deleted h.1.2 rfl ⟨rfl, rfl⟩ rfl rfl h.2 ⟨rfl, rfl⟩
  · rename_i h
    rw [if_neg h] at hc
    unfold placeAndProcess at hc ⊢
    split
    · rename_i e _
      obtain ⟨hn, hf⟩ := failJobFromPlacement_fails cfg inp s e
      exact .failed hn.failsAfterSync hf (.inl hn.sameDebt)
    · rename_i nodeKey _ hres
      rw [hres] at hc
      have hrepo : s.job.jobType ≠ .repoImport := by rintro h; rw [h] at hjt; cases hjt
      simp only [if_neg hrepo] at hc ⊢
      split
      · rename_i hb; rw [hb] at hc; cases hc
      · rename_i m _
        obtain ⟨hn, hf⟩ := failJobFromOrchestratorBinding_fails cfg inp s m
        exact .failed hn.failsAfterSync hf (.inl hn.sameDebt)
      · rename_i hb
        rw [hb] at hc
        refine .of_begin inp (processClaimedRunningJob_lifecycle cfg inp ?_ hc)
        rw [(beginCreate_fields s).1]
        exact hjt

/-- An exception that leaves the worker leaves the history as it was. -/
theorem executeClaimedJob_lifecycle_trace {entry : EntryPoint} {s : Session}
    (hjt : s.job.jobType.isLifecycle = true)
    (hc : (executeClaimedJob cfg inp entry s).committed = false) :
    (executeClaimedJob cfg inp entry s).session.trace = s.trace := by
  unfold executeClaimedJob at hc ⊢
  split
  · rename_i h
    rw [if_pos h] at hc
    cases hc
  · rename_i h
    rw [if_neg h] at hc
    unfold placeAndProcess at hc ⊢
    split
    · rename_i hres; rw [hres] at hc; cases hc
    · rename_i hres
      rw [hres] at hc
      have hrepo : s.job.jobType ≠ .repoImport := by rintro h; rw [h] at hjt; cases hjt
      simp only [if_neg hrepo] at hc ⊢
      split
      · rfl
      · rename_i hb; rw [hb] at hc; cases hc
      · rename_i hb
        rw [hb] at hc
        have hb := (beginCreate_fields s).1
        have hbody := executeJobBody_lifecycle cfg inp (s := beginCreateBringupAfterPlacement s)
          (by rw [hb]; exact hjt)
        simp only [processClaimedRunningJob] at hc ⊢
        split
        · rename_i hex; rw [hex] at hc; cases hc
        · rename_i hex; rw [hex] at hc; cases hc
        · rename_i hex
          rw [hex] at hbody
          exact Eq.trans hbody (by rw [hb])

theorem LifecycleEnd.ends {s s' : Session} (h : LifecycleEnd inp s s') : Ends s s' := by
  cases h with
  | failed _ hf _ => exact hf.ends
  | stopFailed _ _ _ _ _ hs => exact .inr ⟨.inr hs.1, by rw [hs.2]; rfl⟩
  | up _ h => exact .inr ⟨.inl h.jobStatus, by rw [h.status]; rfl⟩
  | stopped _ _ _ _ _ hj hs => exact .inr ⟨.inl hj, by rw [hs]; rfl⟩
  | updateStopped _ _ _ _ _ hj hs => exact .inr ⟨.inl hj, by rw [hs]; rfl⟩
  | deleted _ _ _ hj hs => exact .inr ⟨.inl hj, by rw [hs]; rfl⟩

theorem LifecycleEnd.target {s s' : Session} (h : LifecycleEnd inp s s') :
    s'.wid = s.wid ∧ SameJob s.job s'.job := by
  cases h with
  | failed h _ _ => exact ⟨h.wid, h.job⟩
  | stopFailed _ _ _ hw hj => exact ⟨hw, hj⟩
  | up _ h => exact ⟨h.wid, h.job⟩
  | stopped _ _ _ hw hj => exact ⟨hw, hj⟩
  | updateStopped _ _ _ hw hj => exact ⟨hw, hj⟩
  | deleted _ hw hj => exact ⟨hw, hj⟩

end Lifecycle

end Devnest
