import Devnest.Outcomes

/-!
# What the other job types can do

Reconcile, snapshot and import jobs share the queue with the lifecycle
jobs and are not tied to a busy status. Their executions end in one of
two ways (`Keeps`, `Strays`); this module says which, and what a
reconcile does to the runtime row and to the cleanup debt.

A reconcile first works off the debt (`Cleaned`) and then runs one
branch (`BranchEnd`).
-/

namespace Devnest

open PyText

/-! ## The other job types, before the orchestrator runs -/

/-- Retry while attempts remain, then the terminal path: both sides keep the rest. -/
def RetriesOrStrays (cfg : Settings) (s s' : Session) : Prop :=
  (attemptsRemain cfg s.job = true ∧ Keeps s s') ∨ (attemptsRemain cfg s.job = false ∧ Strays s')

section Aux

variable (cfg : Settings) (inp : WorkerInput)

theorem retryElse_retriesOrStrays {clk : Clock} {s terminal : Session} {m : String}
    {st : FailureStage} {code : String} (hn : Neutral s terminal) (hs : Strays terminal) :
    Neutral s (retryElse cfg clk s true m st code terminal) ∧
      RetriesOrStrays cfg s (retryElse cfg clk s true m st code terminal) := by
  rcases retryElse_cases cfg clk s true m st code terminal with ⟨ha, j, heq, hsame, hj⟩ | ⟨ha, heq⟩
  · rw [heq]
    exact ⟨⟨rfl, hsame, rfl, rfl, rfl⟩, .inl ⟨by simpa using ha, by simp [hj], rfl⟩⟩
  · rw [heq]
    exact ⟨hn, .inr ⟨by simpa using ha, hs⟩⟩

theorem failJobFromPlacement_aux {s : Session} {e : PlacementError}
    (he : ∀ m, e ≠ .noSchedulableNode m) :
    Neutral s (failJobFromPlacement cfg inp s e) ∧
      RetriesOrStrays cfg s (failJobFromPlacement cfg inp s e) := by
  cases e with
  | noSchedulableNode m => exact absurd rfl (he m)
  | invalidPlacementParameters m =>
      obtain ⟨hn, hs⟩ := failJobTerminal_fails inp s m .placement "placement" "PLACEMENT_FAILED"
      exact retryElse_retriesOrStrays cfg hn hs
  | authoritativePlacement m =>
      obtain ⟨hn, hs⟩ := failJobTerminal_fails inp s m .placement "placement" "PLACEMENT_FAILED"
      exact retryElse_retriesOrStrays cfg hn hs

theorem failJobFromOrchestratorBinding_aux {s : Session} (m : String)
    (hjt : nodeReadinessRetryAllowed s.job.jobType = false) :
    Neutral s (failJobFromOrchestratorBinding cfg inp s m) ∧
      RetriesOrStrays cfg s (failJobFromOrchestratorBinding cfg inp s m) := by
  obtain ⟨hn, hs⟩ := failJobTerminal_fails inp s m .network "orchestrator_binding"
    "ORCHESTRATOR_BINDING_FAILED"
  simp only [failJobFromOrchestratorBinding, hjt, Bool.false_and, Bool.false_eq_true, if_false]
  exact retryElse_retriesOrStrays cfg hn hs

/-! ## Snapshot and import bodies -/

theorem markJobSucceeded_keeps (clk : Clock) (s : Session) :
    Neutral s { s with job := markJobSucceeded clk s.job } ∧
      Keeps s { s with job := markJobSucceeded clk s.job } :=
  ⟨⟨rfl, ⟨rfl, rfl⟩, rfl, rfl, rfl⟩, by simp [Keeps, markJobSucceeded]⟩

/-- A body that keeps everything the later modules look at, and raises without a rollback. -/
def KeepsSpec (s : Session) : Exit → Prop
  | .returned s' => Neutral s s' ∧ Keeps s s'
  | .raised e s' => s' = s ∧ syncAfterException s e = s
  | .crashed s' => s' = s

theorem failJobOnly_spec (s : Session) (m : String) (st : FailureStage) (code : String) :
    KeepsSpec s (.returned (failJobOnly inp s m st code)) := failJobOnly_keeps inp s m st code

theorem failJobOnly_snapshot_spec (s : Session) (sid : Nat) (snap : WorkspaceSnapshot) (m : String)
    (st : FailureStage) (code : String) :
    KeepsSpec s (.returned (failJobOnly inp (setSnapshot s sid snap) m st code)) :=
  ⟨⟨rfl, ⟨rfl, rfl⟩, rfl, rfl, rfl⟩, by simp [Keeps, failJobOnly, markJobFailed, setSnapshot]⟩

theorem finishSnapshotCreate_spec (s : Session) (sid : Nat) (snap : WorkspaceSnapshot)
    (res : WorkspaceSnapshotOperationResult) (uploaded : Bool) :
    KeepsSpec s (.returned (finishSnapshotCreate inp s sid snap res uploaded)) := by
  unfold finishSnapshotCreate
  split
  · split
    · exact failJobOnly_snapshot_spec inp s sid _ _ _ _
    · exact ⟨⟨rfl, ⟨rfl, rfl⟩, rfl, rfl, rfl⟩, by simp [Keeps, setSnapshot, markJobSucceeded]⟩
  · exact failJobOnly_snapshot_spec inp s sid _ _ _ _

theorem executeSnapshotCreateJob_spec (s : Session) :
    KeepsSpec s (executeSnapshotCreateJob inp s) := by
  unfold executeSnapshotCreateJob
  split
  · exact failJobOnly_spec inp s _ _ _
  · split
    · exact failJobOnly_spec inp s _ _ _
    · split
      · exact failJobOnly_snapshot_spec inp s _ _ _ _ _
      · split
        · exact finishSnapshotCreate_spec inp s _ _ _ _
        · split
          · exact rfl
          · exact ⟨rfl, rfl⟩
          · exact finishSnapshotCreate_spec inp s _ _ _ _

theorem executeSnapshotRestoreJob_spec (s : Session) :
    KeepsSpec s (executeSnapshotRestoreJob inp s) := by
  unfold executeSnapshotRestoreJob
  split
  · exact failJobOnly_spec inp s _ _ _
  · split
    · exact failJobOnly_spec inp s _ _ _
    · simp only
      split
      · exact failJobOnly_spec inp s _ _ _
      · split
        · exact failJobOnly_snapshot_spec inp s _ _ _ _ _
        · split
          · exact failJobOnly_snapshot_spec inp s _ _ _ _ _
          · split
            · exact rfl
            · exact ⟨rfl, rfl⟩
            · split
              · exact ⟨⟨rfl, ⟨rfl, rfl⟩, rfl, rfl, rfl⟩, by simp [Keeps, setSnapshot, markJobSucceeded]⟩
              · exact failJobOnly_snapshot_spec inp s _ _ _ _ _

theorem executeRepoImportJob_spec (s : Session) : KeepsSpec s (executeRepoImportJob inp s) := by
  unfold executeRepoImportJob
  split
  · exact markJobSucceeded_keeps inp.clk s
  · exact rfl

/-! ## The exception handler -/

/-- Without the wait for a node, the handler keeps the status or strays. -/
theorem handleOrchestratorException_aux {s : Session} (nodeKey : Option String)
    {e : OrchestratorException} (hsync : syncAfterException s e = s)
    (hjt : nodeReadinessRetryAllowed s.job.jobType = false) :
    Neutral s (handleOrchestratorException cfg inp s nodeKey e) ∧
      (Keeps s (handleOrchestratorException cfg inp s nodeKey e) ∨
        Strays (handleOrchestratorException cfg inp s nodeKey e)) := by
  obtain ⟨hn, hf, hk⟩ := handleOrchestratorException_spec cfg inp s nodeKey e
  rw [hsync] at hn hf hk
  refine ⟨hn, ?_⟩
  cases hsnap : s.job.jobType.isSnapshot with
  | true => exact .inl (hk hsnap)
  | false =>
      unfold handleOrchestratorException
      simp only [hsync, hjt, Bool.false_and, Bool.false_eq_true, if_false]
      refine retryElse_elim (P := fun s' => Keeps s s' ∨ Strays s') cfg inp.clk ?_ ?_
      · exact fun j _ hj => .inl ⟨by simp [hj], rfl⟩
      · rw [hsnap]
        exact .inr (failJobTerminal_fails inp s _ _ _ _).2

end Aux

/-! ## Failing a reconcile -/

section Reconcile

variable (cfg : Settings) (clk : Clock) (inp : ReconcileInput)

/-- The statuses whose workspaces `_fail_reconcile` leaves alone. -/
def WorkspaceStatus.isSettled (st : WorkspaceStatus) : Bool :=
  st = .stopped || st = .error || st = .deleted

/-- `failReconcile` with its session named, so that `retryElse_elim` applies. -/
theorem failReconcile_eq (s : Session) (m : String) :
    failReconcile cfg clk s m =
      retryElse cfg clk s (classifyReconcileFailure m).2 m (classifyReconcileFailure m).1
        (classifyReconcileFailure m).1.value
        (if s.ws.status.isSettled then
          { s with job := markJobFailed clk s.job m (some (classifyReconcileFailure m).1)
                    (some (classifyReconcileFailure m).1.value) }
        else finalizeJobFailedWorkspaceError clk s m (classifyReconcileFailure m).1) := rfl

theorem failReconcile_spec (s : Session) (m : String) :
    Neutral s (failReconcile cfg clk s m) ∧
      (Keeps s (failReconcile cfg clk s m) ∨ Strays (failReconcile cfg clk s m)) := by
  rw [failReconcile_eq]
  refine retryElse_elim (P := fun s' => Neutral s s' ∧ (Keeps s s' ∨ Strays s')) cfg clk ?_ ?_
  · exact fun j hsame hj => ⟨⟨rfl, hsame, rfl, rfl, rfl⟩, .inl ⟨by simp [hj], rfl⟩⟩
  · split
    · exact ⟨⟨rfl, ⟨rfl, rfl⟩, rfl, rfl, rfl⟩, .inl ⟨by simp [markJobFailed], rfl⟩⟩
    · exact (finalizeJobFailedWorkspaceError_fails clk s m _).imp_right .inr

theorem failReconcile_not_succeeded (s : Session) (m : String) :
    (failReconcile cfg clk s m).job.status ≠ .succeeded := by
  rw [failReconcile_eq]
  refine retryElse_elim (P := fun s => s.job.status ≠ .succeeded) cfg clk ?_ ?_
  · intro j _ hj
    rw [hj]
    exact nofun
  · split
    · exact nofun
    · exact nofun

/-- On a settled workspace a failed reconcile fails the job alone. -/
theorem failReconcile_settled {s : Session} (hs : s.ws.status.isSettled = true) (m : String) :
    Keeps s (failReconcile cfg clk s m) := by
  rw [failReconcile_eq, hs]
  refine retryElse_elim (P := Keeps s) cfg clk ?_ ?_
  · exact fun j _ hj => ⟨by simp [hj], rfl⟩
  · rw [if_pos rfl]
    exact ⟨by simp [markJobFailed], rfl⟩

theorem not_isSettled_of_isBusy {st : WorkspaceStatus} (h : st.isBusy = true) :
    st.isSettled = false := by
  cases st <;> first | rfl | cases h

theorem classifyReconcileFailure_busy (st : WorkspaceStatus) :
    classifyReconcileFailure ("reconcile:workspace_busy (status=" ++ st.value ++ ")") =
      (.unknown, false) := by
  -- on character lists, where the kernel has no text to decode
  have hin : ∀ p, isIn p (lower (strip ("reconcile:workspace_busy (status=" ++ st.value ++ ")"))) =
      decide (p.toList <:+: lowerChars (stripChars ("reconcile:workspace_busy (status=".toList ++
        st.value.toList ++ ")".toList))) := by
    intro p
    rw [isIn_lower_strip, String.toList_append, String.toList_append]
  simp only [classifyReconcileFailure, hin]
  cases st <;> decide +kernel

/-- The message of a busy workspace is never retried, so the status is lost. -/
theorem failReconcile_busy {s : Session} (hb : s.ws.status.isBusy = true) :
    Strays (failReconcile cfg clk s
      ("reconcile:workspace_busy (status=" ++ s.ws.status.value ++ ")")) := by
  rw [failReconcile_eq, classifyReconcileFailure_busy, not_isSettled_of_isBusy hb]
  simp only [retryElse, Bool.false_eq_true, if_false]
  exact (finalizeJobFailedWorkspaceError_fails clk s _ _).2

/-- A contended lock is retried while attempts remain. -/
theorem failReconcile_contended {s : Session} (hs : s.ws.status.isSettled = false) :
    RetriesOrStrays cfg s (failReconcile cfg clk s "reconcile:advisory_lock_contended") := by
  have hclass : classifyReconcileFailure "reconcile:advisory_lock_contended" = (.placement, true) := by
    decide +kernel
  rw [failReconcile_eq, hclass, hs]
  simp only [Bool.false_eq_true, if_false]
  obtain ⟨hn, hstray⟩ := finalizeJobFailedWorkspaceError_fails clk s
    "reconcile:advisory_lock_contended" .placement
  exact (retryElse_retriesOrStrays cfg hn hstray).2

/-! ## The branches of a reconcile -/

/-- The debt has been worked off; nothing else moved. -/
structure Cleaned (s t : Session) : Prop where
  wid : t.wid = s.wid
  ws : t.ws = s.ws
  job : t.job = s.job
  effect : CleanupEffect s.wid s.ws.status ⟨s.rt, s.tasks, s.trace⟩ ⟨t.rt, t.tasks, t.trace⟩

theorem Cleaned.refl (s : Session) : Cleaned s s := ⟨rfl, rfl, rfl, .refl _ _ _⟩

/-- The runtime row after a reconcile: as before, stopped once more, or rewritten from a
health check. -/
inductive RowAfter (inp : ReconcileInput) (s s' : Session) : Prop
  | same (h : s'.rt.map (·.placement) = s.rt.map (·.placement))
  | stopped {res : WorkspaceStopResult} (hres : inp.orch.stopWorkspaceRuntime = .returned res)
      (hsucc : res.success = true) (hst : s.ws.status = .stopped ∨ s.ws.status = .error)
      (h : s'.rt.map (·.placement) = some (stopPlacement (s.rt.map (·.placement)) res))
  | healthy {res : WorkspaceBringUpResult}
      (hres : inp.orch.checkWorkspaceRuntimeHealth = .returned res) (hsucc : res.success = true)
      (hst : s.ws.status = .running)
      (h : s'.rt.map (·.placement) = some (res.nodeId, parseTopologyId res.topologyId))

/-- The end of a branch. -/
structure BranchEnd (inp : ReconcileInput) (s s' : Session) : Prop where
  wid : s'.wid = s.wid
  job : SameJob s.job s'.job
  status : Keeps s s' ∨ Strays s'
  row : RowAfter inp s s'
  debt : SameDebt s s' ∨ (Strays s' ∧ Ensures .stopIncomplete s s')

/-- A branch raises only before it has written anything, and without a rollback. -/
def BranchSpec (inp : ReconcileInput) (s : Session) : Exit → Prop
  | .returned s' => BranchEnd inp s s'
  | .raised e s' => s' = s ∧ syncAfterException s e = s
  | .crashed s' => s'.trace = s.trace

theorem Neutral.branchEnd {s s' : Session} (h : Neutral s s') (hst : Keeps s s' ∨ Strays s') :
    BranchEnd inp s s' := ⟨h.wid, h.job, hst, .same h.row, .inl h.sameDebt⟩

theorem failReconcile_branch (s : Session) (m : String) :
    BranchEnd inp s (failReconcile cfg clk s m) := by
  obtain ⟨hn, hst⟩ := failReconcile_spec cfg clk s m
  exact hn.branchEnd inp hst

/-- What the route-admin part of a branch does. -/
def RouteSpec (s : Session) : Exit → Prop
  | .returned s' => Neutral s s' ∧ (Keeps s s' ∨ Strays s') ∧
      (s.ws.status.isSettled = true → Keeps s s')
  | .raised _ _ => False
  | .crashed s' => s'.trace = s.trace

theorem failReconcile_route (s : Session) (m : String) :
    RouteSpec s (.returned (failReconcile cfg clk s m)) := by
  obtain ⟨hn, hst⟩ := failReconcile_spec cfg clk s m
  exact ⟨hn, hst, fun hs => failReconcile_settled cfg clk hs m⟩

theorem succeed_route (s : Session) :
    RouteSpec s (.returned { s with job := markJobSucceeded clk s.job }) := by
  obtain ⟨hn, hk⟩ := markJobSucceeded_keeps clk s
  exact ⟨hn, .inl hk, fun _ => hk⟩

theorem reconcileOrphanRoute_spec (s : Session) :
    RouteSpec s (reconcileOrphanRoute cfg clk inp s) := by
  unfold reconcileOrphanRoute
  split
  · exact succeed_route clk s
  · split
    · exact rfl
    · exact failReconcile_route cfg clk s _
    · split
      · exact succeed_route clk s
      · split
        · exact rfl
        · exact failReconcile_route cfg clk s _
        · exact succeed_route clk s

theorem reconcileRunningRoute_spec (s : Session) (rt : WorkspaceRuntime) :
    RouteSpec s (reconcileRunningRoute cfg clk inp s rt) := by
  unfold reconcileRunningRoute
  simp only
  split
  · exact succeed_route clk s
  · split
    · exact rfl
    · exact failReconcile_route cfg clk s _
    · generalize gatewayRouteNeedsRepair _ _ _ _ = needsRepair
      cases needsRepair with
      | true =>
          rw [if_pos rfl]
          split
          · exact rfl
          · exact failReconcile_route cfg clk s _
          · exact succeed_route clk s
      | false => exact succeed_route clk s

/-- The route part, run on a session whose runtime row was rewritten first. -/
theorem RouteSpec.branch {s t : Session} {ex : Exit} (h : RouteSpec t ex) (hw : t.wid = s.wid)
    (hws : t.ws.status = s.ws.status) (hj : t.job = s.job) (hd : SameDebt s t)
    (hrow : ∀ s', s'.rt.map (·.placement) = t.rt.map (·.placement) → RowAfter inp s s') :
    BranchSpec inp s ex := by
  cases ex with
  | returned s' =>
      obtain ⟨hn, hst, -⟩ := h
      exact ⟨hn.wid.trans hw, hj ▸ hn.job, hst.imp_left fun hk => ⟨hk.1, hk.2.trans hws⟩,
        hrow s' hn.row, .inl ⟨hn.tasks.trans hd.1, hn.trace.trans hd.2⟩⟩
  | raised e s' => exact h.elim
  | crashed s' => exact Eq.trans h hd.2

theorem reconcileErrorCleanup_spec {s : Session} (hst : s.ws.status = .error) :
    BranchSpec inp s (reconcileErrorCleanup cfg clk inp s) := by
  unfold reconcileErrorCleanup
  split
  · exact rfl
  · exact failReconcile_branch cfg clk inp s _
  · rename_i res hres
    split
    · rename_i hsucc
      refine (reconcileOrphanRoute_spec cfg clk inp _).branch inp rfl rfl rfl ⟨rfl, rfl⟩ fun s' hs' => ?_
      refine .stopped hres hsucc (.inr hst) (hs'.trans ?_)
      exact congrArg some (applyRuntimeStop_placement s.rt res)
    · exact (reconcileOrphanRoute_spec cfg clk inp s).branch inp rfl rfl rfl ⟨rfl, rfl⟩ fun _ => .same

theorem reconcileStopped_spec {s : Session} (hst : s.ws.status = .stopped) :
    BranchSpec inp s (reconcileStopped cfg clk inp s) := by
  unfold reconcileStopped
  split
  · exact rfl
  · exact failReconcile_branch cfg clk inp s _
  · split
    · split
      · exact rfl
      · exact failReconcile_branch cfg clk inp s _
      · rename_i res hres
        cases hsucc : res.success with
        | true =>
            simp only [finalizeStopResult, hsucc, if_true]
            split
            · exact rfl
            · exact ⟨rfl, ⟨rfl, rfl⟩, .inl ⟨by simp [markJobSucceeded], hst.symm⟩,
                .stopped hres hsucc (.inl hst)
                  (congrArg some (applyRuntimeStop_placement s.rt res)), .inl ⟨rfl, rfl⟩⟩
        | false =>
            obtain ⟨hw, hj, -, hrt⟩ := ensureDurableCleanupTask_fields s .stopIncomplete
            obtain ⟨hn, hstray⟩ := finalizeJobFailedWorkspaceError_fails clk
              (ensureDurableCleanupTask s .stopIncomplete)
              (orText (formatIssues res.issues) "Stop completed without success") .container
            have hfin : finalizeStopResult cfg clk s res =
                finalizeJobFailedWorkspaceError clk (ensureDurableCleanupTask s .stopIncomplete)
                  (orText (formatIssues res.issues) "Stop completed without success") .container := by
              simp [finalizeStopResult, hsucc, resolveOrchestratorResultFailure, retryElse]
            simp only [hfin, hstray.1]
            exact ⟨hn.wid.trans hw, hj ▸ hn.job, .inr hstray, .same (hn.row.trans (by rw [hrt])),
              .inr ⟨hstray, (ensureDurableCleanupTask_ensures s _).congr hn.sameDebt⟩⟩
    · exact (reconcileOrphanRoute_spec cfg clk inp s).branch inp rfl rfl rfl ⟨rfl, rfl⟩ fun _ => .same

theorem reconcileRunning_spec {s : Session} (hst : s.ws.status = .running) :
    BranchSpec inp s (reconcileRunning cfg clk inp s) := by
  unfold reconcileRunning
  split
  · exact rfl
  · exact failReconcile_branch cfg clk inp s _
  · rename_i health hres
    split
    · exact failReconcile_branch cfg clk inp s _
    · rename_i hsucc
      split
      · rename_i e he
        exact ⟨rfl, syncAfterException_of_no_rollback
          (remoteGatewayRouteTargetForNode_no_rollback he) s⟩
      · rename_i target htarget
        refine (reconcileRunningRoute_spec cfg clk inp _ _).branch inp rfl rfl rfl ⟨rfl, rfl⟩
          fun s' hs' => ?_
        refine .healthy hres (by simpa using hsucc) hst (hs'.trans ?_)
        exact congrArg some (applyRuntimeBringupLike_placement cfg s.rt _ _ _)

/-! ## The whole reconcile -/

@[simp] theorem repairRuntimeCapacityLedger_placement (st : WorkspaceStatus)
    (rt : Option WorkspaceRuntime) :
    (repairRuntimeCapacityLedger st rt).map (·.placement) = rt.map (·.placement) := by
  cases rt with
  | none => rfl
  | some r =>
      simp only [repairRuntimeCapacityLedger, Option.map_some, Option.some.injEq]
      split
      · split <;> rfl
      · split <;> rfl

/-- The session after the cleanup pass and the ledger repair. -/
def cleanupPass (s : Session) : Session :=
  let c := processDurableCleanupTasksForWorkspace s.wid s.ws.status inp.orch.cleanupStop
    ⟨s.rt, s.tasks, s.trace⟩
  { s with rt := repairRuntimeCapacityLedger s.ws.status c.rt, tasks := c.tasks, trace := c.trace }

theorem cleanupPass_cleaned (s : Session) : Cleaned s (cleanupPass inp s) := by
  have heff := processDurableCleanupTasksForWorkspace_effect s.wid s.ws.status inp.orch.cleanupStop
    ⟨s.rt, s.tasks, s.trace⟩
  exact ⟨rfl, rfl, rfl,
    (repairRuntimeCapacityLedger_placement _ _).trans heff.placement, heff.pending, heff.calls⟩

def ReconcileSpec (s : Session) : Exit → Prop
  | .returned s' => ∃ t, Cleaned s t ∧ BranchEnd inp t s'
  | .raised e s' => Cleaned s s' ∧ syncAfterException s' e = s'
  | .crashed s' => ∃ t, Cleaned s t ∧ s'.trace = t.trace

theorem BranchSpec.reconcile {s t : Session} {ex : Exit} (hc : Cleaned s t)
    (h : BranchSpec inp t ex) : ReconcileSpec inp s ex := by
  cases ex with
  | returned s' => exact ⟨t, hc, h⟩
  | raised e s' =>
      obtain ⟨rfl, hsync⟩ := h
      exact ⟨hc, hsync⟩
  | crashed s' => exact ⟨t, hc, h⟩

/-- `executeReconcileRuntimeJob` by what it meets. -/
theorem executeReconcileRuntimeJob_eq (s : Session) :
    executeReconcileRuntimeJob cfg clk inp s =
      if !inp.lockAcquired then
        .returned (failReconcile cfg clk s "reconcile:advisory_lock_contended")
      else if s.ws.status.isBusy then
        .returned (failReconcile cfg clk (cleanupPass inp s)
          ("reconcile:workspace_busy (status=" ++ s.ws.status.value ++ ")"))
      else match s.ws.status with
        | .deleted => reconcileDeleted cfg clk inp (cleanupPass inp s)
        | .error => reconcileErrorCleanup cfg clk inp (cleanupPass inp s)
        | .stopped => reconcileStopped cfg clk inp (cleanupPass inp s)
        | _ => reconcileRunning cfg clk inp (cleanupPass inp s) := rfl

theorem executeReconcileRuntimeJob_spec (s : Session) :
    ReconcileSpec inp s (executeReconcileRuntimeJob cfg clk inp s) := by
  have hc := cleanupPass_cleaned inp s
  have hst : (cleanupPass inp s).ws.status = s.ws.status := by rw [hc.ws]
  rw [executeReconcileRuntimeJob_eq]
  split
  · exact ⟨s, .refl s, failReconcile_branch cfg clk inp s _⟩
  · split
    · exact ⟨_, hc, failReconcile_branch cfg clk inp _ _⟩
    · rename_i hbusy
      refine BranchSpec.reconcile inp hc ?_
      split
      · exact (reconcileOrphanRoute_spec cfg clk inp _).branch inp rfl rfl rfl ⟨rfl, rfl⟩
          fun _ => .same
      · rename_i h; exact reconcileErrorCleanup_spec cfg clk inp (hst.trans h)
      · rename_i h; exact reconcileStopped_spec cfg clk inp (hst.trans h)
      · rename_i h₁ h₂ h₃
        refine reconcileRunning_spec cfg clk inp (hst.trans ?_)
        cases hs : s.ws.status <;> simp_all [WorkspaceStatus.isBusy]

end Reconcile

/-! ## One execution of another job type -/

/-- How a job of another type can end. -/
inductive AuxEnd (inp : WorkerInput) (s s' : Session) : Prop
  | neutral (h : Neutral s s') (hst : Keeps s s' ∨ Strays s')
  | reconciled {t : Session} (hjt : s.job.jobType = .reconcileRuntime) (hc : Cleaned s t)
      (h : BranchEnd inp.reconcile t s')

theorem AuxEnd.target {inp : WorkerInput} {s s' : Session} (h : AuxEnd inp s s') :
    s'.wid = s.wid ∧ SameJob s.job s'.job := by
  cases h with
  | neutral h _ => exact ⟨h.wid, h.job⟩
  | reconciled _ hc h => exact ⟨h.wid.trans hc.wid, hc.job ▸ h.job⟩

theorem AuxEnd.status {inp : WorkerInput} {s s' : Session} (h : AuxEnd inp s s') :
    Keeps s s' ∨ Strays s' := by
  cases h with
  | neutral _ hst => exact hst
  | reconciled _ hc h => exact h.status.imp_left fun hk => ⟨hk.1, by rw [hk.2, hc.ws]⟩

section Executions

variable (cfg : Settings) (inp : WorkerInput)

theorem RetriesOrStrays.status {s s' : Session} (h : RetriesOrStrays cfg s s') :
    Keeps s s' ∨ Strays s' := h.imp And.right And.right

theorem nodeReadinessRetryAllowed_aux {jt : WorkspaceJobType} (h : jt.isLifecycle = false) :
    nodeReadinessRetryAllowed jt = false := by
  cases jt <;> first | rfl | cases h

/-- A body of another type, as the execution sees it. -/
def AuxSpec (s : Session) : Exit → Prop
  | .returned s' => AuxEnd inp s s'
  | .raised e s' => (s' = s ∨ (s.job.jobType = .reconcileRuntime ∧ Cleaned s s')) ∧
      syncAfterException s' e = s'
  | .crashed s' => ∃ t, Cleaned s t ∧ s'.trace = t.trace

theorem KeepsSpec.aux {s : Session} {ex : Exit} (h : KeepsSpec s ex) : AuxSpec inp s ex := by
  cases ex with
  | returned s' => exact .neutral h.1 (.inl h.2)
  | raised e s' =>
      obtain ⟨rfl, hsync⟩ := h
      exact ⟨.inl rfl, hsync⟩
  | crashed s' =>
      obtain rfl := h
      exact ⟨s', .refl s', rfl⟩

theorem ReconcileSpec.aux {s : Session} {ex : Exit} (hjt : s.job.jobType = .reconcileRuntime)
    (h : ReconcileSpec inp.reconcile s ex) : AuxSpec inp s ex := by
  cases ex with
  | returned s' =>
      obtain ⟨t, hc, hend⟩ := h
      exact .reconciled hjt hc hend
  | raised e s' => exact ⟨.inr ⟨hjt, h.1⟩, h.2⟩
  | crashed s' => exact h

theorem executeJobBody_aux {s : Session} (hjt : s.job.jobType.isLifecycle = false) :
    AuxSpec inp s (executeJobBody cfg inp s) := by
  unfold executeJobBody
  cases h : s.job.jobType with
  | repoImport => exact (executeRepoImportJob_spec inp s).aux inp
  | reconcileRuntime =>
      exact (executeReconcileRuntimeJob_spec cfg inp.clk inp.reconcile s).aux inp h
  | snapshotCreate => exact (executeSnapshotCreateJob_spec inp s).aux inp
  | snapshotRestore => exact (executeSnapshotRestoreJob_spec inp s).aux inp
  | _ => rw [h] at hjt; cases hjt

/-- An execution is either committed at an end of its kind or leaves only its calls. -/
def ExecutionSpec (End : Session → Session → Prop) (s : Session) (ex : Execution) : Prop :=
  (ex.committed = true → End s ex.session) ∧
    (ex.committed = false → ∃ t, Cleaned s t ∧ ex.session.trace = t.trace)

theorem processClaimedRunningJob_aux {s : Session} (nodeKey : Option String)
    (hjt : s.job.jobType.isLifecycle = false) :
    ExecutionSpec (AuxEnd inp) s (processClaimedRunningJob cfg inp s nodeKey) := by
  have hbody := executeJobBody_aux cfg inp hjt
  unfold processClaimedRunningJob
  cases hex : executeJobBody cfg inp s with
  | returned s' => rw [hex] at hbody; exact ⟨fun _ => hbody, by simp⟩
  | raised e s' =>
      rw [hex] at hbody
      obtain ⟨hs, hsync⟩ := hbody
      refine ⟨fun _ => ?_, by simp⟩
      rcases hs with rfl | ⟨hrec, hc⟩
      · obtain ⟨hn, hst⟩ := handleOrchestratorException_aux cfg inp nodeKey hsync
          (nodeReadinessRetryAllowed_aux hjt)
        exact .neutral hn hst
      · obtain ⟨hn, hst⟩ := handleOrchestratorException_aux cfg inp nodeKey hsync
          (by rw [hc.job]; exact nodeReadinessRetryAllowed_aux hjt)
        exact .reconciled hrec hc (hn.branchEnd inp.reconcile hst)
  | crashed s' => rw [hex] at hbody; exact ⟨by simp, fun _ => hbody⟩

theorem beginCreate_of_aux {s : Session} (hjt : s.job.jobType.isLifecycle = false) :
    beginCreateBringupAfterPlacement s = s := by
  have hne : s.job.jobType ≠ .create := by rintro h; rw [h] at hjt; cases hjt
  simp [beginCreateBringupAfterPlacement, hne]

/-- The entry points differ for a `DELETE` alone. -/
theorem executeClaimedJob_eq {s : Session} (entry : EntryPoint) (hdel : s.job.jobType ≠ .delete) :
    executeClaimedJob cfg inp entry s = placeAndProcess cfg inp s := by
  simp [executeClaimedJob, hdel]

/-- **The end of a job of another type**, through either entry point. -/
theorem executeClaimedJob_aux {s : Session} (entry : EntryPoint)
    (hjt : s.job.jobType.isLifecycle = false) :
    ExecutionSpec (AuxEnd inp) s (executeClaimedJob cfg inp entry s) := by
  have hdel : s.job.jobType ≠ .delete := by rintro h; rw [h] at hjt; cases hjt
  have hcre : s.job.jobType ≠ .create := by rintro h; rw [h] at hjt; cases hjt
  have hsta : s.job.jobType ≠ .start := by rintro h; rw [h] at hjt; cases hjt
  rw [executeClaimedJob_eq cfg inp entry hdel]
  unfold placeAndProcess
  split
  · rename_i e he
    obtain ⟨hn, hst⟩ := failJobFromPlacement_aux cfg inp (e := e) (s := s)
      fun m hm => resolve_noCapacity cfg inp.placement hcre hsta m (hm ▸ he)
    exact ⟨fun _ => .neutral hn (hst.status cfg), by simp⟩
  · split
    · exact processClaimedRunningJob_aux cfg inp none hjt
    · split
      · exact ⟨by simp, fun _ => ⟨s, .refl s, rfl⟩⟩
      · rename_i m _
        obtain ⟨hn, hst⟩ := failJobFromOrchestratorBinding_aux cfg inp (s := s) m
          (nodeReadinessRetryAllowed_aux hjt)
        exact ⟨fun _ => .neutral hn (hst.status cfg), by simp⟩
      · rw [beginCreate_of_aux hjt]
        exact processClaimedRunningJob_aux cfg inp _ hjt

/-! ## Statuses that survive an execution -/

/-- A committed execution leaves a status that passes the test `G`. -/
def Stays (G : WorkspaceStatus → Bool) (ex : Execution) : Prop :=
  ex.committed = true → G ex.session.ws.status = true

/-- Another attempt remains after a failure of placement or binding; once the orchestrator
is there, `reached` holds. -/
def EarlyFailuresRetry (s : Session) (reached : Prop) : Prop :=
  match resolveOrchestratorPlacement cfg inp.placement s with
  | .error _ => attemptsRemain cfg s.job = true
  | .ok _ =>
      if s.job.jobType = .repoImport then True
      else match inp.binding with
        | .crashed => True
        | .failed _ => attemptsRemain cfg s.job = true
        | .bound => reached

variable {G : WorkspaceStatus → Bool}

theorem RetriesOrStrays.stays_iff {s s' : Session} (h : RetriesOrStrays cfg s s')
    (hG : G s.ws.status = true) (herr : G .error = false) :
    G s'.ws.status = true ↔ attemptsRemain cfg s.job = true := by
  rcases h with ⟨ha, hk⟩ | ⟨ha, hs⟩
  · simp [ha, hk.2, hG]
  · simp [ha, hs.2, herr]

/-- What keeps the status in the body keeps it in the execution, when nothing is raised or
the job is a snapshot job. -/
theorem KeepsSpec.stays {s : Session} (h : KeepsSpec s (executeJobBody cfg inp s))
    (hsnap : s.job.jobType.isSnapshot = true ∨ ∀ e s', executeJobBody cfg inp s ≠ .raised e s')
    (hG : G s.ws.status = true) (nodeKey : Option String) :
    Stays G (processClaimedRunningJob cfg inp s nodeKey) := by
  unfold processClaimedRunningJob
  cases hex : executeJobBody cfg inp s with
  | returned s' => rw [hex] at h; exact fun _ => by rw [h.2.2]; exact hG
  | raised e s' =>
      rcases hsnap with hsnap | hne
      · rw [hex] at h
        obtain ⟨rfl, hsync⟩ := h
        obtain ⟨-, -, hk⟩ := handleOrchestratorException_spec cfg inp s' nodeKey e
        rw [hsync] at hk
        exact fun _ => by rw [(hk hsnap).2]; exact hG
      · exact absurd hex (hne e s')
  | crashed s' => exact fun h => by cases h

theorem executeRepoImportJob_not_raised (s : Session) (e : OrchestratorException) (s' : Session) :
    executeRepoImportJob inp s ≠ .raised e s' := by
  unfold executeRepoImportJob
  split <;> simp

/-- Snapshot and import jobs keep the status they meet. -/
theorem processClaimedRunningJob_stays {s : Session} (hjt : s.job.jobType.isLifecycle = false)
    (hrec : s.job.jobType ≠ .reconcileRuntime) (hG : G s.ws.status = true)
    (nodeKey : Option String) : Stays G (processClaimedRunningJob cfg inp s nodeKey) := by
  cases h : s.job.jobType with
  | reconcileRuntime => exact absurd h hrec
  | snapshotCreate =>
      have hspec : KeepsSpec s (executeJobBody cfg inp s) := by
        simpa only [executeJobBody, h] using executeSnapshotCreateJob_spec inp s
      exact hspec.stays cfg inp (.inl (by rw [h]; rfl)) hG nodeKey
  | snapshotRestore =>
      have hspec : KeepsSpec s (executeJobBody cfg inp s) := by
        simpa only [executeJobBody, h] using executeSnapshotRestoreJob_spec inp s
      exact hspec.stays cfg inp (.inl (by rw [h]; rfl)) hG nodeKey
  | repoImport =>
      have hbody : executeJobBody cfg inp s = executeRepoImportJob inp s := by
        simp only [executeJobBody, h]
      have hspec : KeepsSpec s (executeJobBody cfg inp s) :=
        hbody ▸ executeRepoImportJob_spec inp s
      exact hspec.stays cfg inp
        (.inr fun e s' => hbody ▸ executeRepoImportJob_not_raised inp s e s') hG nodeKey
  | _ => rw [h] at hjt; cases hjt

/-- A reconcile that runs on a busy workspace stays out of the way only when another one
holds the lock, and only while it may come back. -/
theorem reconcile_stays_iff {s : Session} (hjt : s.job.jobType = .reconcileRuntime) (hb : s.ws.status.isBusy = true)
    (hG : G s.ws.status = true) (herr : G .error = false) (nodeKey : Option String) :
    Stays G (processClaimedRunningJob cfg inp s nodeKey) ↔
      inp.lockAcquired = false ∧ attemptsRemain cfg s.job = true := by
  have hbody : executeJobBody cfg inp s =
      executeReconcileRuntimeJob cfg inp.clk inp.reconcile s := by
    simp only [executeJobBody, hjt]
  unfold processClaimedRunningJob
  rw [hbody, executeReconcileRuntimeJob_eq]
  cases hlock : inp.lockAcquired with
  | false =>
      have hst := failReconcile_contended cfg inp.clk (not_isSettled_of_isBusy hb)
      simpa [Stays, WorkerInput.reconcile, hlock] using hst.stays_iff cfg hG herr
  | true =>
      have hst := failReconcile_busy cfg inp.clk (s := cleanupPass inp.reconcile s) hb
      rw [(cleanupPass_cleaned inp.reconcile s).ws] at hst
      simp [Stays, WorkerInput.reconcile, hlock, hb] at hst ⊢
      rw [hst.2]
      exact herr

/-- **The way to the orchestrator**: a status that `ERROR` would spoil survives exactly when
early failures are retried and the orchestrator's part, once reached, spares it. -/
theorem placeAndProcess_stays_iff {s : Session} {reached : Prop} (hcre : s.job.jobType ≠ .create)
    (hsta : s.job.jobType ≠ .start) (hnode : nodeReadinessRetryAllowed s.job.jobType = false)
    (hG : G s.ws.status = true) (herr : G .error = false)
    (hproc : s.job.jobType ≠ .repoImport →
      ∀ nodeKey, Stays G (processClaimedRunningJob cfg inp s nodeKey) ↔ reached) :
    Stays G (placeAndProcess cfg inp s) ↔ EarlyFailuresRetry cfg inp s reached := by
  unfold placeAndProcess EarlyFailuresRetry
  cases he : resolveOrchestratorPlacement cfg inp.placement s with
  | error e =>
      obtain ⟨-, hst⟩ := failJobFromPlacement_aux cfg inp (e := e) (s := s)
        fun m hm => resolve_noCapacity cfg inp.placement hcre hsta m (hm ▸ he)
      simpa [Stays] using hst.stays_iff cfg hG herr
  | ok p =>
      by_cases hrepo : s.job.jobType = .repoImport
      · have hjt : s.job.jobType.isLifecycle = false := by rw [hrepo]; rfl
        have hrec : s.job.jobType ≠ .reconcileRuntime := by rw [hrepo]; simp
        simpa [hrepo] using processClaimedRunningJob_stays cfg inp hjt hrec hG none
      · have hbegin : beginCreateBringupAfterPlacement s = s := by
          simp [beginCreateBringupAfterPlacement, hcre]
        simp only [if_neg hrepo, hbegin]
        cases inp.binding with
        | crashed => simp [Stays]
        | failed m =>
            obtain ⟨-, hst⟩ := failJobFromOrchestratorBinding_aux cfg inp (s := s) m hnode
            simpa [Stays] using hst.stays_iff cfg hG herr
        | bound => exact hproc hrepo _

end Executions

end Devnest
