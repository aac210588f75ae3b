import Devnest.Steps

/-!
# Whose workspace it is

A job execution writes the status, the error columns, the endpoint and the
node of its workspace, and never its owner: every exit of the worker hands
on the row it was given. The per-owner sums of the quota modules rest on
this.
-/

namespace Devnest

/-- The workspace of the session belongs to `o`. -/
def Session.OwnedBy (o : Nat) (s : Session) : Prop := s.ws.ownerUserId = o

/-- So does the workspace of the session an exit leaves. -/
def Exit.OwnedBy (o : Nat) : Exit → Prop
  | .returned s | .raised _ s | .crashed s => s.OwnedBy o

section Exits

variable (cfg : Settings) (clk : Clock) (inp : WorkerInput) {o : Nat} {s : Session}

theorem retryElse_ownedBy {terminal : Session} {retryable : Bool} {m : String}
    {stage : FailureStage} {code : String} (h : s.OwnedBy o) (ht : terminal.OwnedBy o) :
    (retryElse cfg clk s retryable m stage code terminal).OwnedBy o :=
  retryElse_elim (P := Session.OwnedBy o) cfg clk (fun _ _ _ => h) ht

theorem waitElse_ownedBy {terminal : Session} {m code reason : String} (h : s.OwnedBy o)
    (ht : terminal.OwnedBy o) : (waitElse cfg clk s m code reason terminal).OwnedBy o :=
  waitElse_elim (P := Session.OwnedBy o) cfg clk (fun _ _ _ => h) ht

theorem failJobTerminal_ownedBy (h : s.OwnedBy o) (m : String) (st : FailureStage)
    (fc ec : String) : (failJobTerminal inp s m st fc ec).OwnedBy o := h

theorem resolveOrchestratorResultFailure_ownedBy (h : s.OwnedBy o) (m : String)
    (st : FailureStage) (retryable : Bool) :
    (resolveOrchestratorResultFailure cfg clk s m st retryable).OwnedBy o :=
  retryElse_ownedBy cfg clk h h

theorem failJobFromPlacement_ownedBy (h : s.OwnedBy o) (e : PlacementError) :
    (failJobFromPlacement cfg inp s e).OwnedBy o := by
  cases e with
  | noSchedulableNode m =>
      exact waitElse_ownedBy cfg inp.clk h (failJobTerminal_ownedBy inp h _ _ _ _)
  | invalidPlacementParameters m | authoritativePlacement m =>
      exact retryElse_ownedBy cfg inp.clk h (failJobTerminal_ownedBy inp h _ _ _ _)

theorem waitForNodeReadiness_ownedBy (h : s.OwnedBy o) (k : Option String)
    (reason code : String) : (waitForNodeReadiness cfg inp s k reason code).OwnedBy o := by
  have hm : (markNodeNotReadyForRetry s k reason).OwnedBy o := by
    unfold Session.OwnedBy
    rw [(markNodeNotReadyForRetry_neutral s k reason).2.1]
    exact h
  exact waitElse_ownedBy cfg inp.clk hm (failJobTerminal_ownedBy inp hm _ _ _ _)

theorem failJobFromOrchestratorBinding_ownedBy (h : s.OwnedBy o) (m : String) :
    (failJobFromOrchestratorBinding cfg inp s m).OwnedBy o := by
  unfold failJobFromOrchestratorBinding
  split
  · exact waitForNodeReadiness_ownedBy cfg inp h _ _ _
  · exact retryElse_ownedBy cfg inp.clk h (failJobTerminal_ownedBy inp h _ _ _ _)

theorem Syncs.ownedBy {s' : Session} (hs : Syncs s s') (h : s.OwnedBy o) : s'.OwnedBy o := by
  unfold Session.OwnedBy
  rw [hs.ws]
  exact h

theorem syncWorkspaceExecutionNodeId_owner (s : Session) (ws : Workspace) (nodeId : Option String) :
    (syncWorkspaceExecutionNodeId s ws nodeId).ownerUserId = ws.ownerUserId := by
  unfold syncWorkspaceExecutionNodeId
  split
  · rfl
  · split <;> rfl

theorem finalizeRuntimeRunningSuccess_ownedBy (h : s.OwnedBy o)
    (port : Option String → Option Nat) (f : RuntimeFacts) (v : Int) :
    (finalizeRuntimeRunningSuccess cfg clk port s f v).OwnedBy o := by
  unfold finalizeRuntimeRunningSuccess
  split
  · exact h
  · have hws := syncWorkspaceExecutionNodeId_owner s s.ws f.nodeId
    dsimp only [Exit.OwnedBy, Session.OwnedBy, workspaceClearErrors]
    rw [hws]
    exact h

theorem finalizeBringupResult_ownedBy (h : s.OwnedBy o) (res : WorkspaceBringUpResult) :
    (finalizeBringupResult cfg clk inp.port s res).OwnedBy o := by
  unfold finalizeBringupResult
  split
  · exact finalizeRuntimeRunningSuccess_ownedBy cfg clk h _ _ _
  · exact resolveOrchestratorResultFailure_ownedBy cfg clk
      ((syncRuntimeAfterFailedBringup_syncs s res).ownedBy h) _ _ _

theorem finalizeStopResult_ownedBy (h : s.OwnedBy o) (res : WorkspaceStopResult) :
    (finalizeStopResult cfg clk s res).OwnedBy o := by
  unfold finalizeStopResult
  split
  · exact h
  · refine resolveOrchestratorResultFailure_ownedBy cfg clk ?_ _ _ _
    unfold Session.OwnedBy
    rw [(ensureDurableCleanupTask_fields s .stopIncomplete).2.2.1]
    exact h

theorem finalizeRestartResult_ownedBy (h : s.OwnedBy o) (res : WorkspaceRestartResult) :
    (finalizeRestartResult cfg clk inp.port s res).OwnedBy o := by
  unfold finalizeRestartResult
  split
  · exact finalizeRuntimeRunningSuccess_ownedBy cfg clk h _ _ _
  · exact resolveOrchestratorResultFailure_ownedBy cfg clk h _ _ _

theorem finalizeUpdateResult_ownedBy (h : s.OwnedBy o) (res : WorkspaceUpdateResult) :
    (finalizeUpdateResult cfg clk inp.port s res).OwnedBy o := by
  unfold finalizeUpdateResult
  simp only
  split
  · exact finalizeRuntimeRunningSuccess_ownedBy cfg clk h _ _ _
  · split
    · exact h
    · exact resolveOrchestratorResultFailure_ownedBy cfg clk h _ _ _

theorem executeBringUpJob_ownedBy (h : s.OwnedBy o) : (executeBringUpJob cfg inp s).OwnedBy o := by
  unfold executeBringUpJob
  split
  · exact h
  · split
    · exact h
    · exact h
    · exact finalizeBringupResult_ownedBy cfg inp.clk inp h _

theorem finishSnapshotCreate_ownedBy (h : s.OwnedBy o) (sid : Nat)
    (snap : WorkspaceSnapshot) (res : WorkspaceSnapshotOperationResult) (uploaded : Bool) :
    (finishSnapshotCreate inp s sid snap res uploaded).OwnedBy o := by
  unfold finishSnapshotCreate
  split
  · split <;> exact h
  · exact h

theorem executeSnapshotCreateJob_ownedBy (h : s.OwnedBy o) :
    (executeSnapshotCreateJob inp s).OwnedBy o := by
  unfold executeSnapshotCreateJob
  split
  · exact h
  · split
    · exact h
    · split
      · exact h
      · split
        · exact finishSnapshotCreate_ownedBy inp h _ _ _ _
        · split
          · exact h
          · exact h
          · exact finishSnapshotCreate_ownedBy inp h _ _ _ _

theorem executeSnapshotRestoreJob_ownedBy (h : s.OwnedBy o) :
    (executeSnapshotRestoreJob inp s).OwnedBy o := by
  unfold executeSnapshotRestoreJob
  split
  · exact h
  · split
    · exact h
    · simp only
      split
      · exact h
      · split
        · exact h
        · split
          · exact h
          · split
            · exact h
            · exact h
            · split <;> exact h

theorem executeRepoImportJob_ownedBy (h : s.OwnedBy o) :
    (executeRepoImportJob inp s).OwnedBy o := by
  unfold executeRepoImportJob
  split <;> exact h

/-! ## Reconcile -/

theorem failReconcile_ownedBy (h : s.OwnedBy o) (m : String) :
    (failReconcile cfg clk s m).OwnedBy o := by
  rw [failReconcile_eq]
  refine retryElse_ownedBy cfg clk h ?_
  split <;> exact h

theorem reconcileOrphanRoute_ownedBy (rinp : ReconcileInput) (h : s.OwnedBy o) :
    (reconcileOrphanRoute cfg clk rinp s).OwnedBy o := by
  unfold reconcileOrphanRoute
  split
  · exact h
  · split
    · exact h
    · exact failReconcile_ownedBy cfg clk h _
    · split
      · exact h
      · split
        · exact h
        · exact failReconcile_ownedBy cfg clk h _
        · exact h

theorem reconcileErrorCleanup_ownedBy (rinp : ReconcileInput) (h : s.OwnedBy o) :
    (reconcileErrorCleanup cfg clk rinp s).OwnedBy o := by
  unfold reconcileErrorCleanup
  split
  · exact h
  · exact failReconcile_ownedBy cfg clk h _
  · split
    · exact reconcileOrphanRoute_ownedBy cfg clk rinp h
    · exact reconcileOrphanRoute_ownedBy cfg clk rinp h

theorem reconcileStopped_ownedBy (rinp : ReconcileInput) (h : s.OwnedBy o) :
    (reconcileStopped cfg clk rinp s).OwnedBy o := by
  unfold reconcileStopped
  split
  · exact h
  · exact failReconcile_ownedBy cfg clk h _
  · split
    · split
      · exact h
      · exact failReconcile_ownedBy cfg clk h _
      · simp only
        split <;> exact finalizeStopResult_ownedBy cfg clk h _
    · exact reconcileOrphanRoute_ownedBy cfg clk rinp h

theorem reconcileRunningRoute_ownedBy (rinp : ReconcileInput) (h : s.OwnedBy o)
    (rt : WorkspaceRuntime) : (reconcileRunningRoute cfg clk rinp s rt).OwnedBy o := by
  unfold reconcileRunningRoute
  simp only
  split
  · exact h
  · split
    · exact h
    · exact failReconcile_ownedBy cfg clk h _
    · generalize gatewayRouteNeedsRepair _ _ _ _ = needsRepair
      cases needsRepair with
      | true =>
          rw [if_pos rfl]
          split
          · exact h
          · exact failReconcile_ownedBy cfg clk h _
          · exact h
      | false => exact h

theorem reconcileRunning_ownedBy (rinp : ReconcileInput) (h : s.OwnedBy o) :
    (reconcileRunning cfg clk rinp s).OwnedBy o := by
  unfold reconcileRunning
  split
  · exact h
  · exact failReconcile_ownedBy cfg clk h _
  · split
    · exact failReconcile_ownedBy cfg clk h _
    · split
      · exact h
      · apply reconcileRunningRoute_ownedBy
        exact h

theorem executeReconcileRuntimeJob_ownedBy (rinp : ReconcileInput) (h : s.OwnedBy o) :
    (executeReconcileRuntimeJob cfg clk rinp s).OwnedBy o := by
  have hpass : (cleanupPass rinp s).OwnedBy o := by
    unfold Session.OwnedBy
    rw [(cleanupPass_cleaned rinp s).ws]
    exact h
  rw [executeReconcileRuntimeJob_eq]
  split
  · exact failReconcile_ownedBy cfg clk h _
  · split
    · exact failReconcile_ownedBy cfg clk hpass _
    · split
      · exact reconcileOrphanRoute_ownedBy cfg clk rinp hpass
      · exact reconcileErrorCleanup_ownedBy cfg clk rinp hpass
      · exact reconcileStopped_ownedBy cfg clk rinp hpass
      · exact reconcileRunning_ownedBy cfg clk rinp hpass

/-! ## One execution -/

theorem executeJobBody_ownedBy (h : s.OwnedBy o) : (executeJobBody cfg inp s).OwnedBy o := by
  unfold executeJobBody
  split
  · exact executeRepoImportJob_ownedBy inp h
  · exact executeBringUpJob_ownedBy cfg inp h
  · exact executeBringUpJob_ownedBy cfg inp h
  · split
    · exact h
    · exact h
    · exact finalizeStopResult_ownedBy cfg inp.clk h _
  · split <;> exact h
  · split
    · exact h
    · exact h
    · exact finalizeRestartResult_ownedBy cfg inp.clk inp h _
  · split
    · exact h
    · exact h
    · exact finalizeUpdateResult_ownedBy cfg inp.clk inp h _
  · exact executeReconcileRuntimeJob_ownedBy cfg inp.clk inp.reconcile h
  · exact executeSnapshotCreateJob_ownedBy inp h
  · exact executeSnapshotRestoreJob_ownedBy inp h

theorem handleOrchestratorException_ownedBy (h : s.OwnedBy o) (nodeKey : Option String)
    (e : OrchestratorException) :
    (handleOrchestratorException cfg inp s nodeKey e).OwnedBy o := by
  have hsync := (syncAfterException_syncs s e).ownedBy h
  unfold handleOrchestratorException
  simp only
  split
  · exact waitForNodeReadiness_ownedBy cfg inp hsync _ _ _
  · refine retryElse_ownedBy cfg inp.clk hsync ?_
    split
    · unfold Session.OwnedBy failJobOnly
      rw [(settleSnapshotAfterException_neutral _).2]
      exact hsync
    · exact hsync

theorem processClaimedRunningJob_ownedBy (h : s.OwnedBy o) (nodeKey : Option String) :
    (processClaimedRunningJob cfg inp s nodeKey).session.OwnedBy o := by
  have hbody := executeJobBody_ownedBy cfg inp h
  unfold processClaimedRunningJob
  generalize executeJobBody cfg inp s = ex at hbody
  cases ex with
  | returned s' => exact hbody
  | raised e s' => exact handleOrchestratorException_ownedBy cfg inp hbody nodeKey e
  | crashed s' => exact hbody

/-- **An execution keeps the owner.** -/
theorem executeClaimedJob_owner (entry : EntryPoint) (s : Session) :
    (executeClaimedJob cfg inp entry s).session.ws.ownerUserId = s.ws.ownerUserId := by
  have h : s.OwnedBy s.ws.ownerUserId := rfl
  have hbegin : (beginCreateBringupAfterPlacement s).OwnedBy s.ws.ownerUserId := by
    unfold beginCreateBringupAfterPlacement
    split <;> rfl
  unfold executeClaimedJob
  split
  · rfl
  · unfold placeAndProcess
    split
    · exact failJobFromPlacement_ownedBy cfg inp h _
    · split
      · exact processClaimedRunningJob_ownedBy cfg inp h _
      · split
        · rfl
        · exact failJobFromOrchestratorBinding_ownedBy cfg inp h _
        · exact processClaimedRunningJob_ownedBy cfg inp hbegin _

end Exits

end Devnest
