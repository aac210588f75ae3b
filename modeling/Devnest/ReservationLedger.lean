import Mathlib.Tactic.NormNum
import Devnest.WorkerDeaths

/-!
# The reservation ledger

Capacity is booked in the runtime row (`reserved_cpu`, `reserved_memory_mb`,
`reserved_disk_mb`) when a container comes up, and every exit that leaves a
workspace `STOPPED`, `ERROR` or `DELETED` has to give it back by its own
code. Most exits zero the row or remove it. One does not: the
`INVALID_RUNTIME_LIMITS` exit of `CREATE` and `START` writes `ERROR` and
leaves the row alone. It is never taken, because the request schema lets no
unparseable limit into a configuration; that is part of the invariant here
(`LedgerInv.parsed`).

`_clear_runtime_capacity_reservation` leaves a row with no positive entry
as it is, so the invariant also says that no entry is negative.
-/

namespace Devnest

open Runs

/-! ## Booked capacity -/

namespace WorkspaceRuntime

/-- The three entries of the ledger. -/
def reserved (r : WorkspaceRuntime) : ℚ × Int × Int :=
  (r.reservedCpu, r.reservedMemoryMb, r.reservedDiskMb)

/-- No entry is negative. -/
def Sound (r : WorkspaceRuntime) : Prop :=
  0 ≤ r.reservedCpu ∧ 0 ≤ r.reservedMemoryMb ∧ 0 ≤ r.reservedDiskMb

/-- Nothing is booked. -/
def Released (r : WorkspaceRuntime) : Prop :=
  r.reservedCpu = 0 ∧ r.reservedMemoryMb = 0 ∧ r.reservedDiskMb = 0

theorem Released.sound {r : WorkspaceRuntime} (h : r.Released) : r.Sound :=
  ⟨h.1.ge, h.2.1.ge, h.2.2.ge⟩

theorem sound_congr {r r' : WorkspaceRuntime} (h : r'.reserved = r.reserved) :
    r'.Sound ↔ r.Sound := by
  simp only [reserved, Prod.mk.injEq] at h
  simp only [Sound, h]

theorem released_congr {r r' : WorkspaceRuntime} (h : r'.reserved = r.reserved) :
    r'.Released ↔ r.Released := by
  simp only [reserved, Prod.mk.injEq] at h
  simp only [Released, h]

theorem release_released (r : WorkspaceRuntime) : r.release.Released := ⟨rfl, rfl, rfl⟩

end WorkspaceRuntime

/-- A status and a runtime row that fit: the entries are sound, and a settled workspace has
booked nothing. -/
structure LedgerOk (st : WorkspaceStatus) (rt : Option WorkspaceRuntime) : Prop where
  sound : ∀ r ∈ rt, r.Sound
  settled : st.isSettled = true → ∀ r ∈ rt, r.Released

namespace LedgerOk

variable {st : WorkspaceStatus} {rt rt' : Option WorkspaceRuntime}

theorem of_none (st : WorkspaceStatus) : LedgerOk st none := by
  constructor
  · rintro r ⟨⟩
  · rintro - r ⟨⟩

/-- A row with nothing booked fits every status. -/
theorem of_released {r : WorkspaceRuntime} (st : WorkspaceStatus) (h : r.Released) :
    LedgerOk st (some r) := by
  constructor
  · rintro _ ⟨⟩; exact h.sound
  · rintro - _ ⟨⟩; exact h

/-- Any sound row fits a status that is not settled. -/
theorem of_sound (hst : st.isSettled = false) (h : ∀ r ∈ rt, r.Sound) : LedgerOk st rt :=
  ⟨h, fun hs => by rw [hst] at hs; cases hs⟩

/-- Only the entries of the row count. -/
theorem congr (h : LedgerOk st rt) (hrt : rt'.map (·.reserved) = rt.map (·.reserved)) :
    LedgerOk st rt' := by
  have hrow : ∀ r' ∈ rt', ∃ r ∈ rt, r'.reserved = r.reserved := by
    rintro r' ⟨⟩
    obtain ⟨r, hr, heq⟩ := Option.map_eq_some_iff.mp hrt.symm
    exact ⟨r, hr, heq.symm⟩
  constructor
  · intro r' hr'
    obtain ⟨r, hr, heq⟩ := hrow r' hr'
    exact (WorkspaceRuntime.sound_congr heq).mpr (h.sound r hr)
  · intro hst r' hr'
    obtain ⟨r, hr, heq⟩ := hrow r' hr'
    exact (WorkspaceRuntime.released_congr heq).mpr (h.settled hst r hr)

end LedgerOk

/-- `_clear_runtime_capacity_reservation` gives everything back. -/
theorem clearRuntimeCapacityReservation_ok {rt : Option WorkspaceRuntime}
    (h : ∀ r ∈ rt, r.Sound) (st : WorkspaceStatus) :
    LedgerOk st (clearRuntimeCapacityReservation rt) := by
  cases rt with
  | none => exact .of_none st
  | some r =>
      obtain ⟨hc, hm, hd⟩ := h r rfl
      refine .of_released st ?_
      dsimp only
      split
      · rename_i hle
        simp only [Bool.and_eq_true, decide_eq_true_eq] at hle
        exact ⟨le_antisymm hle.1.1 hc, le_antisymm hle.1.2 hm, le_antisymm hle.2 hd⟩
      · exact ⟨rfl, rfl, rfl⟩

/-! ## Settings and requests -/

/-- What the validators of the `devnest_workspace_required_*` settings let through. -/
def Settings.Validated (cfg : Settings) : Prop :=
  1 / 1000 ≤ cfg.devnestWorkspaceRequiredCpu ∧ 1 ≤ cfg.devnestWorkspaceRequiredMemoryMb ∧
    1 ≤ cfg.devnestWorkspaceRequiredDiskMb

/-- A limit as `WorkspaceRuntimeSpecSchema` writes it: `null` or a positive number. -/
def RawLimit.accepted : RawLimit → Bool
  | .null => true
  | .number q => 0 < q
  | .absent | .unparseable => false

/-- What `WorkspaceRuntimeSpecSchema.to_config_dict` produces. -/
def WorkspaceConfig.accepted (c : WorkspaceConfig) : Bool :=
  c.cpuLimitCores.accepted && c.memoryLimitMib.accepted && c.pidsLimit.accepted

theorem runtimeOverridesError_of_accepted {c : WorkspaceConfig} (h : c.accepted = true) :
    runtimeOverridesError c = none := by
  simp only [WorkspaceConfig.accepted, Bool.and_eq_true] at h
  have hne : ∀ {l : RawLimit}, l.accepted = true → l ≠ .unparseable := by
    rintro l hl rfl
    cases hl
  simp [runtimeOverridesError, hne h.1.1, hne h.1.2, hne h.2]

/-! ## The exits of a job -/

/-- The session fits. -/
def Session.LedgerOk (s : Session) : Prop := Devnest.LedgerOk s.ws.status s.rt

section Exits

variable (cfg : Settings) (clk : Clock) (inp : WorkerInput)

theorem applyRuntimeBringupLike_sound (hcfg : cfg.Validated) (rt : Option WorkspaceRuntime)
    (f : RuntimeFacts) (v : Int) (target : Option String) :
    (applyRuntimeBringupLike cfg rt f v target).Sound := by
  obtain ⟨hc, hm, hd⟩ := hcfg
  unfold applyRuntimeBringupLike
  simp only
  split
  · exact (WorkspaceRuntime.release_released _).sound
  · refine ⟨?_, ?_, ?_⟩
    · show 0 ≤ cfg.devnestWorkspaceRequiredCpu
      exact le_trans (by norm_num) hc
    · show 0 ≤ cfg.devnestWorkspaceRequiredMemoryMb
      omega
    · show 0 ≤ cfg.devnestWorkspaceRequiredDiskMb
      omega

theorem failJobTerminal_ledger {s : Session} (h : s.LedgerOk) (m : String) (st : FailureStage)
    (fc ec : String) : (failJobTerminal inp s m st fc ec).LedgerOk :=
  clearRuntimeCapacityReservation_ok h.sound _

theorem finalizeJobFailedWorkspaceError_ledger {s : Session} (h : s.LedgerOk) (m : String)
    (st : FailureStage) : (finalizeJobFailedWorkspaceError clk s m st).LedgerOk :=
  clearRuntimeCapacityReservation_ok h.sound _

theorem retryElse_ledger {s terminal : Session} {retryable : Bool} {m : String}
    {stage : FailureStage} {code : String} (h : s.LedgerOk) (ht : terminal.LedgerOk) :
    (retryElse cfg clk s retryable m stage code terminal).LedgerOk :=
  retryElse_elim (P := Session.LedgerOk) cfg clk (fun _ _ _ => h) ht

theorem waitElse_ledger {s terminal : Session} {m code reason : String} (h : s.LedgerOk)
    (ht : terminal.LedgerOk) : (waitElse cfg clk s m code reason terminal).LedgerOk :=
  waitElse_elim (P := Session.LedgerOk) cfg clk (fun _ _ _ => .of_sound rfl h.sound) ht

theorem resolveOrchestratorResultFailure_ledger {s : Session} (h : s.LedgerOk) (m : String)
    (st : FailureStage) (retryable : Bool) :
    (resolveOrchestratorResultFailure cfg clk s m st retryable).LedgerOk :=
  retryElse_ledger cfg clk h (finalizeJobFailedWorkspaceError_ledger clk h m st)

theorem failJobFromPlacement_ledger {s : Session} (h : s.LedgerOk) (e : PlacementError) :
    (failJobFromPlacement cfg inp s e).LedgerOk := by
  cases e with
  | noSchedulableNode m =>
      exact waitElse_ledger cfg inp.clk h (failJobTerminal_ledger inp h _ _ _ _)
  | invalidPlacementParameters m | authoritativePlacement m =>
      exact retryElse_ledger cfg inp.clk h (failJobTerminal_ledger inp h _ _ _ _)

theorem markNodeNotReadyForRetry_ledger {s : Session} (h : s.LedgerOk) (k : Option String)
    (reason : String) : (markNodeNotReadyForRetry s k reason).LedgerOk := by
  unfold markNodeNotReadyForRetry
  split
  · exact h
  · split
    · exact h
    · split <;> exact h

theorem waitForNodeReadiness_ledger {s : Session} (h : s.LedgerOk) (k : Option String)
    (reason code : String) : (waitForNodeReadiness cfg inp s k reason code).LedgerOk := by
  have hm := markNodeNotReadyForRetry_ledger h k reason
  exact waitElse_ledger cfg inp.clk hm (failJobTerminal_ledger inp hm _ _ _ _)

theorem failJobFromOrchestratorBinding_ledger {s : Session} (h : s.LedgerOk) (m : String) :
    (failJobFromOrchestratorBinding cfg inp s m).LedgerOk := by
  unfold failJobFromOrchestratorBinding
  split
  · exact waitForNodeReadiness_ledger cfg inp h _ _ _
  · exact retryElse_ledger cfg inp.clk h (failJobTerminal_ledger inp h _ _ _ _)

theorem ensureDurableCleanupTask_ledger {s : Session} (h : s.LedgerOk) (sc : CleanupScope) :
    (ensureDurableCleanupTask s sc).LedgerOk := by
  obtain ⟨-, -, hws, hrt⟩ := ensureDurableCleanupTask_fields s sc
  unfold Session.LedgerOk
  rw [hws, hrt]
  exact h

/-- The row after a rollback, worked or not. -/
theorem syncRuntime_ledger {s : Session} {r : WorkspaceRuntime} (h : s.LedgerOk)
    (hr : s.rt = some r) (a b c d : Option String) :
    ({ s with rt := some (syncRolledBack r a b c d) } : Session).LedgerOk ∧
      (syncCleanupRequired s r).LedgerOk := by
  refine ⟨.of_released _ (WorkspaceRuntime.release_released r), ?_⟩
  refine ensureDurableCleanupTask_ledger ?_ _
  exact LedgerOk.congr h (by rw [hr]; rfl)

theorem syncRuntimeAfterFailedBringup_ledger {s : Session} (h : s.LedgerOk)
    (res : WorkspaceBringUpResult) : (syncRuntimeAfterFailedBringup s res).LedgerOk := by
  unfold syncRuntimeAfterFailedBringup
  split
  · exact h
  · split
    · exact h
    · rename_i r hr
      split
      · exact (syncRuntime_ledger h hr _ _ _ _).1
      · exact (syncRuntime_ledger h hr none none none none).2

theorem syncAfterException_ledger {s : Session} (h : s.LedgerOk) (e : OrchestratorException) :
    (syncAfterException s e).LedgerOk := by
  cases e with
  | bringUp be =>
      simp only [syncAfterException, syncRuntimeAfterBringupException]
      split
      · exact h
      · split
        · exact h
        · rename_i r hr
          split
          · exact (syncRuntime_ledger h hr _ _ _ _).1
          · exact (syncRuntime_ledger h hr none none none none).2
  | stop m | delete m | restart m | update m | snapshot m => exact h

/-- The session an exit leaves fits; an exception the worker does not catch leaves none. -/
def Exit.LedgerOk : Exit → Prop
  | .returned s => s.LedgerOk
  | .raised _ s => s.LedgerOk
  | .crashed _ => True

theorem finalizeRuntimeRunningSuccess_ledger (hcfg : cfg.Validated) {s : Session} (h : s.LedgerOk)
    (port : Option String → Option Nat) (f : RuntimeFacts) (v : Int) :
    (finalizeRuntimeRunningSuccess cfg clk port s f v).LedgerOk := by
  unfold finalizeRuntimeRunningSuccess
  split
  · exact h
  · refine .of_sound rfl ?_
    rintro _ ⟨⟩
    exact applyRuntimeBringupLike_sound cfg hcfg _ _ _ _

theorem finalizeBringupResult_ledger (hcfg : cfg.Validated) {s : Session} (h : s.LedgerOk)
    (res : WorkspaceBringUpResult) :
    (finalizeBringupResult cfg clk inp.port s res).LedgerOk := by
  unfold finalizeBringupResult
  split
  · exact finalizeRuntimeRunningSuccess_ledger cfg clk hcfg h _ _ _
  · exact resolveOrchestratorResultFailure_ledger cfg clk
      (syncRuntimeAfterFailedBringup_ledger h res) _ _ _

theorem finalizeStopResult_ledger {s : Session} (h : s.LedgerOk) (res : WorkspaceStopResult) :
    (finalizeStopResult cfg clk s res).LedgerOk := by
  unfold finalizeStopResult
  split
  · exact .of_released _ (WorkspaceRuntime.release_released (s.rt.getD {}))
  · exact resolveOrchestratorResultFailure_ledger cfg clk (ensureDurableCleanupTask_ledger h _) _ _ _

theorem finalizeRestartResult_ledger (hcfg : cfg.Validated) {s : Session} (h : s.LedgerOk)
    (res : WorkspaceRestartResult) :
    (finalizeRestartResult cfg clk inp.port s res).LedgerOk := by
  unfold finalizeRestartResult
  split
  · exact finalizeRuntimeRunningSuccess_ledger cfg clk hcfg h _ _ _
  · exact resolveOrchestratorResultFailure_ledger cfg clk h _ _ _

theorem finalizeUpdateResult_ledger (hcfg : cfg.Validated) {s : Session} (h : s.LedgerOk)
    (res : WorkspaceUpdateResult) :
    (finalizeUpdateResult cfg clk inp.port s res).LedgerOk := by
  unfold finalizeUpdateResult
  simp only
  split
  · exact finalizeRuntimeRunningSuccess_ledger cfg clk hcfg h _ _ _
  · split
    · exact .of_released _ (WorkspaceRuntime.release_released (s.rt.getD {}))
    · exact resolveOrchestratorResultFailure_ledger cfg clk h _ _ _

/-! ## The bodies -/

/-- The configuration the session read has no limit that `CREATE` and `START` refuse. -/
def Session.Parsed (s : Session) : Prop := runtimeOverridesError (s.config.getD {}) = none

theorem executeBringUpJob_ledger (hcfg : cfg.Validated) {s : Session} (h : s.LedgerOk)
    (hp : s.Parsed) : (executeBringUpJob cfg inp s).LedgerOk := by
  unfold executeBringUpJob
  rw [show runtimeOverridesError (s.config.getD {}) = none from hp]
  simp only
  split
  · trivial
  · exact h
  · exact finalizeBringupResult_ledger cfg inp.clk inp hcfg h _

theorem finishSnapshotCreate_ledger {s : Session} (h : s.LedgerOk) (sid : Nat)
    (snap : WorkspaceSnapshot) (res : WorkspaceSnapshotOperationResult) (uploaded : Bool) :
    (finishSnapshotCreate inp s sid snap res uploaded).LedgerOk := by
  unfold finishSnapshotCreate
  split
  · split <;> exact h
  · exact h

theorem executeSnapshotCreateJob_ledger {s : Session} (h : s.LedgerOk) :
    (executeSnapshotCreateJob inp s).LedgerOk := by
  unfold executeSnapshotCreateJob
  split
  · exact h
  · split
    · exact h
    · split
      · exact h
      · split
        · exact finishSnapshotCreate_ledger inp h _ _ _ _
        · split
          · trivial
          · exact h
          · exact finishSnapshotCreate_ledger inp h _ _ _ _

theorem executeSnapshotRestoreJob_ledger {s : Session} (h : s.LedgerOk) :
    (executeSnapshotRestoreJob inp s).LedgerOk := by
  unfold executeSnapshotRestoreJob
  split
  · exact h
  · split
    · exact h
    · simp only
      split
      · exact h
      · split
        · exact h
        · split
          · exact h
          · split
            · trivial
            · exact h
            · split <;> exact h

theorem executeRepoImportJob_ledger {s : Session} (h : s.LedgerOk) :
    (executeRepoImportJob inp s).LedgerOk := by
  unfold executeRepoImportJob
  split
  · exact h
  · trivial

/-! ## Reconcile -/

theorem failReconcile_ledger {s : Session} (h : s.LedgerOk) (m : String) :
    (failReconcile cfg clk s m).LedgerOk := by
  rw [failReconcile_eq]
  refine retryElse_ledger cfg clk h ?_
  split
  · exact h
  · exact finalizeJobFailedWorkspaceError_ledger clk h _ _

section Rows

variable {α : Type} {f : WorkspaceRuntime → α}

/-- A turn of the cleanup loop writes nothing of the runtime row but its health. -/
theorem cleanupTaskTurn_map (hf : ∀ r st, f { r with healthStatus := st } = f r) (wid : Nat)
    (st : WorkspaceStatus) (answer : CleanupScope → Outcome String WorkspaceStopResult)
    (c : CleanupState) (sc : CleanupScope) :
    (cleanupTaskTurn wid st answer c sc).rt.map f = c.rt.map f := by
  unfold cleanupTaskTurn
  split
  · rfl
  · simp only
    split
    · split
      · cases c.rt with
        | none => rfl
        | some r =>
            simp only [Option.map_some, Option.some.injEq]
            split
            · exact hf r _
            · rfl
      · rfl
    · rfl
    · rfl

theorem cleanupTurns_foldl_map (hf : ∀ r st, f { r with healthStatus := st } = f r) (wid : Nat)
    (st : WorkspaceStatus) (answer : CleanupScope → Outcome String WorkspaceStopResult)
    (l : List CleanupScope) (c : CleanupState) :
    (l.foldl (cleanupTaskTurn wid st answer) c).rt.map f = c.rt.map f := by
  induction l generalizing c with
  | nil => rfl
  | cons sc l ih => exact (ih _).trans (cleanupTaskTurn_map hf wid st answer c sc)

theorem processDurableCleanupTasks_map (hf : ∀ r st, f { r with healthStatus := st } = f r)
    (wid : Nat) (st : WorkspaceStatus)
    (answer : CleanupScope → Outcome String WorkspaceStopResult) (c : CleanupState) :
    (processDurableCleanupTasksForWorkspace wid st answer c).rt.map f = c.rt.map f := by
  unfold processDurableCleanupTasksForWorkspace
  split
  · exact cleanupTurns_foldl_map hf wid st answer _ c
  · rfl

end Rows

/-- A row keeps its entries when its health is written. -/
theorem reserved_healthStatus (r : WorkspaceRuntime) (st : WorkspaceRuntimeHealthStatus) :
    { r with healthStatus := st }.reserved = r.reserved := rfl

/-- `_repair_runtime_capacity_ledger` books the defaults for a running workspace and gives
nothing to a settled one. -/
theorem repairRuntimeCapacityLedger_ok {st : WorkspaceStatus} {rt : Option WorkspaceRuntime}
    (h : LedgerOk st rt) : LedgerOk st (repairRuntimeCapacityLedger st rt) := by
  cases rt with
  | none => exact h
  | some r =>
      simp only [repairRuntimeCapacityLedger, Option.map_some]
      split
      · split
        · exact .of_released st ⟨rfl, rfl, rfl⟩
        · exact h
      · rename_i hset
        split
        · refine .of_sound ?_ ?_
          · simpa [WorkspaceStatus.isSettled] using hset
          · rintro _ ⟨⟩
            refine ⟨?_, ?_, ?_⟩ <;> norm_num
        · exact h

theorem cleanupPass_ledger (rinp : ReconcileInput) {s : Session} (h : s.LedgerOk) :
    (cleanupPass rinp s).LedgerOk :=
  repairRuntimeCapacityLedger_ok (h.congr (processDurableCleanupTasks_map reserved_healthStatus _ _ _ _))

theorem reconcileOrphanRoute_ledger (rinp : ReconcileInput) {s : Session} (h : s.LedgerOk) :
    (reconcileOrphanRoute cfg clk rinp s).LedgerOk := by
  unfold reconcileOrphanRoute
  split
  · exact h
  · split
    · trivial
    · exact failReconcile_ledger cfg clk h _
    · split
      · exact h
      · split
        · trivial
        · exact failReconcile_ledger cfg clk h _
        · exact h

theorem reconcileErrorCleanup_ledger (rinp : ReconcileInput) {s : Session} (h : s.LedgerOk) :
    (reconcileErrorCleanup cfg clk rinp s).LedgerOk := by
  unfold reconcileErrorCleanup
  split
  · trivial
  · exact failReconcile_ledger cfg clk h _
  · split
    · refine reconcileOrphanRoute_ledger cfg clk rinp ?_
      exact .of_released _ (WorkspaceRuntime.release_released (s.rt.getD {}))
    · exact reconcileOrphanRoute_ledger cfg clk rinp h

theorem reconcileStopped_ledger (rinp : ReconcileInput) {s : Session} (h : s.LedgerOk) :
    (reconcileStopped cfg clk rinp s).LedgerOk := by
  unfold reconcileStopped
  split
  · trivial
  · exact failReconcile_ledger cfg clk h _
  · split
    · split
      · trivial
      · exact failReconcile_ledger cfg clk h _
      · simp only
        split
        · trivial
        · exact finalizeStopResult_ledger cfg clk h _
    · exact reconcileOrphanRoute_ledger cfg clk rinp h

theorem reconcileRunningRoute_ledger (rinp : ReconcileInput) {s : Session} (h : s.LedgerOk)
    (rt : WorkspaceRuntime) : (reconcileRunningRoute cfg clk rinp s rt).LedgerOk := by
  unfold reconcileRunningRoute
  simp only
  split
  · exact h
  · split
    · trivial
    · exact failReconcile_ledger cfg clk h _
    · generalize gatewayRouteNeedsRepair _ _ _ _ = needsRepair
      cases needsRepair with
      | true =>
          rw [if_pos rfl]
          split
          · trivial
          · exact failReconcile_ledger cfg clk h _
          · exact h
      | false => exact h

theorem reconcileRunning_ledger (hcfg : cfg.Validated) (rinp : ReconcileInput) {s : Session}
    (h : s.LedgerOk) (hst : s.ws.status.isSettled = false) :
    (reconcileRunning cfg clk rinp s).LedgerOk := by
  unfold reconcileRunning
  split
  · trivial
  · exact failReconcile_ledger cfg clk h _
  · split
    · exact failReconcile_ledger cfg clk h _
    · split
      · exact h
      · apply reconcileRunningRoute_ledger
        refine LedgerOk.of_sound hst fun r hr => ?_
        rw [← Option.some.inj hr]
        exact applyRuntimeBringupLike_sound cfg hcfg _ _ _ _

theorem executeReconcileRuntimeJob_ledger (hcfg : cfg.Validated) (rinp : ReconcileInput)
    {s : Session} (h : s.LedgerOk) : (executeReconcileRuntimeJob cfg clk rinp s).LedgerOk := by
  have hpass := cleanupPass_ledger rinp h
  rw [executeReconcileRuntimeJob_eq]
  split
  · exact failReconcile_ledger cfg clk h _
  · split
    · exact failReconcile_ledger cfg clk hpass _
    · split
      · exact reconcileOrphanRoute_ledger cfg clk rinp hpass
      · exact reconcileErrorCleanup_ledger cfg clk rinp hpass
      · exact reconcileStopped_ledger cfg clk rinp hpass
      · rename_i hd he hs
        refine reconcileRunning_ledger cfg clk hcfg rinp hpass ?_
        show s.ws.status.isSettled = false
        simp only [WorkspaceStatus.isSettled, Bool.or_eq_false_iff, decide_eq_false_iff_not]
        exact ⟨⟨hs, he⟩, hd⟩

/-! ## One execution -/

theorem executeJobBody_ledger (hcfg : cfg.Validated) {s : Session} (h : s.LedgerOk)
    (hp : s.Parsed) : (executeJobBody cfg inp s).LedgerOk := by
  unfold executeJobBody
  split
  · exact executeRepoImportJob_ledger inp h
  · exact executeBringUpJob_ledger cfg inp hcfg h hp
  · exact executeBringUpJob_ledger cfg inp hcfg h hp
  · split
    · trivial
    · exact h
    · exact finalizeStopResult_ledger cfg inp.clk h _
  · split
    · trivial
    · exact h
    · exact .of_none _
  · split
    · trivial
    · exact h
    · exact finalizeRestartResult_ledger cfg inp.clk inp hcfg h _
  · split
    · trivial
    · exact h
    · exact finalizeUpdateResult_ledger cfg inp.clk inp hcfg h _
  · exact executeReconcileRuntimeJob_ledger cfg inp.clk hcfg inp.reconcile h
  · exact executeSnapshotCreateJob_ledger inp h
  · exact executeSnapshotRestoreJob_ledger inp h

theorem settleSnapshotAfterException_ledger {s : Session} (h : s.LedgerOk) :
    (settleSnapshotAfterException s).LedgerOk := by
  unfold settleSnapshotAfterException
  split
  · exact h
  · split
    · exact h
    · split
      · split <;> exact h
      · exact h

theorem handleOrchestratorException_ledger {s : Session} (h : s.LedgerOk) (nodeKey : Option String)
    (e : OrchestratorException) : (handleOrchestratorException cfg inp s nodeKey e).LedgerOk := by
  have hsync := syncAfterException_ledger h e
  unfold handleOrchestratorException
  simp only
  split
  · exact waitForNodeReadiness_ledger cfg inp hsync _ _ _
  · refine retryElse_ledger cfg inp.clk hsync ?_
    split
    · exact settleSnapshotAfterException_ledger hsync
    · exact failJobTerminal_ledger inp hsync _ _ _ _

theorem processClaimedRunningJob_ledger (hcfg : cfg.Validated) {s : Session} (h : s.LedgerOk)
    (hp : s.Parsed) (nodeKey : Option String)
    (hc : (processClaimedRunningJob cfg inp s nodeKey).committed = true) :
    (processClaimedRunningJob cfg inp s nodeKey).session.LedgerOk := by
  have hbody := executeJobBody_ledger cfg inp hcfg h hp
  unfold processClaimedRunningJob at hc ⊢
  cases hex : executeJobBody cfg inp s with
  | returned s' => rw [hex] at hbody; exact hbody
  | raised e s' =>
      rw [hex] at hbody
      exact handleOrchestratorException_ledger cfg inp hbody nodeKey e
  | crashed s' => rw [hex] at hc; cases hc

theorem beginCreate_ledger {s : Session} (h : s.LedgerOk) :
    (beginCreateBringupAfterPlacement s).LedgerOk := by
  unfold beginCreateBringupAfterPlacement
  split
  · exact .of_sound rfl h.sound
  · exact h

/-- **One committed execution**, of any type and with any answers, leaves a session that fits. -/
theorem executeClaimedJob_ledger (hcfg : cfg.Validated) {entry : EntryPoint} {s : Session}
    (h : s.LedgerOk) (hp : s.Parsed)
    (hc : (executeClaimedJob cfg inp entry s).committed = true) :
    (executeClaimedJob cfg inp entry s).session.LedgerOk := by
  unfold executeClaimedJob at hc ⊢
  split
  · rename_i hdel
    simp only [Bool.and_eq_true, Option.isNone_iff_eq_none] at hdel
    show LedgerOk .deleted s.rt
    rw [hdel.2]
    exact .of_none _
  · rename_i hdel
    rw [if_neg hdel] at hc
    unfold placeAndProcess at hc ⊢
    split
    · exact failJobFromPlacement_ledger cfg inp h _
    · rename_i hres
      rw [hres] at hc
      split
      · rename_i hrepo
        simp only [if_pos hrepo] at hc
        exact processClaimedRunningJob_ledger cfg inp hcfg h hp _ hc
      · rename_i hrepo
        simp only [if_neg hrepo] at hc
        split
        · rename_i hb; rw [hb] at hc; cases hc
        · exact failJobFromOrchestratorBinding_ledger cfg inp h _
        · rename_i hb
          rw [hb] at hc
          refine processClaimedRunningJob_ledger cfg inp hcfg (beginCreate_ledger h) ?_ _ hc
          unfold Session.Parsed
          rw [(beginCreate_fields s).1]
          exact hp

end Exits

/-! ## Configurations -/

/-- The configuration a request stages. -/
def Step.config : Step → Option WorkspaceConfig
  | .createWorkspace _ _ _ c => some c
  | .createOperatorPinnedTestWorkspace _ _ _ _ c => some c
  | .requestUpdateWorkspace _ _ _ _ c => some c
  | _ => none

/-- Every database a request may answer with has `P`. -/
def Yields (P : Db → Prop) (r : Except IntentError Db) : Prop := ∀ db', r = .ok db' → P db'

theorem Yields.bind {P : Db → Prop} {α : Type} {x : Except IntentError α}
    {f : α → Except IntentError Db} (h : ∀ a, Yields P (f a)) : Yields P (x >>= f) := by
  intro db' hdb'
  obtain ⟨a, -, ha⟩ := bind_eq_ok.mp hdb'
  exact h a db' ha

theorem Yields.accepted {P : Db → Prop} {db : Db} {r : Except IntentError Db} (h : Yields P r)
    (h0 : P db) : P (accepted db r) := by
  cases r with
  | ok db' => exact h db' rfl
  | error e => exact h0

/-- No limit of a stored configuration is unparseable. -/
def ConfigsParsed (db : Db) : Prop :=
  ∀ k c, db.configs.lookup k = some c → runtimeOverridesError c = none

theorem ConfigsParsed.congr {db db' : Db} (h : ConfigsParsed db) (heq : db'.configs = db.configs) :
    ConfigsParsed db' := fun k c hc => h k c (heq ▸ hc)

theorem ConfigsParsed.insert {db db' : Db} {k : Nat × Nat} {c : WorkspaceConfig}
    (h : ConfigsParsed db) (hc : c.accepted = true) (heq : db'.configs = db.configs.insert k c) :
    ConfigsParsed db' := by
  intro k' c' hk'
  rw [heq, Table.lookup_insert_eq] at hk'
  split at hk'
  · rw [← Option.some.inj hk']
    exact runtimeOverridesError_of_accepted hc
  · exact h k' c' hk'

theorem persistIntent_configs {db : Db} (inp : IntentInput) (wid : Nat) (ws : Workspace)
    (st : WorkspaceStatus) (jt : WorkspaceJobType) (user version : Nat) :
    Yields (fun db' => db'.configs = db.configs)
      (persistIntent db inp wid ws st jt user version) := by
  intro db' h
  rw [persistIntent_ok h]
  rfl

theorem createSnapshot_configs (db : Db) (inp : IntentInput) (wid owner : Nat) :
    Yields (fun db' => db'.configs = db.configs) (createSnapshot db inp wid owner) := by
  refine Yields.bind fun ws => Yields.bind fun _ => ?_
  split
  · exact Yields.bind fun _ => Yields.bind fun _ => fun db' h => by rw [← Except.ok.inj h]; rfl
  · exact Yields.bind fun _ => fun db' h => by rw [← Except.ok.inj h]; rfl

theorem restoreSnapshot_configs (db : Db) (inp : IntentInput) (sid owner : Nat) :
    Yields (fun db' => db'.configs = db.configs) (restoreSnapshot db inp sid owner) := by
  intro db' h
  unfold restoreSnapshot at h
  split at h
  · cases h
  · split at h
    · cases h
    · repeat' split at h
      all_goals first
        | cases h; done
        | rw [← Except.ok.inj h]; rfl

theorem importRepo_configs (db : Db) (inp : IntentInput) (wid owner : Nat) :
    Yields (fun db' => db'.configs = db.configs) (importRepo db inp wid owner) := by
  refine Yields.bind fun _ => ?_
  split
  · exact Yields.bind fun _ => fun db' h => by rw [← Except.ok.inj h]; rfl
  · exact fun db' h => by rw [← Except.ok.inj h]; rfl

theorem enqueueReconcileRuntimeJob_configs (cfg : Settings) (db : Db) (inp : IntentInput)
    (wid : Nat) :
    Yields (fun db' => db'.configs = db.configs) (enqueueReconcileRuntimeJob cfg db inp wid) := by
  unfold enqueueReconcileRuntimeJob
  split
  · intro db' h; cases h
  · exact Yields.bind fun _ => Yields.bind fun _ => Yields.bind fun _ => Yields.bind fun _ =>
      fun db' h => by rw [← Except.ok.inj h]; rfl

theorem runJob_configs (cfg : Settings) (entry : EntryPoint) (inp : WorkerInput) (jid : Nat)
    (db : Db) : (runJob cfg entry inp jid db).configs = db.configs := by
  have h := runJob_effect cfg entry inp jid db
  generalize runJob cfg entry inp jid db = db' at h
  cases h <;> rfl

theorem drainPendingCleanupTasks_configs (db : Db) (answers : List DrainAnswer) :
    (drainPendingCleanupTasks db answers).configs = db.configs := by
  unfold drainPendingCleanupTasks
  induction answers generalizing db with
  | nil => rfl
  | cons ans answers ih =>
      refine (ih _).trans ?_
      unfold drainWorkspace
      split
      · rfl
      · split <;> rfl

theorem reclaimJob_configs {cfg : Settings} {clk : Clock} {db : Db} {jid : Nat} {job : WorkspaceJob}
    (hjob : db.jobs.lookup jid = some job) : (reclaimJob cfg clk db jid).configs = db.configs := by
  have h := reclaimJob_effect cfg clk hjob
  generalize reclaimJob cfg clk db jid = db' at h
  cases h with
  | requeued => rfl
  | failedAlone => rfl
  | failedWithWorkspace _ _ _ _ _ hconf => exact hconf

/-- Requests that went through the schema keep the stored configurations parseable. -/
theorem step_configsParsed {cfg : Settings} {db : Db} {st : Step} (h : ConfigsParsed db)
    (hst : ∀ c ∈ st.config, c.accepted = true) : ConfigsParsed (step cfg db st) := by
  have hsame : ∀ {r : Except IntentError Db}, Yields (fun db' => db'.configs = db.configs) r →
      ConfigsParsed (accepted db r) :=
    fun hr => Yields.accepted (fun db' hdb' => h.congr (hr db' hdb')) h
  cases st with
  | createWorkspace inp owner name config =>
      refine Yields.accepted (Yields.bind fun _ => fun db' hdb' => ?_) h
      refine h.insert (hst config rfl) (k := (Table.freshKey db.workspaces, 1)) ?_
      rw [← Except.ok.inj hdb']
      rfl
  | createOperatorPinnedTestWorkspace inp owner executionNodeId suffix config =>
      refine Yields.accepted (Yields.bind fun _ => Yields.bind fun _ => fun db' hdb' => ?_) h
      refine h.insert (hst config rfl) (k := (Table.freshKey db.workspaces, 1)) ?_
      rw [← Except.ok.inj hdb']
      rfl
  | requestUpdateWorkspace inp wid owner user config =>
      refine Yields.accepted (Yields.bind fun ws => Yields.bind fun _ => Yields.bind fun _ =>
        Yields.bind fun latest => fun db' hdb' => ?_) h
      refine h.insert (hst config rfl) (k := (wid, latest + 1)) ?_
      rw [← Except.ok.inj hdb']
      rfl
  | requestStartWorkspace inp wid owner user =>
      exact hsame (Yields.bind fun _ => Yields.bind fun _ => Yields.bind fun _ => Yields.bind fun _ =>
        Yields.bind fun _ => persistIntent_configs _ _ _ _ _ _ _)
  | requestStopWorkspace inp wid owner user =>
      exact hsame (Yields.bind fun _ => Yields.bind fun _ => Yields.bind fun _ => Yields.bind fun _ =>
        persistIntent_configs _ _ _ _ _ _ _)
  | requestRestartWorkspace inp wid owner user =>
      exact hsame (Yields.bind fun _ => Yields.bind fun _ => Yields.bind fun _ => Yields.bind fun _ =>
        Yields.bind fun _ => persistIntent_configs _ _ _ _ _ _ _)
  | requestDeleteWorkspace inp wid owner user =>
      exact hsame (Yields.bind fun _ => Yields.bind fun _ => Yields.bind fun _ => Yields.bind fun _ =>
        persistIntent_configs _ _ _ _ _ _ _)
  | enqueueReconcileRuntimeJob inp wid => exact hsame (enqueueReconcileRuntimeJob_configs cfg db inp wid)
  | createSnapshot inp wid owner => exact hsame (createSnapshot_configs db inp wid owner)
  | restoreSnapshot inp sid owner => exact hsame (restoreSnapshot_configs db inp sid owner)
  | importRepo inp wid owner => exact hsame (importRepo_configs db inp wid owner)
  | processNextQueuedJob inp jid =>
      simp only [step]
      split
      · exact h.congr (runJob_configs cfg _ inp jid db)
      · exact h
  | runQueuedWorkspaceJobById inp jid => exact h.congr (runJob_configs cfg _ inp jid db)
  | drainPendingCleanupTasks answers => exact h.congr (drainPendingCleanupTasks_configs db answers)
  | reclaimStuckRunningJobs clk =>
      exact reclaimStuckRunningJobs_keeps h fun _ _ _ _ h' _ _ hjob _ => h'.congr (reclaimJob_configs hjob)

/-! ## The tables -/

/-- What holds between any two steps. -/
structure LedgerInv (db : Db) : Prop where
  rows : ∀ w ws, db.workspaces.lookup w = some ws → LedgerOk ws.status (db.runtimes.lookup w)
  sound : ∀ w, ∀ r ∈ db.runtimes.lookup w, r.Sound
  parsed : ConfigsParsed db

/-- The same entries under every key, and no workspace newly settled. -/
theorem LedgerInv.congr {db db' : Db} (h : LedgerInv db) (hparsed : ConfigsParsed db')
    (hrt : ∀ w, (db'.runtimes.lookup w).map (·.reserved) = (db.runtimes.lookup w).map (·.reserved))
    (hws : ∀ w ws', db'.workspaces.lookup w = some ws' → ws'.status.isSettled = false ∨
      ∃ ws, db.workspaces.lookup w = some ws ∧ ws'.status = ws.status) : LedgerInv db' := by
  have hrunning : WorkspaceStatus.isSettled .running = false := rfl
  have hsound : ∀ w, ∀ r ∈ db'.runtimes.lookup w, r.Sound := fun w =>
    (LedgerOk.congr (LedgerOk.of_sound hrunning (h.sound w)) (hrt w)).sound
  refine ⟨fun w ws' hw => ?_, hsound, hparsed⟩
  rcases hws w ws' hw with hst | ⟨ws, hws, hst⟩
  · exact .of_sound hst (hsound w)
  · rw [hst]
    exact (h.rows w ws hws).congr (hrt w)

/-- A session that fits can be committed. -/
theorem LedgerInv.commit {db : Db} (h : LedgerInv db) {s : Session} (hs : s.LedgerOk) (jid : Nat) :
    LedgerInv (s.commit jid db) := by
  refine ⟨fun w ws hw => ?_, fun w r hr => ?_, h.parsed⟩
  · rw [commit_workspaces_lookup] at hw
    rw [commit_runtimes_lookup]
    split
    · rename_i hsw
      rw [if_pos hsw] at hw
      rw [← Option.some.inj hw]
      exact hs
    · rename_i hsw
      rw [if_neg hsw] at hw
      exact h.rows w ws hw
  · rw [commit_runtimes_lookup] at hr
    split at hr
    · exact hs.sound r hr
    · exact h.sound w r hr

theorem claimJob_config {db : Db} {inp : WorkerInput} {jid : Nat} {s : Session}
    (h : claimJob inp jid db = some s) : s.config = db.latestConfig s.wid := by
  unfold claimJob at h
  split at h
  · cases h
  · split at h
    · cases h
    · obtain ⟨ws, -, rfl⟩ := Option.map_eq_some_iff.mp h
      rfl

/-- The session of a claim fits, and its configuration is parseable. -/
theorem LedgerInv.claimed {db : Db} (h : LedgerInv db) {inp : WorkerInput} {jid : Nat} {s : Session}
    (hs : claimJob inp jid db = some s) : s.LedgerOk ∧ s.Parsed := by
  have hc := claimJob_claimed hs
  refine ⟨?_, ?_⟩
  · unfold Session.LedgerOk
    rw [hc.rt]
    exact h.rows s.wid s.ws hc.ws
  · have hconf : s.config = db.latestConfig s.wid := claimJob_config hs
    unfold Session.Parsed
    rw [hconf]
    cases hl : db.latestConfig s.wid with
    | none => rfl
    | some c =>
        unfold Db.latestConfig at hl
        obtain ⟨v, -, hv⟩ := Option.bind_eq_some_iff.mp hl
        exact h.parsed _ c hv

theorem IntentEffect.ledger {db db' : Db} (h : IntentEffect db db') (hinv : LedgerInv db)
    (hparsed : ConfigsParsed db') : LedgerInv db' := by
  cases h with
  | refused => exact hinv
  | lifecycle hws _ hst _ _ _ _ =>
      refine hinv.congr hparsed (fun _ => rfl) fun w ws' hw => ?_
      simp only [Db.queueJob, Table.lookup_insert_eq] at hw
      split at hw
      · rw [← Option.some.inj hw]
        exact .inl (not_isSettled_of_isBusy hst)
      · exact .inr ⟨ws', hw, rfl⟩
  | created hst _ _ _ =>
      refine hinv.congr hparsed (fun _ => rfl) fun w ws' hw => ?_
      simp only [Db.queueJob, Table.lookup_insert_eq] at hw
      split at hw
      · rw [← Option.some.inj hw]
        rcases hst with hst | hst <;> exact .inl (by rw [hst]; rfl)
      · exact .inr ⟨ws', hw, rfl⟩
  | queued _ _ _ => exact hinv.congr hparsed (fun _ => rfl) fun w ws' hw => .inr ⟨ws', hw, rfl⟩

theorem ExecEffect.ledger {cfg : Settings} (hcfg : cfg.Validated) {entry : EntryPoint}
    {inp : WorkerInput} {jid : Nat} {db db' : Db} (h : ExecEffect cfg entry inp jid db db')
    (hinv : LedgerInv db) : LedgerInv db' := by
  cases h with
  | idle _ => exact hinv
  | orphan _ _ _ _ => exact hinv.congr hinv.parsed (fun _ => rfl) fun w ws' hw => .inr ⟨ws', hw, rfl⟩
  | committed hs hc _ =>
      obtain ⟨hok, hp⟩ := hinv.claimed hs
      exact hinv.commit (executeClaimedJob_ledger cfg inp hcfg hok hp hc) jid
  | rolledBack _ _ _ =>
      exact hinv.congr hinv.parsed (fun _ => rfl) fun w ws' hw => .inr ⟨ws', hw, rfl⟩

theorem drainWorkspace_ledger {db : Db} (hinv : LedgerInv db) (ans : DrainAnswer) :
    LedgerInv (drainWorkspace db ans) := by
  unfold drainWorkspace
  split
  · exact hinv
  · rename_i ws hws
    split
    · exact hinv
    · have hres := processDurableCleanupTasks_map reserved_healthStatus ans.wid ws.status
        ans.stop
        { rt := db.runtimes.lookup ans.wid, tasks := db.tasksOf ans.wid, trace := [] }
      generalize processDurableCleanupTasksForWorkspace ans.wid ws.status ans.stop
        { rt := db.runtimes.lookup ans.wid, tasks := db.tasksOf ans.wid, trace := [] } = c at hres
      obtain ⟨rt, tasks, trace⟩ := c
      refine hinv.congr hinv.parsed (fun w => ?_) fun w ws' hw => .inr ⟨ws', hw, rfl⟩
      cases rt with
      | none => rfl
      | some r =>
          simp only [Table.lookup_insert_eq]
          split
          · rename_i hw
            rw [hw, ← hres]
          · rfl

theorem drainPendingCleanupTasks_ledger {db : Db} (hinv : LedgerInv db)
    (answers : List DrainAnswer) : LedgerInv (drainPendingCleanupTasks db answers) := by
  unfold drainPendingCleanupTasks
  induction answers generalizing db with
  | nil => exact hinv
  | cons ans answers ih => exact ih (drainWorkspace_ledger hinv ans)

theorem reclaimJob_ledger {cfg : Settings} {clk : Clock} {db : Db} {jid : Nat} {job : WorkspaceJob}
    (hinv : LedgerInv db) (hjob : db.jobs.lookup jid = some job) :
    LedgerInv (reclaimJob cfg clk db jid) := by
  have h := reclaimJob_effect cfg clk hjob
  generalize reclaimJob cfg clk db jid = db' at h
  cases h with
  | requeued _ _ _ => exact hinv.congr hinv.parsed (fun _ => rfl) fun w ws' hw => .inr ⟨ws', hw, rfl⟩
  | failedAlone _ _ _ => exact hinv.congr hinv.parsed (fun _ => rfl) fun w ws' hw => .inr ⟨ws', hw, rfl⟩
  | failedWithWorkspace _ _ _ _ _ hconf _ hst hrt =>
      refine ⟨fun w ws' hw => ?_, fun w r hr => ?_, hinv.parsed.congr hconf⟩
      · have hstw := hst w
        rw [hw, Option.map_some] at hstw
        rw [hrt w]
        split
        · exact clearRuntimeCapacityReservation_ok (hinv.sound w) _
        · rename_i hne
          rw [if_neg hne] at hstw
          obtain ⟨ws, hws, heq⟩ := Option.map_eq_some_iff.mp hstw.symm
          rw [← heq]
          exact hinv.rows w ws hws
      · rw [hrt w] at hr
        split at hr
        · exact (clearRuntimeCapacityReservation_ok (hinv.sound w) .running).sound r hr
        · exact hinv.sound w r hr

/-- A worker that dies has committed the row it claimed, at most after a cleanup pass. -/
theorem dieDuringJob_ledger {cfg : Settings} {inp : WorkerInput} {entry : EntryPoint}
    {point : CommitPoint} {jid : Nat} {db : Db} (hinv : LedgerInv db) :
    LedgerInv (dieDuringJob cfg inp entry point jid db) := by
  unfold dieDuringJob
  split
  · exact hinv
  · rename_i s' hs'
    obtain ⟨s, hs, hat⟩ := Option.bind_eq_some_iff.mp hs'
    obtain ⟨hok, -⟩ := hinv.claimed hs
    refine hinv.commit ?_ jid
    cases sessionAtCommit_cases cfg inp hat with
    | begun => exact beginCreate_ledger hok
    | cleaning turns => exact hok.congr (cleanupTurns_foldl_map reserved_healthStatus _ _ _ _ _)
    | cleaned => exact cleanupPass_ledger inp.reconcile hok

/-! ## Runs -/

/-- The configuration a step stages went through the request schema. -/
def FaultStep.accepted : FaultStep → Prop
  | .tick st => ∀ c ∈ st.config, c.accepted = true
  | .workerDies _ _ _ _ => True

theorem ledgerInv_faultStep {cfg : Settings} (hcfg : cfg.Validated) {db : Db} {st : FaultStep}
    (hinv : LedgerInv db) (hst : st.accepted) : LedgerInv (faultStep cfg db st) := by
  cases st with
  | workerDies entry inp point jid => exact dieDuringJob_ledger hinv
  | tick st =>
      have hparsed : ConfigsParsed (step cfg db st) := step_configsParsed hinv.parsed hst
      have h := tick_effect cfg db st
      show LedgerInv (step cfg db st)
      generalize step cfg db st = db' at h hparsed
      cases h with
      | intent h _ => exact h.ledger hinv hparsed
      | executed _ h => exact h.ledger hcfg hinv
      | drained _ => exact drainPendingCleanupTasks_ledger hinv _
      | reclaimed _ =>
          exact reclaimStuckRunningJobs_keeps hinv fun _ _ _ _ h _ _ hjob _ => reclaimJob_ledger h hjob

/-- `STOPPED`, `ERROR` or `DELETED` without a runtime row, or with nothing booked in it. -/
def LedgerHolds (db : Db) : Prop :=
  ∀ w ws r, db.workspaces.lookup w = some ws →
    ws.status = .stopped ∨ ws.status = .error ∨ ws.status = .deleted →
    db.runtimes.lookup w = some r → r.Released

theorem LedgerInv.holds {db : Db} (h : LedgerInv db) : LedgerHolds db := by
  intro w ws r hws hst hr
  refine (h.rows w ws hws).settled ?_ r hr
  rcases hst with hst | hst | hst <;> rw [hst] <;> rfl

/-- **The ledger follows the status**: in every state of every run of requests, executions,
drains, reclaims and worker deaths from a fresh installation, a workspace that is `STOPPED`,
`ERROR` or `DELETED` has booked nothing. -/
theorem reservations_follow_status {cfg : Settings} (hcfg : cfg.Validated)
    (nodes : Table Nat ExecutionNode) (topologies : List Int) {steps : List FaultStep}
    (hsteps : Along (faultStep cfg) (fun _ st => st.accepted) (initDb nodes topologies) steps) :
    Always (faultStep cfg) LedgerHolds (initDb nodes topologies) steps := by
  have h0 : LedgerInv (initDb nodes topologies) := by
    refine ⟨fun w ws hw => ?_, fun w r hr => ?_, fun k c hc => ?_⟩
    · simp [initDb] at hw
    · simp [initDb] at hr
    · simp [initDb] at hc
  have hinv : Always (faultStep cfg) LedgerInv (initDb nodes topologies) steps :=
    always_of_along h0 (fun db st h hst => ledgerInv_faultStep hcfg h hst) hsteps
  exact hinv.mono fun _ h => h.holds

/-- A workspace comes up, its first stop dies with the worker and is reclaimed, the second one
ends. -/
def stoppedTwice : List FaultStep :=
  [.tick (.createWorkspace { now := 10 } 7 "demo"
     { cpuLimitCores := .number 2, memoryLimitMib := .null, pidsLimit := .null }),
   .tick (.processNextQueuedJob (sampleWorker 20 sampleOrch) 1),
   .tick (.requestStopWorkspace { now := 30 } 1 7 7),
   .workerDies .runPendingJobs (sampleWorker 40 {}) .job 2,
   .tick (.reclaimStuckRunningJobs { now := 900 }),
   .tick (.processNextQueuedJob
     (sampleWorker 1000 { stopWorkspaceRuntime := .returned { success := true } }) 2)]

theorem stopped_twice_releases :
    Always (faultStep {}) LedgerHolds sampleDb stoppedTwice ∧
      ((run (faultStep {}) sampleDb stoppedTwice).workspaces.lookup 1).map (·.status) = some .stopped ∧
      ((run (faultStep {}) sampleDb stoppedTwice).runtimes.lookup 1).isSome = true := by
  refine ⟨reservations_follow_status ?_ _ _ ?_, by decide +kernel, by decide +kernel⟩
  · exact ⟨by norm_num, by decide, by decide⟩
  · refine ⟨?_, ?_, ?_, trivial, ?_, ?_, trivial⟩
    · intro c hc
      rw [← Option.some.inj hc]
      rfl
    all_goals intro c hc; cases hc

end Devnest
