import Devnest.ReservationLedger
import Devnest.RouteRepair

/-!
# What a reconcile writes over

A bring-up records in the runtime row which configuration the container
was made for, what is booked for it and which limits it got. The reconcile
of a healthy workspace goes through `_apply_runtime_bringup_like` as well,
but hands it less: no limits, no amounts, and the configuration version of
the day it was enqueued.

`healthy_reconcile_keeps_record`: a reconcile that finds the container
healthy leaves the record alone exactly when the row says already what it
is about to write.
-/

namespace Devnest

open PyText Runs

/-! ## The record -/

/-- The fields of a runtime row that describe the container's making. -/
structure RuntimeRecord where
  configVersion : Option Int
  reserved : ℚ × Int × Int
  appliedCpuLimitCores : Option ℚ
  appliedMemoryLimitMb : Option Int
  appliedPidsLimit : Option Int
  appliedSecurityOptions : Option WorkspaceContainerSecuritySpec
  deriving DecidableEq, Repr

/-- Nothing positive is booked. -/
def unbooked (amounts : ℚ × Int × Int) : Bool :=
  amounts.1 ≤ 0 && amounts.2.1 ≤ 0 && amounts.2.2 ≤ 0

/-- What is left of the amounts when a job fails for good. -/
def clearedAmounts (amounts : ℚ × Int × Int) : ℚ × Int × Int :=
  if unbooked amounts then amounts else (0, 0, 0)

namespace WorkspaceRuntime

def record (r : WorkspaceRuntime) : RuntimeRecord where
  configVersion := r.configVersion
  reserved := r.reserved
  appliedCpuLimitCores := r.appliedCpuLimitCores
  appliedMemoryLimitMb := r.appliedMemoryLimitMb
  appliedPidsLimit := r.appliedPidsLimit
  appliedSecurityOptions := r.appliedSecurityOptions

def onNode (r : WorkspaceRuntime) : Bool := stripOr r.nodeId ≠ ""

/-- No `applied_*` field is set. -/
def noApplied (r : WorkspaceRuntime) : Bool :=
  r.appliedCpuLimitCores = none && r.appliedMemoryLimitMb = none && r.appliedPidsLimit = none &&
    r.appliedSecurityOptions = none

end WorkspaceRuntime

/-! ## A healthy reconcile -/

/-- The health check of a reconcile: it succeeds, and reports the row's node, topology and
container. -/
structure SeesRow (inp : WorkerInput) (rt : WorkspaceRuntime) (health : WorkspaceBringUpResult) :
    Prop where
  answer : inp.orch.checkWorkspaceRuntimeHealth = .returned health
  success : health.success = true
  nodeId : health.nodeId = rt.nodeId
  topologyId : parseTopologyId health.topologyId = rt.topologyId
  containerId : health.containerId = rt.containerId

/-- The session of a claimed reconcile whose health check is made and sees the row. -/
structure HealthyReconcile (cfg : Settings) (inp : WorkerInput) (s : Session)
    (rt : WorkspaceRuntime) (health : WorkspaceBringUpResult) : Prop where
  jobType : s.job.jobType = .reconcileRuntime
  running : s.ws.status = .running
  row : s.rt = some rt
  placed : ∃ p, resolveOrchestratorPlacement cfg inp.placement s = .ok p
  bound : inp.binding = .bound
  locked : inp.lockAcquired = true
  sees : SeesRow inp rt health

/-- `endpoint_ref` as the sync leaves it. -/
def syncedEndpoint (ws : Workspace) (health : WorkspaceBringUpResult) (target : Option String) :
    Workspace :=
  let endpoint := (target.filter (· ≠ "")).or (health.internalEndpoint.filter (· ≠ ""))
  { ws with endpointRef := endpoint.or ws.endpointRef }

/-- What route-admin makes of the route part; without a gateway or an upstream it is not
asked. -/
def routeAnswer (cfg : Settings) (inp : WorkerInput) (s : Session) (health : WorkspaceBringUpResult)
    (target : Option String) : GatewayReply Unit :=
  let ws := syncedEndpoint s.ws health target
  let upstream := orText (stripOr target) (orText (stripOr health.internalEndpoint)
    (stripOr ws.endpointRef))
  if !cfg.devnestGatewayEnabled || upstream = "" then .ok ()
  else repairReply cfg inp.gateway { s with ws := ws } upstream

/-- The row has the job's version, no applied limits, and books `amounts`. -/
def WorkspaceRuntime.recordsJust (rt : WorkspaceRuntime) (version : Int) (amounts : ℚ × Int × Int) :
    Prop := rt.configVersion = some version ∧ rt.noApplied = true ∧ rt.reserved = amounts

/-- What a runtime on a node books by default. -/
def defaultAmounts (cfg : Settings) (rt : WorkspaceRuntime) : ℚ × Int × Int :=
  if rt.onNode then (cfg.devnestWorkspaceRequiredCpu, cfg.devnestWorkspaceRequiredMemoryMb,
    cfg.devnestWorkspaceRequiredDiskMb)
  else (0, 0, 0)

/-- The reconcile has nothing to write that the row does not say: it is rolled back; or the row
has no limits, the default amounts and the version of the job. A reconcile that fails for good
books nothing instead; and one that finds no route target only backfills missing amounts. -/
def KeepsRecord (cfg : Settings) (inp : WorkerInput) (s : Session) (rt : WorkspaceRuntime)
    (health : WorkspaceBringUpResult) : Prop :=
  match remoteGatewayRouteTargetForNode inp.port s health.nodeId health.gatewayRouteTarget
      health.internalEndpoint with
  | .error _ =>
      if attemptsRemain cfg s.job then rt.onNode = true → unbooked rt.reserved = false
      else rt.reserved = (0, 0, 0) ∨ (rt.onNode = false ∧ unbooked rt.reserved = true)
  | .ok target =>
      match routeAnswer cfg inp s health target with
      | .crashed => True
      | .ok () => rt.recordsJust s.job.requestedConfigVersion (defaultAmounts cfg rt)
      | .clientError message =>
          if (classifyReconcileFailure message).2 && attemptsRemain cfg s.job then
            rt.recordsJust s.job.requestedConfigVersion (defaultAmounts cfg rt)
          else rt.recordsJust s.job.requestedConfigVersion (clearedAmounts (defaultAmounts cfg rt))

/-! ## Rows -/

/-- The record of a container made for `version` that books `amounts` and has no limits. -/
def plainRecord (version : Int) (amounts : ℚ × Int × Int) : RuntimeRecord where
  configVersion := some version
  reserved := amounts
  appliedCpuLimitCores := none
  appliedMemoryLimitMb := none
  appliedPidsLimit := none
  appliedSecurityOptions := none

section Rows

variable {cfg : Settings} {rt : WorkspaceRuntime}

theorem plainRecord_eq_iff {version : Int} {amounts : ℚ × Int × Int} :
    plainRecord version amounts = rt.record ↔ rt.recordsJust version amounts := by
  simp only [plainRecord, WorkspaceRuntime.record, RuntimeRecord.mk.injEq, WorkspaceRuntime.recordsJust,
    WorkspaceRuntime.noApplied, Bool.and_eq_true, decide_eq_true_eq]
  constructor
  · rintro ⟨hv, ha, hcpu, hmem, hpids, hsec⟩
    exact ⟨hv.symm, ⟨⟨⟨hcpu.symm, hmem.symm⟩, hpids.symm⟩, hsec.symm⟩, ha.symm⟩
  · rintro ⟨hv, ⟨⟨⟨hcpu, hmem⟩, hpids⟩, hsec⟩, ha⟩
    exact ⟨hv.symm, ha.symm, hcpu.symm, hmem.symm, hpids.symm, hsec.symm⟩

/-- The sync, handed no limits, writes a plain record. -/
theorem record_applyRuntimeBringupLike {o : Option WorkspaceRuntime} {f : RuntimeFacts}
    {version : Int} {target : Option String} (hnode : f.nodeId = rt.nodeId)
    (hcpu : f.appliedCpuLimitCores = none) (hmem : f.appliedMemoryLimitMib = none)
    (hpids : f.appliedPidsLimit = none) (hsec : f.appliedSecurityOptions = none) :
    (applyRuntimeBringupLike cfg o f version target).record =
      plainRecord version (defaultAmounts cfg rt) := by
  unfold applyRuntimeBringupLike defaultAmounts WorkspaceRuntime.onNode
  rw [← hnode]
  dsimp only
  split
  · rename_i hblank
    rw [if_neg (by simpa using hblank)]
    rfl
  · rename_i hblank
    rw [if_pos (by simpa using hblank), hcpu, hmem, hpids, hsec]
    rfl

theorem applyRuntimeBringupLike_target (cfg : Settings) (o : Option WorkspaceRuntime)
    (f : RuntimeFacts) (version : Int) (target : Option String) :
    (applyRuntimeBringupLike cfg o f version target).gatewayRouteTarget = target := by
  unfold applyRuntimeBringupLike
  dsimp only
  split
  · rfl
  · rfl

theorem applyRuntimeBringupLike_endpoint (cfg : Settings) (o : Option WorkspaceRuntime)
    (f : RuntimeFacts) (version : Int) (target : Option String) :
    (applyRuntimeBringupLike cfg o f version target).internalEndpoint = f.internalEndpoint := by
  unfold applyRuntimeBringupLike
  dsimp only
  split
  · rfl
  · rfl

/-- A failure takes the bookings away, and nothing else of the record. -/
theorem record_clearRuntimeCapacityReservation (r : WorkspaceRuntime) :
    (clearRuntimeCapacityReservation (some r)).map (·.record) =
      some { r.record with reserved := clearedAmounts r.reserved } := by
  unfold clearedAmounts
  by_cases h : unbooked r.reserved = true
  · have hsame : clearRuntimeCapacityReservation (some r) = some r := congrArg some (if_pos h)
    rw [hsame, if_pos h]
    rfl
  · have hzero : clearRuntimeCapacityReservation (some r) =
        some { r with reservedCpu := 0, reservedMemoryMb := 0, reservedDiskMb := 0 } :=
      congrArg some (if_neg h)
    rw [hzero, if_neg h]
    rfl

end Rows

/-! ## Retries -/

/-- A retried job leaves the runtime row to the next attempt. -/
theorem retryElse_rt (cfg : Settings) (clk : Clock) (s terminal : Session) (retryable : Bool)
    (message : String) (stage : FailureStage) (code : String) :
    (retryElse cfg clk s retryable message stage code terminal).rt =
      if retryable && attemptsRemain cfg s.job then s.rt else terminal.rt := by
  unfold retryElse tryScheduleWorkspaceJobRetry
  cases retryable with
  | false => rfl
  | true =>
      cases attemptsRemain cfg s.job with
      | false => rfl
      | true => rfl

/-- A reconcile of a running workspace that fails for good takes its bookings away. -/
theorem failReconcile_rt {cfg : Settings} {clk : Clock} {s : Session} (hst : s.ws.status = .running)
    (message : String) :
    (failReconcile cfg clk s message).rt =
      if (classifyReconcileFailure message).2 && attemptsRemain cfg s.job then s.rt
      else clearRuntimeCapacityReservation s.rt := by
  rw [failReconcile_eq, retryElse_rt, hst]
  rfl

/-! ## The execution -/

section Execution

variable {cfg : Settings} {inp : WorkerInput} {s : Session} {rt : WorkspaceRuntime}
variable {health : WorkspaceBringUpResult}

/-- The runtime row of the workspace after an execution. -/
def Execution.row (ex : Execution) (before : Option WorkspaceRuntime) : Option WorkspaceRuntime :=
  if ex.committed then ex.session.rt else before

/-- On a node, missing amounts are backfilled. -/
theorem repairRuntimeCapacityLedger_running (r : WorkspaceRuntime) :
    repairRuntimeCapacityLedger .running (some r) =
      some (if r.onNode && unbooked r.reserved then
        { r with reservedCpu := 1, reservedMemoryMb := 512, reservedDiskMb := 4096 } else r) := by
  have hcond : (decide (WorkspaceStatus.running = .running) && decide (stripOr r.nodeId ≠ "") &&
      decide (r.reservedCpu ≤ 0) && decide (r.reservedMemoryMb ≤ 0) && decide (r.reservedDiskMb ≤ 0)) =
        (r.onNode && unbooked r.reserved) := by
    rw [decide_eq_true rfl, Bool.true_and]
    simp only [WorkspaceRuntime.onNode, unbooked, WorkspaceRuntime.reserved, Bool.and_assoc]
    rfl
  unfold repairRuntimeCapacityLedger
  rw [Option.map_some, if_neg (by decide), hcond]

namespace HealthyReconcile

/-- The session when the health check is made: the backlog is worked off and missing amounts are
backfilled. -/
theorem cleanupPass_row (h : HealthyReconcile cfg inp s rt health) :
    ∃ r, r.record = rt.record ∧ r.nodeId = rt.nodeId ∧ (cleanupPass inp.reconcile s).rt =
      some (if rt.onNode && unbooked rt.reserved then
        { r with reservedCpu := 1, reservedMemoryMb := 512, reservedDiskMb := 4096 } else r) := by
  have hmap := processDurableCleanupTasks_map (f := fun r => (r.record, r.nodeId)) (fun _ _ => rfl)
    s.wid s.ws.status inp.reconcile.orch.cleanupStop ⟨s.rt, s.tasks, s.trace⟩
  unfold cleanupPass
  dsimp only
  generalize processDurableCleanupTasksForWorkspace s.wid s.ws.status inp.reconcile.orch.cleanupStop
    ⟨s.rt, s.tasks, s.trace⟩ = c at hmap
  rw [h.row, Option.map_some] at hmap
  obtain ⟨r, hr, hpair⟩ := Option.map_eq_some_iff.mp hmap
  obtain ⟨hrec, hnode⟩ := Prod.mk.inj hpair
  refine ⟨r, hrec, hnode, ?_⟩
  have hon : r.onNode = rt.onNode := by
    unfold WorkspaceRuntime.onNode
    rw [hnode]
  have hbook : r.reserved = rt.reserved := congrArg RuntimeRecord.reserved hrec
  rw [hr, h.running, ← hon, ← hbook]
  exact repairRuntimeCapacityLedger_running r

/-- The job gets as far as the health check. -/
theorem execution (h : HealthyReconcile cfg inp s rt health) (entry : EntryPoint) :
    ∃ nodeKey, executeClaimedJob cfg inp entry s = processClaimedRunningJob cfg inp s (some nodeKey) := by
  obtain ⟨⟨nodeKey, tid⟩, hplaced⟩ := h.placed
  have hdelete : s.job.jobType ≠ .delete := by
    rw [h.jobType]
    exact nofun
  have hrepo : s.job.jobType ≠ .repoImport := by
    rw [h.jobType]
    exact nofun
  refine ⟨nodeKey, ?_⟩
  rw [executeClaimedJob_eq cfg inp entry hdelete]
  unfold placeAndProcess
  rw [hplaced]
  dsimp only
  rw [if_neg hrepo, h.bound, beginCreate_of_aux (by rw [h.jobType]; rfl)]

theorem body (h : HealthyReconcile cfg inp s rt health) :
    executeJobBody cfg inp s =
      reconcileRunning cfg inp.clk inp.reconcile (cleanupPass inp.reconcile s) := by
  have hlock : inp.reconcile.lockAcquired = true := h.locked
  unfold executeJobBody
  rw [h.jobType]
  dsimp only
  rw [executeReconcileRuntimeJob_eq, hlock, h.running]
  rfl

/-- Without a route target the job fails before the sync. -/
theorem row_of_error (h : HealthyReconcile cfg inp s rt health) {e : WorkspaceBringUpError}
    (htarget : remoteGatewayRouteTargetForNode inp.port s health.nodeId health.gatewayRouteTarget
      health.internalEndpoint = .error e) (nodeKey : Option String) :
    (processClaimedRunningJob cfg inp s nodeKey).row (some rt) =
      if attemptsRemain cfg s.job then (cleanupPass inp.reconcile s).rt
      else clearRuntimeCapacityReservation (cleanupPass inp.reconcile s).rt := by
  have hjob : (cleanupPass inp.reconcile s).job = s.job := rfl
  have htarget' : remoteGatewayRouteTargetForNode inp.reconcile.port (cleanupPass inp.reconcile s)
      health.nodeId health.gatewayRouteTarget health.internalEndpoint = .error e := htarget
  have hraised : reconcileRunning cfg inp.clk inp.reconcile (cleanupPass inp.reconcile s) =
      .raised (.bringUp e) (cleanupPass inp.reconcile s) := by
    unfold reconcileRunning
    rw [show inp.reconcile.orch.checkWorkspaceRuntimeHealth = .returned health from h.sees.answer]
    dsimp only
    rw [h.sees.success, htarget']
    rfl
  unfold processClaimedRunningJob
  rw [h.body, hraised]
  generalize cleanupPass inp.reconcile s = t at hjob ⊢
  have hsync : syncAfterException t (.bringUp e) = t := by
    show syncRuntimeAfterBringupException t e = t
    unfold syncRuntimeAfterBringupException
    rw [remoteGatewayRouteTargetForNode_no_rollback htarget]
    rfl
  show (handleOrchestratorException cfg inp t nodeKey (.bringUp e)).rt = _
  unfold handleOrchestratorException
  rw [hsync]
  dsimp only
  rw [hjob, h.jobType, show nodeReadinessRetryAllowed .reconcileRuntime = false from rfl, Bool.false_and,
    if_neg Bool.false_ne_true, retryElse_rt, hjob]
  rfl

/-- With one, what the sync wrote stays, unless route-admin makes the job fail or crash. -/
theorem row_of_target (h : HealthyReconcile cfg inp s rt health) {target : Option String}
    (htarget : remoteGatewayRouteTargetForNode inp.port s health.nodeId health.gatewayRouteTarget
      health.internalEndpoint = .ok target) (nodeKey : Option String) :
    ∃ r, r.record = plainRecord s.job.requestedConfigVersion (defaultAmounts cfg rt) ∧
      (processClaimedRunningJob cfg inp s nodeKey).row (some rt) =
        match routeAnswer cfg inp s health target with
        | .crashed => some rt
        | .ok () => some r
        | .clientError message =>
            if (classifyReconcileFailure message).2 && attemptsRemain cfg s.job then some r
            else clearRuntimeCapacityReservation (some r) := by
  let r := applyRuntimeBringupLike cfg (cleanupPass inp.reconcile s).rt
    { health.facts with
      appliedCpuLimitCores := none, appliedMemoryLimitMib := none
      appliedPidsLimit := none, appliedSecurityOptions := none }
    s.job.requestedConfigVersion target
  let t : Session := { cleanupPass inp.reconcile s with
    rt := some r, ws := syncedEndpoint s.ws health target }
  have htarget' : remoteGatewayRouteTargetForNode inp.reconcile.port (cleanupPass inp.reconcile s)
      health.nodeId health.gatewayRouteTarget health.internalEndpoint = .ok target := htarget
  have hroute : reconcileRunning cfg inp.clk inp.reconcile (cleanupPass inp.reconcile s) =
      settleExit cfg inp.clk t (routeAnswer cfg inp s health target) := by
    unfold reconcileRunning
    rw [show inp.reconcile.orch.checkWorkspaceRuntimeHealth = .returned health from h.sees.answer]
    dsimp only
    rw [h.sees.success, htarget']
    show reconcileRunningRoute cfg inp.clk inp.reconcile t r = _
    rw [reconcileRunningRoute_eq]
    unfold routeAnswer
    dsimp only
    have hgrt : r.gatewayRouteTarget = target := applyRuntimeBringupLike_target ..
    have hendpoint : r.internalEndpoint = health.internalEndpoint := applyRuntimeBringupLike_endpoint ..
    have hupstream : traefikUpstreamForWorkspaceGateway t.ws r = orText (stripOr target)
        (orText (stripOr health.internalEndpoint)
          (stripOr (syncedEndpoint s.ws health target).endpointRef)) := by
      unfold traefikUpstreamForWorkspaceGateway
      rw [hgrt, hendpoint]
    rw [hupstream, apply_ite (settleExit cfg inp.clk t)]
    rfl
  have hrec : r.record = plainRecord s.job.requestedConfigVersion (defaultAmounts cfg rt) :=
    record_applyRuntimeBringupLike h.sees.nodeId rfl rfl rfl rfl
  refine ⟨r, hrec, ?_⟩
  unfold processClaimedRunningJob
  rw [h.body, hroute]
  have hrunning : t.ws.status = .running := h.running
  have hjob : t.job = s.job := rfl
  have hrt : t.rt = some r := rfl
  clear_value t r
  cases routeAnswer cfg inp s health target with
  | ok => exact hrt
  | crashed => rfl
  | clientError message =>
      show (failReconcile cfg inp.clk t message).rt = _
      rw [failReconcile_rt hrunning, hjob, hrt]

end HealthyReconcile

end Execution

/-! ## The reconcile of a healthy workspace -/

section Healthy

variable {cfg : Settings} {entry : EntryPoint} {inp : WorkerInput} {db : Db} {jid : Nat}
variable {s : Session} {rt : WorkspaceRuntime} {health : WorkspaceBringUpResult}

theorem reserved_eq_iff {amounts : ℚ × Int × Int} :
    { rt.record with reserved := amounts } = rt.record ↔ amounts = rt.reserved := by
  constructor
  · exact fun h => congrArg RuntimeRecord.reserved h
  · rintro rfl
    rfl

/-- Clearing is idle exactly where nothing is booked. -/
theorem clearedAmounts_eq_iff (amounts : ℚ × Int × Int) :
    clearedAmounts amounts = amounts ↔ unbooked amounts = true := by
  unfold clearedAmounts
  split
  · rename_i h
    exact iff_of_true rfl h
  · rename_i h
    refine iff_of_false (fun heq => h ?_) h
    rw [← heq]
    rfl

/-- The runtime row of the workspace after a job. -/
theorem runJob_runtime (hs : claimJob inp jid db = some s)
    (hwid : (executeClaimedJob cfg inp entry s).committed = true →
      (executeClaimedJob cfg inp entry s).session.wid = s.wid) :
    (runJob cfg entry inp jid db).runtimes.lookup s.wid =
      (executeClaimedJob cfg inp entry s).row (db.runtimes.lookup s.wid) := by
  rw [runJob_of_claim hs]
  unfold Execution.row
  cases hc : (executeClaimedJob cfg inp entry s).committed with
  | false => rfl
  | true => simp [hwid hc]

/-- Before the sync only missing amounts are written. -/
theorem HealthyReconcile.kept_of_error (h : HealthyReconcile cfg inp s rt health)
    {e : WorkspaceBringUpError}
    (htarget : remoteGatewayRouteTargetForNode inp.port s health.nodeId health.gatewayRouteTarget
      health.internalEndpoint = .error e) (nodeKey : Option String) :
    ((processClaimedRunningJob cfg inp s nodeKey).row (some rt)).map (·.record) = some rt.record ↔
      if attemptsRemain cfg s.job then rt.onNode = true → unbooked rt.reserved = false
      else rt.reserved = (0, 0, 0) ∨ (rt.onNode = false ∧ unbooked rt.reserved = true) := by
  obtain ⟨r, hrec, -, hrow⟩ := h.cleanupPass_row
  have hbook : r.reserved = rt.reserved := congrArg RuntimeRecord.reserved hrec
  rw [h.row_of_error htarget, hrow]
  by_cases hfill : (rt.onNode && unbooked rt.reserved) = true
  · obtain ⟨hon, hnone⟩ := Bool.and_eq_true_iff.mp hfill
    rw [if_pos hfill]
    have hfilled : ({ r with
        reservedCpu := 1, reservedMemoryMb := 512, reservedDiskMb := 4096 } : WorkspaceRuntime).record =
          { rt.record with reserved := (1, 512, 4096) } := by
      rw [← hrec]
      rfl
    split
    · rw [Option.map_some, hfilled, Option.some.injEq, reserved_eq_iff]
      refine iff_of_false (fun hsame => ?_) fun himp => ?_
      · rw [← hsame] at hnone
        exact absurd hnone (by decide)
      · rw [himp hon] at hnone
        cases hnone
    · have hzero : clearedAmounts ({ r with
          reservedCpu := 1, reservedMemoryMb := 512, reservedDiskMb := 4096 } : WorkspaceRuntime).reserved =
            (0, 0, 0) := by
        show clearedAmounts (1, 512, 4096) = _
        decide
      rw [record_clearRuntimeCapacityReservation, hfilled, hzero, Option.some.injEq]
      refine reserved_eq_iff.trans ⟨fun hsame => .inl hsame.symm, ?_⟩
      rintro (hsame | ⟨hoff, -⟩)
      · exact hsame.symm
      · rw [hoff] at hon
        cases hon
  · rw [if_neg hfill]
    have hoff : unbooked rt.reserved = true → rt.onNode = false := by
      intro hnone
      rw [hnone, Bool.and_true] at hfill
      exact Bool.eq_false_iff.mpr hfill
    split
    · rw [Option.map_some, hrec]
      refine iff_of_true rfl fun hon => Bool.eq_false_iff.mpr fun hnone => ?_
      rw [hoff hnone] at hon
      cases hon
    · rw [record_clearRuntimeCapacityReservation, hrec, hbook, Option.some.injEq, reserved_eq_iff,
        clearedAmounts_eq_iff]
      constructor
      · exact fun hnone => .inr ⟨hoff hnone, hnone⟩
      · rintro (hzero | ⟨-, hnone⟩)
        · rw [hzero]
          decide
        · exact hnone

/-- **Reconciling a healthy workspace** leaves the record of its container alone exactly when
the row already says what the reconcile is about to write. -/
theorem healthy_reconcile_keeps_record (hs : claimJob inp jid db = some s)
    (h : HealthyReconcile cfg inp s rt health) :
    ((runJob cfg entry inp jid db).runtimes.lookup s.wid).map (·.record) = some rt.record ↔
      KeepsRecord cfg inp s rt health := by
  have hlife : s.job.jobType.isLifecycle = false := by
    rw [h.jobType]
    rfl
  have hbefore : db.runtimes.lookup s.wid = some rt := (claimJob_claimed hs).rt ▸ h.row
  rw [runJob_runtime hs fun hc => ((executeClaimedJob_aux cfg inp entry hlife).1 hc).target.1, hbefore]
  obtain ⟨nodeKey, hex⟩ := h.execution entry
  rw [hex]
  unfold KeepsRecord
  cases htarget : remoteGatewayRouteTargetForNode inp.port s health.nodeId health.gatewayRouteTarget
      health.internalEndpoint with
  | error e => exact h.kept_of_error htarget _
  | ok target =>
      obtain ⟨r, hrec, hrow⟩ := h.row_of_target htarget (some nodeKey)
      rw [hrow]
      dsimp only
      cases routeAnswer cfg inp s health target with
      | crashed => exact iff_of_true rfl trivial
      | ok =>
          dsimp only
          rw [Option.map_some, hrec, Option.some.injEq, plainRecord_eq_iff]
      | clientError message =>
          dsimp only
          split
          · rw [Option.map_some, hrec, Option.some.injEq, plainRecord_eq_iff]
          · have hbook : r.reserved = defaultAmounts cfg rt := congrArg RuntimeRecord.reserved hrec
            rw [record_clearRuntimeCapacityReservation, hrec, hbook, Option.some.injEq]
            exact plainRecord_eq_iff

/-- What the orchestrator reports of the container of a bring-up. -/
def seenOrch (up : WorkspaceBringUpResult) : OrchestratorService where
  bringUpWorkspaceRuntime := .returned up
  checkWorkspaceRuntimeHealth := .returned up

/-- A workspace is created, comes up, and is going to be reconciled. -/
def upThenReconcile (up : WorkspaceBringUpResult) : Db :=
  run (step {}) sampleDb
    [.createWorkspace { now := 0 } 7 "a" {},
     .processNextQueuedJob (sampleWorker 1 (seenOrch up)) 1,
     .enqueueReconcileRuntimeJob { now := 2 } 1]

/-- The row that the bring-up writes. -/
def seenRow (up : WorkspaceBringUpResult) : WorkspaceRuntime :=
  applyRuntimeBringupLike {} none up.facts 1 none

/-- The reconcile of that workspace is claimed, and gets as far as the health check. -/
def isClaimedHealthy (up : WorkspaceBringUpResult) : Bool :=
  (claimJob (sampleWorker 3 (seenOrch up)) 2 (upThenReconcile up)).any fun s =>
    s.job.jobType = .reconcileRuntime && s.ws.status = .running && s.rt = some (seenRow up) &&
      s.wid = 1 && (resolveOrchestratorPlacement {} { schedule := .chosen sampleNode } s).toOption.isSome

theorem exists_healthyReconcile {up : WorkspaceBringUpResult} (h : isClaimedHealthy up = true)
    (hsees : SeesRow (sampleWorker 3 (seenOrch up)) (seenRow up) up) :
    ∃ s, claimJob (sampleWorker 3 (seenOrch up)) 2 (upThenReconcile up) = some s ∧ s.wid = 1 ∧
      HealthyReconcile {} (sampleWorker 3 (seenOrch up)) s (seenRow up) up := by
  obtain ⟨s, hs, hall⟩ := (Option.any_eq_true _ _).mp h
  simp only [Bool.and_eq_true, decide_eq_true_eq] at hall
  obtain ⟨⟨⟨⟨hjt, hrun⟩, hrow⟩, hwid⟩, hplaced⟩ := hall
  refine ⟨s, hs, hwid, hjt, hrun, hrow, ?_, rfl, rfl, hsees⟩
  cases hp : resolveOrchestratorPlacement {} { schedule := .chosen sampleNode } s with
  | ok p => exact ⟨p, hp⟩
  | error e =>
      rw [hp] at hplaced
      cases hplaced

/-- The row of a container without limits stays. -/
theorem unlimited_record_kept :
    ∃ s, HealthyReconcile {} (sampleWorker 3 (seenOrch sampleUp)) s (seenRow sampleUp) sampleUp ∧
      KeepsRecord {} (sampleWorker 3 (seenOrch sampleUp)) s (seenRow sampleUp) sampleUp := by
  obtain ⟨s, hs, hwid, hhealthy⟩ := @exists_healthyReconcile sampleUp (by decide +kernel)
    ⟨rfl, rfl, rfl, rfl, rfl⟩
  have hkept : ((runJob {} .runPendingJobs (sampleWorker 3 (seenOrch sampleUp)) 2
      (upThenReconcile sampleUp)).runtimes.lookup 1).map (·.record) =
        some (seenRow sampleUp).record := by decide +kernel
  rw [← hwid] at hkept
  exact ⟨s, hhealthy, (healthy_reconcile_keeps_record hs hhealthy).mp hkept⟩

/-- The container has one CPU. -/
def limitedUp : WorkspaceBringUpResult := { sampleUp with appliedCpuLimitCores := some 1 }

/-- The reconcile forgets its limits. -/
theorem reconcile_erases_limits :
    ¬ ∀ (cfg : Settings) (nodes : Table Nat ExecutionNode) (topologies : List Int) (db : Db)
      (entry : EntryPoint) (inp : WorkerInput) (jid : Nat) (s : Session) (rt : WorkspaceRuntime)
      (health : WorkspaceBringUpResult), Reachable (step cfg) (initDb nodes topologies) db →
      claimJob inp jid db = some s → HealthyReconcile cfg inp s rt health →
      (∃ o f version target, rt = applyRuntimeBringupLike cfg o f version target) →
        ((runJob cfg entry inp jid db).runtimes.lookup s.wid).map (·.record) = some rt.record := by
  intro hall
  obtain ⟨s, hs, hwid, hhealthy⟩ := @exists_healthyReconcile limitedUp (by decide +kernel)
    ⟨rfl, rfl, rfl, rfl, rfl⟩
  have hkept := hall {} _ _ (upThenReconcile limitedUp) .runPendingJobs _ 2 s _ limitedUp ⟨_, rfl⟩ hs hhealthy ⟨_, _, _, _, rfl⟩
  have herased : ((runJob {} .runPendingJobs (sampleWorker 3 (seenOrch limitedUp)) 2
      (upThenReconcile limitedUp)).runtimes.lookup 1).map (·.record) =
        some (plainRecord 1 (1, 512, 4096)) := by decide +kernel
  rw [hwid, herased] at hkept
  exact absurd hkept (by decide +kernel)

end Healthy

end Devnest
